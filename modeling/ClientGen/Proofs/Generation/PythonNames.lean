import ClientGen.Proofs.Generation.Calls
import ClientGen.Proofs.Generation.ClosedFiles

/-!
# The names in Python

The name of a method is its operation id in `snake_case`, and the name of an argument is that of its
parameter, if that is a name of the language, and else in `snake_case` as well. A keyword gets an
underscore. No argument has a keyword for its name. But nothing is done about names that agree when
they are written like this, and nothing about names that are none of the language afterwards. These
are the ones without letters or digits, the ones whose first letter or digit is a digit, and the few
with a letter whose lower case holds something else.

## Main definitions

* `ClientGen.Python.IsName` — the names of the language, keywords included.
* `ClientGen.Python.CanBeName` — the names of an API that become names of the language.
* `ClientGen.Python.Clashes` — two names of an API that become one.
* `ClientGen.Python.Declares` — that a text declares a method with a name and arguments.

## Main results

* `ClientGen.Python.isName_safeName_iff`, `ClientGen.Python.safeName_not_mem_keywords`,
  `ClientGen.Python.safeName_eq_iff` — which names a name of an API becomes.
* `ClientGen.Python.definition_names` — what the names of methods and of their arguments are, when
  they are distinct, and when they are names of the language.
-/

set_option autoImplicit false

namespace ClientGen.Python

open Rendering Text Unicode

variable {name first second : String}

/-! ## Names of the language -/

/-- A name of the language: a letter or an underscore, and then letters, digits and underscores. It
may be a keyword. -/
def IsName (name : String) : Prop :=
  (∃ c, name.toList.head? = some c ∧ (isAlphabetic c = true ∨ c = '_')) ∧
    ∀ c ∈ name.toList, isAlphanumeric c = true ∨ c = '_'

/-- The names that can be used as they are, are the names of the language. -/
theorem isPlainName_iff : isPlainName name = true ↔ IsName name := by
  rw [isPlainName, Bool.and_eq_true, isIdentifier_iff, Bool.not_eq_true', List.contains_eq_mem,
    decide_eq_false_iff_not, IsName]
  constructor
  · rintro ⟨⟨⟨c, hhead, hc⟩, hall⟩, hdollar⟩
    have hsymbol : ∀ d ∈ name.toList, isIdentifierSymbol d = true → d = '_' := by
      intro d hd hd'
      rw [isIdentifierSymbol, Bool.or_eq_true, decide_eq_true_iff, decide_eq_true_iff] at hd'
      exact hd'.resolve_right fun he => hdollar (he ▸ hd)
    exact ⟨⟨c, hhead, hc.imp_right (hsymbol c (List.mem_of_head? hhead))⟩,
      fun d hd => (hall d hd).imp_right (hsymbol d hd)⟩
  · rintro ⟨⟨c, hhead, hc⟩, hall⟩
    have hunderscore : ∀ d : Char, d = '_' → isIdentifierSymbol d = true := by
      rintro _ rfl
      rfl
    refine ⟨⟨⟨c, hhead, hc.imp_right (hunderscore c)⟩,
      fun d hd => (hall d hd).imp_right (hunderscore d)⟩, fun hdollar => ?_⟩
    exact absurd (hall '$' hdollar) (by decide)

instance (name : String) : Decidable (IsName name) := decidable_of_iff _ isPlainName_iff

/-- A keyword is a name of the language, with and without an underscore, and with one it is no
keyword. -/
lemma isName_of_mem_keywords (h : name ∈ keywords) :
    IsName name ∧ IsName (name ++ "_") ∧ name ++ "_" ∉ keywords := by
  have hall : ∀ keyword ∈ keywords, isPlainName keyword = true ∧
      isPlainName (keyword ++ "_") = true ∧ keyword ++ "_" ∉ keywords := by
    decide
  exact (hall name h).imp isPlainName_iff.mp (And.imp_left isPlainName_iff.mp)

/-- What a name of an API becomes, keywords aside. -/
def plainForm (name : String) : String := if isPlainName name then name else snakeCase name

/-- A keyword gets an underscore. -/
lemma safeName_eq (name : String) : safeName name =
    if plainForm name ∈ keywords then plainForm name ++ "_" else plainForm name := by
  show (if keywords.contains (plainForm name) then plainForm name ++ "_" else plainForm name) = _
  simp only [List.contains_iff_mem]

/-- A name of the language stays as it is. -/
lemma plainForm_of_isName (h : IsName name) : plainForm name = name :=
  if_pos (isPlainName_iff.mpr h)

/-- Any other name is written in `snake_case`. -/
lemma plainForm_of_not_isName (h : ¬IsName name) : plainForm name = snakeCase name :=
  if_neg (mt isPlainName_iff.mp h)

/-- No name of an API becomes a keyword. -/
theorem safeName_not_mem_keywords (name : String) : safeName name ∉ keywords := by
  rw [safeName_eq]
  split_ifs with h
  · exact (isName_of_mem_keywords h).2.2
  · exact h

/-! ## Names that become names of the language -/

/-- A name that becomes a name of the language: it is one, or its letters and digits in lower case
are one. -/
def CanBeName (name : String) : Prop :=
  IsName name ∨ IsName (String.ofList (lowerLetters name.toList))

instance (name : String) : Decidable (CanBeName name) := inferInstanceAs (Decidable (_ ∨ _))

/-- Underscores between the words make no difference. -/
lemma isName_snakeCase_iff :
    IsName (snakeCase name) ↔ IsName (String.ofList (lowerLetters name.toList)) := by
  rw [IsName, IsName, snakeCase, String.toList_ofList, String.toList_ofList, head?_snakeCaseChars,
    ← filter_snakeCaseChars]
  refine and_congr_right fun _ => ⟨fun h c hc => h c (List.mem_filter.mp hc).1, fun h c hc => ?_⟩
  by_cases hmark : c = '_'
  · exact Or.inr hmark
  · exact h c (List.mem_filter.mpr ⟨hc, decide_eq_true hmark⟩)

/-- What becomes a name of the language. -/
theorem isName_safeName_iff : IsName (safeName name) ↔ CanBeName name := by
  have hplain : IsName (safeName name) ↔ IsName (plainForm name) := by
    rw [safeName_eq]
    split_ifs with h
    · exact iff_of_true (isName_of_mem_keywords h).2.1 (isName_of_mem_keywords h).1
    · exact Iff.rfl
  rw [hplain, CanBeName]
  by_cases h : IsName name
  · rw [plainForm_of_isName h]
    exact iff_of_true h (Or.inl h)
  · rw [plainForm_of_not_isName h, isName_snakeCase_iff, or_iff_right h]

/-! ## Names that clash -/

/-- Two names of an API that become one name of the language. -/
inductive Clashes : String → String → Prop
  /-- The two are the same. -/
  | same (name : String) : Clashes name name
  /-- Neither is a name of the language, and they have the same words. -/
  | words {first second : String} : ¬IsName first → ¬IsName second →
      words first.toList = words second.toList → Clashes first second
  /-- One is a name of the language, and the other one becomes that. -/
  | joined {second : String} : IsName (snakeCase second) → ¬IsName second →
      Clashes (snakeCase second) second
  /-- One becomes a keyword, and the other one is that with an underscore. -/
  | keyword {first : String} : plainForm first ∈ keywords → Clashes first (plainForm first ++ "_")
  /-- Clashing is mutual. -/
  | symm {first second : String} : Clashes first second → Clashes second first

/-- Names with the same form clash. -/
lemma clashes_of_plainForm_eq (h : plainForm first = plainForm second) : Clashes first second := by
  by_cases hfirst : IsName first <;> by_cases hsecond : IsName second
  · rw [plainForm_of_isName hfirst, plainForm_of_isName hsecond] at h
    exact h ▸ .same first
  · rw [plainForm_of_isName hfirst, plainForm_of_not_isName hsecond] at h
    subst h
    exact .joined hfirst hsecond
  · rw [plainForm_of_not_isName hfirst, plainForm_of_isName hsecond] at h
    subst h
    exact .symm (.joined hsecond hfirst)
  · rw [plainForm_of_not_isName hfirst, plainForm_of_not_isName hsecond] at h
    exact .words hfirst hsecond (snakeCase_eq_iff.mp h)

/-- A name whose form is a keyword with an underscore is just that. -/
lemma eq_of_plainForm_eq_append {keyword : String} (h : plainForm name = keyword ++ "_") :
    name = keyword ++ "_" := by
  by_cases hname : IsName name
  · rwa [plainForm_of_isName hname] at h
  · rw [plainForm_of_not_isName hname] at h
    have hchars := congrArg String.toList h
    rw [snakeCase, String.toList_ofList, String.toList_append] at hchars
    exact absurd hchars (snakeCaseChars_ne_append _ _)

/-- Two names of an API become one just if they clash.

**Proof sketch.** The names have forms, which get an underscore if they are keywords. If both do or
neither does, the forms agree. If one does, the other form ends with an underscore, so it is not in
`snake_case`. -/
theorem safeName_eq_iff : safeName first = safeName second ↔ Clashes first second := by
  constructor
  · intro h
    rw [safeName_eq, safeName_eq] at h
    split_ifs at h with hfirst hsecond hsecond
    · exact clashes_of_plainForm_eq (String.append_left_inj _ |>.mp h)
    · exact eq_of_plainForm_eq_append h.symm ▸ .keyword hfirst
    · exact .symm (eq_of_plainForm_eq_append h ▸ .keyword hsecond)
    · exact clashes_of_plainForm_eq h
  · intro h
    induction h with
    | same => rfl
    | words hfirst hsecond hwords =>
      rw [safeName_eq, safeName_eq, plainForm_of_not_isName hfirst,
        plainForm_of_not_isName hsecond, snakeCase_eq_iff.mpr hwords]
    | joined hfirst hsecond =>
      rw [safeName_eq, safeName_eq, plainForm_of_isName hfirst, plainForm_of_not_isName hsecond]
    | keyword hfirst =>
      obtain ⟨-, hname, hfree⟩ := isName_of_mem_keywords hfirst
      rw [safeName_eq, safeName_eq, if_pos hfirst, plainForm_of_isName hname, if_neg hfree]
    | symm _ ih => exact ih.symm

/-! ## Signatures -/

/-- The names that the arguments of a method stand for. -/
def statedNames (method : Method) : List String :=
  "self" :: method.allParameters.map (·.name) ++ ["transport_options"]

/-- The names of the arguments of a method. -/
def argumentNames (method : Method) : List String :=
  "self" :: (method.allParameters.map fun p => safeName p.name) ++ ["transport_options"]

/-- The arguments stand for the parameters, and there are two more. -/
lemma mem_statedNames {method : Method} : name ∈ statedNames method ↔
    name = "self" ∨ (∃ p ∈ method.parameters, p.name = name) ∨ name = "transport_options" := by
  simp [statedNames, Method.mem_allParameters]

/-- The names of the arguments are what the names that they stand for become. -/
lemma argumentNames_eq (method : Method) :
    argumentNames method = (statedNames method).map safeName := by
  have hself : safeName "self" = "self" := by decide
  have hoptions : safeName "transport_options" = "transport_options" := by decide
  rw [argumentNames, statedNames, List.map_append, List.map_cons, List.map_map, hself,
    List.map_singleton, hoptions]
  rfl

/-- The lines are the signature of a method with the given name and arguments: a comment, the name,
one line for each argument, which has a type or not, and the type of the result. -/
def IsSignature (name : String) (arguments lines : List String) : Prop :=
  ∃ (comment returns : String) (middle : List String),
    lines = (indent 1 ++ "# " ++ comment) :: (indent 1 ++ "def " ++ name ++ "(") :: middle ++
      [indent 1 ++ ") -> " ++ returns ++ ":"] ∧
    List.Forall₂ (fun argument line => line = indent 2 ++ argument ++ "," ∨
      ∃ type, line = indent 2 ++ argument ++ ": " ++ type ++ ",") arguments middle

/-- The text declares a method with the given name and arguments. -/
def Declares (name : String) (arguments : List String) (text : String) : Prop :=
  ∃ definition : Definition, text = definition.render 1 ∧
    IsSignature name arguments (definition.signature 1)

/-- The signature of a method has its name and its arguments. -/
lemma isSignature_signature (definition : Definition) : IsSignature definition.name
    ("self" :: definition.arguments.map (·.name) ++ ["transport_options"])
    (definition.signature 1) := by
  refine ⟨definition.verb.name ++ " " ++ definition.endpoint ++ " -> " ++ definition.returns,
    definition.returns, (indent 2 ++ "self,") ::
      definition.arguments.map (fun a => indent 2 ++ a.render ++ ",") ++
        [indent 2 ++ "transport_options: Optional[transport.TransportOptions] = None,"], ?_, ?_⟩
  · simp [Definition.signature, String.append_assoc]
  · have hargument : ∀ argument : Argument, ∃ type, indent 2 ++ argument.render ++ "," =
        indent 2 ++ argument.name ++ ": " ++ type ++ "," :=
      fun argument => ⟨(if argument.nullable then "Optional[" ++ argument.type ++ "]"
        else argument.type) ++ if argument.optional then " = None" else "",
        by simp only [Argument.render, String.append_assoc]⟩
    have hself : indent 2 ++ "self," = indent 2 ++ "self" ++ "," := by
      rw [String.append_assoc]
      rfl
    have hoptions : indent 2 ++ "transport_options: Optional[transport.TransportOptions] = None," =
        indent 2 ++ "transport_options" ++ ": " ++
          "Optional[transport.TransportOptions] = None" ++ "," := by
      simp only [String.append_assoc]
      rfl
    refine .cons (Or.inl hself) (List.rel_append ?_ (.cons (Or.inr ⟨_, hoptions⟩) .nil))
    rw [List.forall₂_map_left_iff, List.forall₂_map_right_iff, List.forall₂_same]
    exact fun argument _ => Or.inr (hargument argument)

/-- A method of a model is declared with its name and its arguments. -/
lemma ensures_declares (method : Method) (pass : Pass) :
    (Python.method 1 method).Ensures True pass fun text _ =>
      Declares (methodName method) (argumentNames method) text := by
  refine (ensures_definition method pass).bind fun definition _ h => Ensures.pure ?_
  obtain ⟨hname, harguments, -⟩ := h
  refine ⟨definition, rfl, ?_⟩
  rw [← hname, argumentNames, ← harguments]
  exact isSignature_signature definition

/-- The file of methods declares the methods of the model. -/
lemma ensures_methodsFile (pass : Pass) :
    backend.methodsFile.Ensures True pass fun text _ =>
      ∃ (head ending : String) (texts : List String),
        text = assemble head (backend.methodsHeader texts.length) texts ending ∧
        List.Forall₂ (fun method => Declares (methodName method) (argumentNames method))
          pass.model.methods.values texts := by
  refine Ensures.beginFile_bind (Ensures.get_bind ?_)
  have hitems : (pass.model.methods.values.mapM (backend.method 1)).Ensures True
      { pass with file := .methods, counts := ∅ } fun texts _ => True ∧
        List.Forall₂ (fun method => Declares (methodName method) (argumentNames method))
          pass.model.methods.values texts :=
    Ensures.mapM (fun method pass _ => (ensures_declares method pass).imp
      fun _ _ h => ⟨trivial, h⟩) _ trivial
  refine hitems.bind fun texts _ h => ?_
  refine (ensures_true _ _).bind fun head _ _ => ?_
  refine (ensures_true _ _).bind fun ending _ _ => Ensures.pure ?_
  exact ⟨head, ending, texts, by rw [h.2.length_eq], h.2⟩

/-! ## Names of methods and arguments -/

/-- Methods have the same name just if their operation ids have the same words. -/
lemma nodup_methodNames_iff (methods : List Method) : (methods.map methodName).Nodup ↔
    methods.Pairwise fun first second =>
      words first.operationId.toList ≠ words second.operationId.toList := by
  rw [List.Nodup, List.pairwise_map]
  simp only [methodName, ne_eq, snakeCase_eq_iff]

/-- Arguments have the same name just if the names that they stand for clash. -/
lemma nodup_argumentNames_iff (method : Method) : (argumentNames method).Nodup ↔
    (statedNames method).Pairwise fun first second => ¬Clashes first second := by
  rw [argumentNames_eq, List.Nodup, List.pairwise_map]
  simp only [ne_eq, safeName_eq_iff]

/-- The arguments have names of the language if those of the parameters can be such. -/
lemma isName_argumentNames_iff (method : Method) : (∀ name ∈ argumentNames method, IsName name) ↔
    ∀ p ∈ method.parameters, CanBeName p.name := by
  have hself : CanBeName "self" := by decide
  have hoptions : CanBeName "transport_options" := by decide
  rw [argumentNames_eq, List.forall_mem_map]
  simp only [isName_safeName_iff]
  constructor
  · intro h p hp
    exact h p.name (mem_statedNames.mpr (Or.inr (Or.inl ⟨p, hp, rfl⟩)))
  · intro h name hname
    rcases mem_statedNames.mp hname with rfl | ⟨p, hp, rfl⟩ | rfl
    · exact hself
    · exact h p hp
    · exact hoptions

/-- The files of a model declare each of its methods, by its operation id in `snake_case`, with
arguments for itself, for each parameter and for the options of the transport.

* The names of the methods are distinct just if no two operation ids have the same words.
* No argument has a keyword for its name.
* The names of the arguments are distinct just if none of the names that they stand for clash: those
  of the parameters, and the two that are always there.
* The names of the arguments are names of the language just if those of the parameters can be. -/
theorem definition_names {model : Model} {apiVersion packageName : String} {files : Files}
    {final : Pass} (hrun : model.generate backend apiVersion packageName = (.ok files, final)) :
    (∃ (head ending : String) (texts : List String),
      files.methods = assemble head (backend.methodsHeader texts.length) texts ending ∧
      List.Forall₂ (fun method => Declares (methodName method) (argumentNames method))
        model.methods.values texts) ∧
    ((model.methods.values.map methodName).Nodup ↔
      model.methods.values.Pairwise fun first second =>
        words first.operationId.toList ≠ words second.operationId.toList) ∧
    ∀ method ∈ model.methods.values,
      (∀ name ∈ argumentNames method, name ∉ keywords) ∧
      ((argumentNames method).Nodup ↔
        (statedNames method).Pairwise fun first second => ¬Clashes first second) ∧
      ((∀ name ∈ argumentNames method, IsName name) ↔
        ∀ p ∈ method.parameters, CanBeName p.name) := by
  refine ⟨?_, nodup_methodNames_iff _, fun method _ => ⟨?_, nodup_argumentNames_iff method,
    isName_argumentNames_iff method⟩⟩
  · have hfiles : backend.files.Ensures True { model, apiVersion, packageName } fun files _ =>
        ∃ (head ending : String) (texts : List String),
          files.methods = assemble head (backend.methodsHeader texts.length) texts ending ∧
          List.Forall₂ (fun method => Declares (methodName method) (argumentNames method))
            model.methods.values texts := by
      rw [Backend.files_eq]
      refine (ensures_methodsFile _).bind fun methods _ hmethods => ?_
      refine (ensures_true _ _).bind fun streams _ _ => ?_
      exact (ensures_true _ _).bind fun models _ _ => Ensures.pure hmethods
    exact hfiles.of_ok hrun
  · rw [argumentNames_eq, List.forall_mem_map]
    exact fun name _ => safeName_not_mem_keywords name

/-- An operation that answers with a text. -/
def textOperation (operationId : String) (parameters : List Json) : Json :=
  .object [("operationId", .string operationId), ("parameters", .array parameters),
    ("responses", .object [("200", .object [("content", .object [("application/json",
      .object [("schema", .object [("type", .string "string")])])])])])]

/-- A document with methods whose operation ids have the same words. One of them has a parameter in
the path and another one with the same name in the query, and one whose name begins with a digit. -/
def clashingDocument : Document where
  root := .object [("paths", .object [
    ("/users/\x7bid\x7d", .object [("get", textOperation "findUser"
      [Language.textParameter "id" "path" true, Language.textParameter "id" "query" false,
        Language.textParameter "2fa" "query" false])]),
    ("/user", .object [("get", textOperation "find_user" [])])])]

/-- The names for that document are neither distinct nor names of the language: two methods have the
same name, two arguments of one of them have the same name, and a third one begins with a digit. -/
theorem definition_names_sample : ∃ (files : Files) (final : Pass) (found other : Method),
    (Model.ofDocument clashingDocument).generate backend "4.0" "sample" = (.ok files, final) ∧
    (Model.ofDocument clashingDocument).methods.values = [found, other] ∧
    (∃ (head ending first second : String),
      files.methods = assemble head (backend.methodsHeader 2) [first, second] ending ∧
      Declares "find_user" ["self", "id", "id", "2fa", "transport_options"] first ∧
      Declares "find_user" ["self", "transport_options"] second) ∧
    ¬([found, other].map methodName).Nodup ∧
    ¬(argumentNames found).Nodup ∧
    ¬∀ name ∈ argumentNames found, IsName name := by
  have hok : ((Model.ofDocument clashingDocument).generate backend "4.0" "sample").1.isOk =
      true := by
    decide
  obtain ⟨files, final, hrun⟩ := Rendering.exists_of_isOk hok
  have hfacts : (Model.ofDocument clashingDocument).methods.values.map (fun method =>
      (method.operationId, methodName method, statedNames method, argumentNames method)) =
        [("findUser", "find_user", ["self", "id", "id", "2fa", "transport_options"],
            ["self", "id", "id", "2fa", "transport_options"]),
          ("find_user", "find_user", ["self", "transport_options"],
            ["self", "transport_options"])] := by
    decide
  obtain ⟨⟨head, ending, texts, htext, htexts⟩, hmethods, harguments⟩ := definition_names hrun
  generalize (Model.ofDocument clashingDocument).methods.values = methods at *
  obtain ⟨found, methods, rfl, hfound, hfacts⟩ := List.map_eq_cons_iff.mp hfacts
  obtain ⟨other, methods, rfl, hother, hfacts⟩ := List.map_eq_cons_iff.mp hfacts
  obtain rfl := List.map_eq_nil_iff.mp hfacts
  simp only [Prod.mk.injEq] at hfound hother
  obtain ⟨hid, hname, hstated, hnames⟩ := hfound
  obtain ⟨hid', hname', -, hnames'⟩ := hother
  obtain ⟨-, hdistinct, hvalid⟩ := harguments found List.mem_cons_self
  refine ⟨files, final, found, other, hrun, rfl, ?_, ?_, ?_, ?_⟩
  · obtain ⟨first, texts, hfirst, hrest, rfl⟩ := List.forall₂_cons_left_iff.mp htexts
    obtain ⟨second, texts, hsecond, hnil, rfl⟩ := List.forall₂_cons_left_iff.mp hrest
    obtain rfl := List.forall₂_nil_left_iff.mp hnil
    rw [hname, hnames] at hfirst
    rw [hname', hnames'] at hsecond
    exact ⟨head, ending, first, second, htext, hfirst, hsecond⟩
  · rw [hmethods, List.pairwise_cons]
    rintro ⟨hne, -⟩
    refine hne other List.mem_cons_self ?_
    rw [hid, hid']
    decide
  · rw [hdistinct, hstated, List.pairwise_cons, List.pairwise_cons]
    rintro ⟨-, hne, -⟩
    exact hne "id" List.mem_cons_self (.same "id")
  · rw [hvalid]
    intro hall
    have hmem : "2fa" ∈ statedNames found := by
      rw [hstated]
      decide
    obtain hself | ⟨p, hp, hdigit⟩ | hoptions := mem_statedNames.mp hmem
    · exact absurd hself (by decide)
    · exact absurd (hdigit ▸ hall p hp) (by decide)
    · exact absurd hoptions (by decide)

end ClientGen.Python
