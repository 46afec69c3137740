import ClientGen.Proofs.Generation.Calls

/-!
# Paths are expanded all at once

A path is made of an endpoint by replacing one parameter after the other, each in what the ones
before it have left behind. What comes out is said here without any order: the endpoint is read once
from its beginning, a parameter in braces gives way to its expression, and any other character stays.
Nothing that an expression brings along is read again.

## Main definitions

* `ClientGen.Expands` — that a text is an endpoint with all parameters replaced at once.

## Main results

* `ClientGen.expands_iff` — an endpoint expands to one text, the exchange of its names in braces.
* `ClientGen.fillEndpoint_perm` — the order of the parameters does not matter.
* `ClientGen.fillEndpoint_split` — each place where a parameter stands is replaced.
* `ClientGen.Language.path_expands` — the paths of both languages.
-/

set_option autoImplicit false

namespace ClientGen

variable {expression : Parameter → String} {parameters order : List Parameter}
  {parameter : Parameter} {text out rest : List Char} {name img : List Char}

/-! ## Expansion -/

/-- The second text is the first one with each of the parameters, where it stands in braces, replaced
by its expression, and all else as it is. -/
inductive Expands (expression : Parameter → String) (parameters : List Parameter) :
    List Char → List Char → Prop
  /-- Nothing is left. -/
  | nil : Expands expression parameters [] []
  /-- A parameter stands here. -/
  | parameter {p : Parameter} {rest out : List Char} : p ∈ parameters →
      Expands expression parameters rest out →
        Expands expression parameters ((placeholder p).toList ++ rest)
          ((expression p).toList ++ out)
  /-- No parameter stands here. -/
  | character {c : Char} {rest out : List Char} :
      (∀ p ∈ parameters, ¬(placeholder p).toList <+: c :: rest) →
        Expands expression parameters rest out →
          Expands expression parameters (c :: rest) (c :: out)

/-- Only which parameters there are matters. -/
lemma Expands.congr (h : Expands expression parameters text out)
    (hmem : ∀ p, p ∈ order ↔ p ∈ parameters) : Expands expression order text out := by
  induction h with
  | nil => exact .nil
  | parameter hp _ ih => exact .parameter ((hmem _).mpr hp) ih
  | character hc _ ih => exact .character (fun p hp => hc p ((hmem p).mp hp)) ih

/-- A name with an expression is that of a parameter. -/
lemma exists_of_expressionFor? (h : expressionFor? expression parameters name = some img) :
    ∃ p ∈ parameters, p.name.toList = name ∧ (expression p).toList = img := by
  obtain ⟨p, hfind, himg⟩ := Option.map_eq_some_iff.mp h
  exact ⟨p, List.mem_of_find?_eq_some hfind, by simpa using List.find?_some hfind, himg⟩

/-- Where no parameter stands, a character stays. -/
lemma exchange_cons_of_not_isPrefix {c : Char}
    (h : ∀ p ∈ parameters, ¬(placeholder p).toList <+: c :: rest) :
    exchange (expressionFor? expression parameters) none (c :: rest) =
      c :: exchange (expressionFor? expression parameters) none rest := by
  rw [exchange]
  split_ifs with hopen
  · rw [hopen, exchange_of_not_prefix, List.singleton_append]
    intro name img himage hprefix
    obtain ⟨p, hp, rfl, -⟩ := exists_of_expressionFor? himage
    refine h p hp ?_
    rw [toList_placeholder, hopen, inBraces, List.cons_append, List.cons_prefix_cons]
    exact ⟨rfl, hprefix⟩
  · rfl

section Expansion

variable
  (hplain : ∀ p ∈ parameters, IsPlainName p.name)
  (hname : ∀ p ∈ parameters, ∀ q ∈ parameters, p.name = q.name → expression p = expression q)

include hplain hname

/-- A parameter that stands in a text gives way to its expression. -/
lemma exchange_placeholder_append (hmem : parameter ∈ parameters) :
    exchange (expressionFor? expression parameters) none ((placeholder parameter).toList ++ rest) =
      (expression parameter).toList ++
        exchange (expressionFor? expression parameters) none rest := by
  rw [toList_placeholder, exchange_inBraces (hplain parameter hmem).1,
    expressionFor?_of_mem hname hmem, Option.getD_some]

/-- A text expands to just one text, in which its names in braces are exchanged.

**Proof sketch.** Both what expansion does and what the exchange does is decided by whether a
parameter stands at the beginning. Induction on the expansion gives one direction, and induction on
the length of the text the other. -/
theorem expands_iff : Expands expression parameters text out ↔
    out = exchange (expressionFor? expression parameters) none text := by
  constructor
  · intro h
    induction h with
    | nil => rfl
    | parameter hp _ ih => rw [exchange_placeholder_append hplain hname hp, ih]
    | character hc _ ih => rw [exchange_cons_of_not_isPrefix hc, ih]
  · rintro rfl
    induction hlen : text.length using Nat.strongRecOn generalizing text with
    | ind n ih =>
      cases text with
      | nil => exact .nil
      | cons c rest =>
        by_cases hstands : ∃ p ∈ parameters, (placeholder p).toList <+: c :: rest
        · obtain ⟨p, hp, after, hafter⟩ := hstands
          have hlength : (placeholder p).toList.length + after.length = n := by
            rw [← List.length_append, hafter, hlen]
          have hpos : 0 < (placeholder p).toList.length := by
            rw [toList_placeholder]
            exact Nat.succ_pos _
          rw [← hafter, exchange_placeholder_append hplain hname hp]
          exact .parameter hp (ih after.length (by omega) rfl)
        · have hnone : ∀ p ∈ parameters, ¬(placeholder p).toList <+: c :: rest :=
            fun p hp hprefix => hstands ⟨p, hp, hprefix⟩
          rw [exchange_cons_of_not_isPrefix hnone]
          exact .character hnone (ih rest.length (by simp [← hlen]) rfl)

end Expansion

/-! ## Endpoints -/

section Fill

variable (hplain : ∀ p ∈ parameters, IsPlainName p.name)
  (hexpression : ∀ p ∈ parameters, IsExpression (expression p))
  (hname : ∀ p ∈ parameters, ∀ q ∈ parameters, p.name = q.name → expression p = expression q)

include hplain hexpression hname

/-- Filling in the parameters of an endpoint one after the other is expanding it. -/
theorem expands_iff_eq_fillEndpoint (endpoint : String) :
    Expands expression parameters endpoint.toList out ↔
      out = (fillEndpoint expression parameters endpoint).toList := by
  rw [expands_iff hplain hname, fillEndpoint_eq hplain hexpression, String.toList_ofList]

/-- The order in which the parameters are filled in does not matter. -/
theorem fillEndpoint_perm (hperm : order.Perm parameters) (endpoint : String) :
    fillEndpoint expression order endpoint = fillEndpoint expression parameters endpoint := by
  have hmem : ∀ p, p ∈ order ↔ p ∈ parameters := fun p => hperm.mem_iff
  have hfilled : Expands expression order endpoint.toList
      (fillEndpoint expression order endpoint).toList :=
    (expands_iff_eq_fillEndpoint (fun p hp => hplain p ((hmem p).mp hp))
      (fun p hp => hexpression p ((hmem p).mp hp))
      (fun p hp q hq => hname p ((hmem p).mp hp) q ((hmem q).mp hq)) endpoint).mpr rfl
  have hsame := hfilled.congr fun p => (hmem p).symm
  exact String.toList_inj.mp
    ((expands_iff_eq_fillEndpoint hplain hexpression hname endpoint).mp hsame)

/-- Wherever a parameter stands in an endpoint, its expression stands in the path, between the paths
of what is before it and of what is after it. -/
theorem fillEndpoint_split (hmem : parameter ∈ parameters) (before after : String) :
    fillEndpoint expression parameters (before ++ placeholder parameter ++ after) =
      fillEndpoint expression parameters before ++ expression parameter ++
        fillEndpoint expression parameters after := by
  have hopen : ∀ rest, exchange (expressionFor? expression parameters) none
      (before.toList ++ (placeholder parameter).toList ++ rest) =
        exchange (expressionFor? expression parameters) none before.toList ++
          exchange (expressionFor? expression parameters) none
            ((placeholder parameter).toList ++ rest) := by
    intro rest
    rw [toList_placeholder, List.append_assoc, inBraces_append, exchange_append_open,
      exchange, if_pos rfl]
  simp only [fillEndpoint_eq hplain hexpression, ← String.toList_inj, String.toList_append,
    String.toList_ofList]
  rw [hopen, exchange_placeholder_append hplain hname hmem, List.append_assoc]

end Fill

/-! ## Paths in both languages -/

namespace Language

/-- The path of a method is its endpoint with all parameters of the path replaced at once, if their
names have neither braces nor parentheses.

* The endpoint expands to the path and to no other text.
* Each place of the endpoint where a parameter stands is replaced.
* The order in which the parameters are filled in does not matter.
* The methods of both languages, and the streamers, are written with that path. -/
theorem path_expands (language : Language) {method : Method}
    (hplain : ∀ p ∈ method.parametersIn .path, IsPlainName p.name) :
    (∀ request : String,
      (∀ out : List Char,
        Expands (language.wording request).expression (method.parametersIn .path)
            method.endpoint.toList out ↔
          out = (method.path (language.wording request).expression).toList) ∧
      (∀ p ∈ method.parametersIn .path, ∀ before after : String,
        method.endpoint = before ++ placeholder p ++ after →
          method.path (language.wording request).expression =
            fillEndpoint (language.wording request).expression (method.parametersIn .path) before ++
              (language.wording request).expression p ++
              fillEndpoint (language.wording request).expression (method.parametersIn .path)
                after) ∧
      ∀ order : List Parameter, order.Perm (method.parametersIn .path) →
        fillEndpoint (language.wording request).expression order method.endpoint =
          method.path (language.wording request).expression) ∧
    ∀ (level : Nat) (text : String) (pass after : Pass),
      ((language.backend.method level method).run.run pass = (.ok text, after) ∨
        (language.backend.streamer level method).run.run pass = (.ok text, after)) →
      let request := language.requestOf pass.model method
      ∃ parts : CallParts,
        language.IsMethodText level text (method.acceptedNames language.argumentName request)
          parts ∧
        Expands (language.wording request).expression (method.parametersIn .path)
          method.endpoint.toList parts.path.toList := by
  have hregular := language.isRegular_wording
  have hexpression : ∀ request, ∀ p ∈ method.parametersIn .path,
      IsExpression ((language.wording request).expression p) :=
    fun request p hp => (hregular request).isExpression p (hplain p hp)
  have hname : ∀ request, ∀ p ∈ method.parametersIn .path, ∀ q ∈ method.parametersIn .path,
      p.name = q.name → (language.wording request).expression p =
        (language.wording request).expression q :=
    fun request p _ q _ => (hregular request).congr p q
  have hexpands : ∀ request out,
      Expands (language.wording request).expression (method.parametersIn .path)
          method.endpoint.toList out ↔
        out = (method.path (language.wording request).expression).toList :=
    fun request _ => expands_iff_eq_fillEndpoint hplain (hexpression request) (hname request) _
  refine ⟨fun request => ⟨hexpands request, fun p hp before after hsplit => ?_,
    fun order hperm => ?_⟩, fun level text pass after hrun => ?_⟩
  · rw [Method.path, hsplit]
    exact fillEndpoint_split hplain (hexpression request) (hname request) hp before after
  · exact fillEndpoint_perm hplain (hexpression request) (hname request) hperm method.endpoint
  · exact ⟨_, isMethodText_of_run hrun, (hexpands _ _).mpr rfl⟩

/-- A method with two parameters in the path. The endpoint names one of them twice, once in doubled
braces, and something else that is no parameter; the name of the other one is what an expression
calls. -/
def bracedMethod : Method where
  operationId := "find"
  verb := .get
  endpoint := "/\x7bid\x7d/\x7b\x7bid\x7d/\x7bencodeParam\x7d\x7bother\x7d"
  schema := .null
  parameters := [{ name := "id", type := 0, location := .path },
    { name := "encodeParam", type := 0, location := .path }]
  responses := [{ status := 200, mediaType := "application/json", type := 0 }]
  primary := 0

/-- The path of that method in TypeScript, in either order of its parameters. -/
theorem path_expands_braced :
    (∀ p ∈ bracedMethod.parametersIn .path, IsPlainName p.name) ∧
    (∀ out : List Char,
      Expands (Language.typeScript.wording "").expression (bracedMethod.parametersIn .path)
          bracedMethod.endpoint.toList out ↔
        out = ("/$\x7bencodeParam(id)\x7d/\x7b$\x7bencodeParam(id)\x7d/" ++
          "$\x7bencodeParam(encodeParam)\x7d\x7bother\x7d").toList) ∧
    fillEndpoint (Language.typeScript.wording "").expression
        (bracedMethod.parametersIn .path).reverse bracedMethod.endpoint =
      "/$\x7bencodeParam(id)\x7d/\x7b$\x7bencodeParam(id)\x7d/" ++
        "$\x7bencodeParam(encodeParam)\x7d\x7bother\x7d" := by
  have hplain : ∀ p ∈ bracedMethod.parametersIn .path, IsPlainName p.name := by decide
  have hpath : bracedMethod.path (Language.typeScript.wording "").expression =
      "/$\x7bencodeParam(id)\x7d/\x7b$\x7bencodeParam(id)\x7d/" ++
        "$\x7bencodeParam(encodeParam)\x7d\x7bother\x7d" := by
    decide
  obtain ⟨hexpands, -, horder⟩ := (path_expands .typeScript hplain).1 ""
  rw [hpath] at hexpands horder
  exact ⟨hplain, hexpands, horder _ (List.reverse_perm _)⟩

end Language

end ClientGen
