import ClientGen.Proofs.DerivedTypes
import ClientGen.Proofs.Generation.Imports
import ClientGen.Proofs.Generation.Repetition
import ClientGen.Proofs.SharedShapes
import ClientGen.Proofs.Words

/-!
# What calls pass on

The signature of a method accepts all its parameters, or a request object that stands for them. The
call in its body passes on those of the path and of the query and the first one that is a body.
Parameters that are headers or cookies, and further bodies, are accepted, and then nothing is done
with them.

## Main definitions

* `ClientGen.CallParts` — the parts of a call that parameters are written into.
* `ClientGen.Method.passedParameters` — the parameters that calls pass on.
* `ClientGen.CallParts.Holds` — that a call passes a parameter on.

## Main results

* `ClientGen.Method.callParts_passed` — calls depend on no other parameters.
* `ClientGen.Method.holds_passed` — calls pass on these parameters.
* `ClientGen.Language.passes_parameters` — what the methods of both languages accept and pass on.
-/

set_option autoImplicit false

namespace ClientGen

variable {method : Method} {parameter : Parameter} {location : Location}

/-! ## Parameters of a location -/

namespace Method

/-- No parameter is in two locations. -/
lemma filter_filter_location (location other : Location) (parameters : List Parameter) :
    (parameters.filter (·.location = other)).filter (·.location = location) =
      if other = location then parameters.filter (·.location = location) else [] := by
  split_ifs with h
  · rw [h, List.filter_filter]
    simp
  · rw [List.filter_eq_nil_iff]
    intro p hp
    rw [of_decide_eq_true (List.mem_filter.mp hp).2]
    simpa using h

/-- Ordering by location keeps the order within a location. -/
lemma filter_byLocation (location : Location) (parameters : List Parameter) :
    (byLocation parameters).filter (·.location = location) =
      parameters.filter (·.location = location) := by
  simp only [byLocation, Location.all, List.flatMap_cons, List.flatMap_nil, List.filter_append,
    filter_filter_location]
  cases location <;> simp

/-- The parameters of a location: those that must be given, and then the others, in the order of
their declaration. -/
lemma parametersIn_eq (method : Method) (location : Location) : method.parametersIn location =
    (method.parameters.filter (·.location = location)).filter (·.required) ++
      (method.parameters.filter (·.location = location)).filter (!·.required) := by
  have hcomm : ∀ keep : Parameter → Bool,
      (method.parameters.filter keep).filter (·.location = location) =
        (method.parameters.filter (·.location = location)).filter keep :=
    fun keep => List.filter_comm _ keep _
  rw [parametersIn, allParameters, List.filter_append, requiredParameters, optionalParameters,
    filter_byLocation, filter_byLocation, hcomm, hcomm]

/-- The parameters of a location are those that are there. -/
lemma mem_parametersIn : parameter ∈ method.parametersIn location ↔
    parameter ∈ method.parameters ∧ parameter.location = location := by
  rw [parametersIn, List.mem_filter, mem_allParameters, decide_eq_true_iff]

/-! ## The parameters that calls pass on -/

/-- The parameters that calls pass on: those of the path and of the query, and the first one that
is a body. -/
def passedParameters (method : Method) : List Parameter :=
  method.parameters.filter (fun p => p.location = .path || p.location = .query) ++
    method.bodyParameter?.toList

/-- The method without the parameters that calls do not pass on. -/
def withPassedParameters (method : Method) : Method :=
  { method with parameters := method.passedParameters }

/-- A body is in no other location. -/
lemma filter_bodyParameter? (h : location ≠ .body) :
    method.bodyParameter?.toList.filter (·.location = location) = [] := by
  rw [List.filter_eq_nil_iff]
  intro p hp
  have hbody : p.location = .body := by
    simpa using List.find?_some (Option.mem_toList.mp hp)
  rw [hbody]
  simpa using h.symm

/-- Of the path and of the query all parameters are passed on. -/
lemma parametersIn_withPassedParameters (h : location = .path ∨ location = .query) :
    method.withPassedParameters.parametersIn location = method.parametersIn location := by
  have hfilter : method.passedParameters.filter (·.location = location) =
      method.parameters.filter (·.location = location) := by
    rw [passedParameters, List.filter_append,
      filter_bodyParameter? (by rcases h with rfl | rfl <;> simp), List.append_nil,
      List.filter_filter]
    refine List.filter_congr fun p _ => ?_
    rcases h with rfl | rfl <;> by_cases hp : p.location = .path <;> simp [hp]
  rw [parametersIn_eq, parametersIn_eq, withPassedParameters, hfilter]

/-- The first body is passed on. -/
lemma bodyParameter?_withPassedParameters :
    method.withPassedParameters.bodyParameter? = method.bodyParameter? := by
  show method.passedParameters.find? (·.location = .body) = method.bodyParameter?
  have hothers : (method.parameters.filter
      fun p => p.location = .path || p.location = .query).find? (·.location = .body) = none := by
    rw [List.find?_eq_none]
    intro p hp
    have hlocation := (List.mem_filter.mp hp).2
    rcases (by simpa using hlocation : p.location = .path ∨ p.location = .query) with h | h <;>
      simp [h]
  rw [passedParameters, List.find?_append, hothers, Option.none_or]
  cases hbody : method.bodyParameter? with
  | none => rfl
  | some p =>
    have hlocation : p.location = .body := by simpa using List.find?_some hbody
    rw [Option.toList_some, List.find?_cons_of_pos (by simpa using hlocation)]

end Method

/-! ## Calls -/

/-- How a language writes the parameters of a method in a call. -/
structure Wording where
  /-- The key of a field of the query. -/
  key : Parameter → String
  /-- The value of a parameter. -/
  value : Parameter → String
  /-- The expression for a parameter of the path. -/
  expression : Parameter → String

/-- The parts of a call that parameters are written into. -/
structure CallParts where
  /-- The path, with expressions for its parameters. -/
  path : String
  /-- The fields of the query. -/
  query : List (String × String)
  /-- The value that is the body. -/
  body : Option String
  deriving DecidableEq

/-- The parts of the calls of a method. -/
def Method.callParts (wording : Wording) (method : Method) : CallParts where
  path := method.path wording.expression
  query := (method.parametersIn .query).map fun p => (wording.key p, wording.value p)
  body := method.bodyParameter?.map wording.value

/-- A call passes a parameter on: one of the path as its expression there, if the endpoint names it,
one of the query as a field, and a body as the body. There is no place for the others. -/
def CallParts.Holds (parts : CallParts) (wording : Wording) (endpoint : String)
    (parameter : Parameter) : Prop :=
  match parameter.location with
  | .path => Text.contains (placeholder parameter) endpoint = true →
      Text.contains (wording.expression parameter) parts.path = true
  | .query => (wording.key parameter, wording.value parameter) ∈ parts.query
  | .body => parts.body = some (wording.value parameter)
  | .header | .cookie => False

/-- The expressions of a wording fit into a path: they are expressions, if names are plain, and
depend on the name of the parameter only. -/
structure Wording.IsRegular (wording : Wording) : Prop where
  isExpression : ∀ p, IsPlainName p.name → IsExpression (wording.expression p)
  congr : ∀ p q : Parameter, p.name = q.name → wording.expression p = wording.expression q

namespace Method

variable {wording : Wording}

/-- Calls depend on no other parameters than those that they pass on. -/
theorem callParts_passed (wording : Wording) (method : Method) :
    method.withPassedParameters.callParts wording = method.callParts wording := by
  rw [callParts, callParts, path, path, parametersIn_withPassedParameters (Or.inl rfl),
    parametersIn_withPassedParameters (Or.inr rfl), bodyParameter?_withPassedParameters]
  rfl

/-- Calls pass on the parameters of the path and of the query and the first body. -/
theorem holds_passed (hwording : wording.IsRegular)
    (hplain : ∀ p ∈ method.parametersIn .path, IsPlainName p.name)
    (hp : parameter ∈ method.passedParameters) :
    (method.callParts wording).Holds wording method.endpoint parameter := by
  unfold CallParts.Holds
  rcases List.mem_append.mp hp with hp | hp
  · obtain ⟨hmem, hlocation⟩ := List.mem_filter.mp hp
    rcases (by simpa using hlocation : parameter.location = .path ∨ parameter.location = .query)
      with h | h
    · rw [h]
      exact expression_occurs hplain (fun q hq => hwording.isExpression q (hplain q hq))
        (fun q _ r _ => hwording.congr q r) (mem_parametersIn.mpr ⟨hmem, h⟩)
    · rw [h]
      exact List.mem_map_of_mem (mem_parametersIn.mpr ⟨hmem, h⟩)
  · have hbody : method.bodyParameter? = some parameter := Option.mem_toList.mp hp
    have hlocation : parameter.location = .body := by simpa using List.find?_some hbody
    rw [hlocation]
    show method.bodyParameter?.map wording.value = _
    rw [hbody, Option.map_some]

end Method

/-- The names of the arguments for the parameters of a method: those of the parameters, or that of
the request object, if `request`, the name of its type, is not empty. -/
def Method.acceptedNames (argumentName : String → String) (request : String) (method : Method) :
    List String :=
  if request.isEmpty then method.allParameters.map fun p => argumentName p.name else ["request"]

/-! ## Rendering the items of a list -/

namespace Rendering

variable {α β γ : Type}

/-- Whatever rendering ends with, it ends with something or fails. -/
lemma ensures_true (rendering : Rendering α) (pass : Pass) :
    rendering.Ensures True pass fun _ _ => True := by
  unfold Ensures
  split <;> trivial

/-- What each result has in common with its item, the results have with the items. -/
lemma ensures_mapM_map {render : α → Rendering β} {ofItem : α → γ} {ofResult : β → γ}
    (hrender : ∀ item pass, (render item).Ensures True pass fun result _ =>
      ofResult result = ofItem item) (items : List α) (pass : Pass) :
    (items.mapM render).Ensures True pass fun results _ =>
      results.map ofResult = items.map ofItem := by
  have hall : (items.mapM render).Ensures True pass fun results _ =>
      True ∧ List.Forall₂ (fun item result => ofItem item = ofResult result) items results :=
    Ensures.mapM (fun item pass _ => (hrender item pass).imp fun _ _ h => ⟨trivial, h.symm⟩) items
      trivial
  refine hall.imp fun results _ h => ?_
  have hmap : List.Forall₂ Eq (items.map ofItem) (results.map ofResult) := by
    rw [List.forall₂_map_left_iff, List.forall₂_map_right_iff]
    exact h.2
  rw [List.forall₂_eq_eq_eq] at hmap
  exact hmap.symm

end Rendering

open Rendering

/-! ## Python -/

namespace Python

/-- How parameters are written in a call. -/
def wording : Wording where
  key p := p.name
  value p := safeName p.name
  expression := pathExpression

/-- A name that can be used has no braces. -/
lemma isBraceFree_safeName (name : String) : IsBraceFree (safeName name).toList := by
  have hplain : ∀ plain : String, IsBraceFree plain.toList →
      IsBraceFree (if keywords.contains plain then plain ++ "_" else plain).toList := by
    intro plain hplain
    split_ifs
    · rw [String.toList_append, IsBraceFree.append_iff]
      exact ⟨hplain, by decide⟩
    · exact hplain
  apply hplain
  split_ifs with h
  · exact Text.isBraceFree_of_isIdentifier (Bool.and_eq_true_iff.mp h).1
  · exact Text.isBraceFree_snakeCase name

/-- What stands for a parameter in a path is an expression. -/
lemma isExpression_pathExpression (parameter : Parameter) :
    IsExpression (pathExpression parameter) := by
  have hopening : "\x7bself.encode_path_param(".toList =
      "".toList ++ '\x7b' :: "self.encode_path_param".toList ++ ['('] := by decide
  exact isExpression_call hopening (by decide)
    (by decide) (isBraceFree_safeName parameter.name)

/-- The expressions fit into a path. -/
lemma isRegular_wording : wording.IsRegular where
  isExpression p _ := isExpression_pathExpression p
  congr _ _ h := congrArg (fun name => "\x7bself.encode_path_param(" ++ safeName name ++ ")\x7d") h

/-- The text is a method with arguments of the given names, and with the given parts of its call. -/
def IsMethodText (level : Nat) (text : String) (arguments : List String) (parts : CallParts) :
    Prop :=
  ∃ definition : Definition, definition.render level = text ∧
    definition.arguments.map (·.name) = arguments ∧
    parts = ⟨definition.path, definition.query, definition.body⟩

/-- The argument for a parameter has its name. -/
lemma ensures_argumentOf (parameter : Parameter) (pass : Pass) :
    (argumentOf parameter).Ensures True pass fun argument _ =>
      argument.name = safeName parameter.name := by
  rw [argumentOf_eq]
  exact (ensures_true _ _).bind fun _ _ _ => Ensures.pure rfl

/-- A method has its name, an argument for each parameter and the parts of its call. -/
lemma ensures_definition (method : Method) (pass : Pass) :
    (definition method).Ensures True pass fun definition _ =>
      definition.name = methodName method ∧
      definition.arguments.map (·.name) = (method.allParameters.map fun p => safeName p.name) ∧
      method.callParts wording = ⟨definition.path, definition.query, definition.body⟩ := by
  unfold definition
  refine (ensures_true _ _).bind fun returns after _ => ?_
  refine (ensures_mapM_map ensures_argumentOf method.allParameters after).bind ?_
  intro arguments _ harguments
  exact Ensures.pure ⟨rfl, harguments, rfl⟩

/-- A method accepts all its parameters, and its call has the parts that it should have. -/
theorem ensures_method (level : Nat) (method : Method) (pass : Pass) :
    (Python.method level method).Ensures True pass fun text _ =>
      IsMethodText level text (method.allParameters.map fun p => safeName p.name)
        (method.callParts wording) :=
  (ensures_definition method pass).bind fun definition _ h =>
    Ensures.pure ⟨definition, rfl, h.2⟩

end Python

/-! ## TypeScript -/

namespace TypeScript

/-- How parameters are written in a call, when `request` is the name of the type of the request
object or empty if there is none. -/
def wording (request : String) : Wording where
  key p := key p.name
  value := access request
  expression p := "$\x7bencodeParam(" ++ access request p ++ ")\x7d"

/-- The name of an argument has no braces. -/
lemma isBraceFree_argumentName (name : String) : IsBraceFree (argumentName name).toList := by
  unfold argumentName
  split_ifs with h
  · exact Text.isBraceFree_of_isIdentifier h
  · exact Text.isBraceFree_lowerCamelCase name

/-- The value of a parameter with a plain name has no braces. -/
lemma isBraceFree_access (request : String) {parameter : Parameter}
    (h : IsPlainName parameter.name) : IsBraceFree (access request parameter).toList := by
  unfold access
  split_ifs
  · exact isBraceFree_argumentName parameter.name
  · rw [String.toList_append, IsBraceFree.append_iff]
    exact ⟨by decide, h.1⟩
  · rw [String.toList_append, String.toList_append, IsBraceFree.append_iff, IsBraceFree.append_iff]
    exact ⟨⟨by decide, h.1⟩, by decide⟩

/-- The value of a parameter depends on its name only. -/
lemma access_congr (request : String) {first second : Parameter} (h : first.name = second.name) :
    access request first = access request second := by
  rw [access, h, ← access]

/-- The expressions fit into a path. -/
lemma isRegular_wording (request : String) : (wording request).IsRegular where
  isExpression p hp := by
    have hopening : "$\x7bencodeParam(".toList =
        "$".toList ++ '\x7b' :: "encodeParam".toList ++ ['('] := by decide
    exact isExpression_call hopening (by decide)
      (by decide) (isBraceFree_access request hp)
  congr _ _ h :=
    congrArg (fun value => "$\x7bencodeParam(" ++ value ++ ")\x7d") (access_congr request h)

/-- The text is a method in one of the classes with arguments of the given names, and with the given
parts of its call. -/
def IsMethodText (level : Nat) (text : String) (arguments : List String) (parts : CallParts) :
    Prop :=
  ∃ call : Call, (call.renderMethod level = text ∨ call.renderStreamer level = text) ∧
    call.arguments.map (·.name) = arguments ++ ["options"] ∧
    parts = ⟨call.path, call.query, call.body⟩

/-- The name of the request object is that of the type that the model derives for the method. -/
lemma ensures_requestName (method : Method) (pass : Pass) :
    (requestName true method).Ensures True pass fun request _ =>
      request = pass.model.requestNameOf method := by
  have hasked : (Rendering.requestType method.operationId).Ensures True pass fun found after =>
      found = (pass.model.requestType method.operationId).1 ∧
        after.model = (pass.model.requestType method.operationId).2 := by
    unfold Rendering.requestType Rendering.derived
    refine Ensures.get_bind ?_
    generalize pass.model.requestType method.operationId = derivation
    obtain ⟨none | request, model⟩ := derivation
    · exact ⟨rfl, rfl⟩
    · exact ⟨rfl, rfl⟩
  unfold requestName Model.requestNameOf
  rw [if_pos rfl]
  refine hasked.bind ?_
  rintro found after ⟨hfound, hmodel⟩
  rw [← hfound, ← hmodel]
  cases found with
  | none => exact Ensures.pure rfl
  | some request => exact Ensures.node_bind (Ensures.pure rfl)

/-- The argument for a parameter has its name. -/
lemma ensures_argumentOf (parameter : Parameter) (pass : Pass) :
    (argumentOf parameter).Ensures True pass fun argument _ =>
      argument.name = argumentName parameter.name := by
  rw [argumentOf_eq]
  exact (ensures_true _ _).bind fun _ _ _ => Ensures.pure rfl

/-- There is an argument for each parameter, or one for the request object. -/
lemma ensures_arguments (request : String) (method : Method) (pass : Pass) :
    (arguments request method).Ensures True pass fun arguments _ =>
      arguments.map (·.name) = method.acceptedNames argumentName request := by
  unfold arguments Method.acceptedNames
  split_ifs
  · exact ensures_mapM_map ensures_argumentOf method.allParameters pass
  · exact Ensures.pure rfl

/-- The parts of a call are those that it should have. -/
theorem ensures_parts (method : Method) (pass : Pass) :
    (call method).Ensures True pass fun call _ =>
      call.arguments.map (·.name) =
          method.acceptedNames argumentName (pass.model.requestNameOf method) ++ ["options"] ∧
        method.callParts (wording (pass.model.requestNameOf method)) =
          ⟨call.path, call.query, call.body⟩ := by
  unfold call
  refine (ensures_requestName method pass).bind ?_
  rintro _ mid rfl
  refine (ensures_arguments _ method mid).bind fun arguments after harguments => ?_
  refine (ensures_true _ _).bind fun returns _ _ => ?_
  refine (ensures_true _ _).bind fun errors _ _ => ?_
  refine Ensures.pure ⟨?_, rfl⟩
  show (arguments ++ [options]).map (·.name) = _
  rw [List.map_append, harguments]
  rfl

/-- A method in one of the classes accepts all its parameters, or a request object, and its call has
the parts that it should have. -/
lemma ensures_method {render : Call → String} {level : Nat}
    (hrender : ∀ call, call.renderMethod level = render call ∨
      call.renderStreamer level = render call) (method : Method) (pass : Pass) :
    (call method >>= fun call => pure (render call) : Rendering String).Ensures True pass
      fun text _ => IsMethodText level text
        (method.acceptedNames argumentName (pass.model.requestNameOf method))
        (method.callParts (wording (pass.model.requestNameOf method))) :=
  (ensures_parts method pass).bind fun call _ h => Ensures.pure ⟨call, hrender call, h⟩

end TypeScript

/-! ## Request objects -/

/-- If a method has a request type that was made for it, or digests tell the shapes of request types
apart, the members of that are the parameters of the method. -/
lemma Model.Reachable.members_requestType {model new : Model} {request : TypeId}
    (h : model.Reachable) (hmethod : model.methods[method.operationId]? = some method)
    (hr : model.requestType method.operationId = (some request, new))
    (hfits : (new.node request).kind = .request method.operationId ∨ model.IsUnambiguous) :
    (new.node request).properties.map (·.name) = method.allParameters.map (·.name) := by
  rcases hfits with hk | hu
  · have hd : model.DerivesTo (model.requestType method.operationId).2 := .requestType _ .refl
    rw [hr] at hd
    have hmethods := (h.settled.extends_of_derivesTo hd).methods_eq
    have hmirrors := (h.settled.derivesTo hd).mirrorsParameter hk (by rw [hmethods, hmethod])
    have hnames : List.Forall₂ Eq (method.allParameters.map (·.name))
        ((new.node request).properties.map (·.name)) := by
      rw [List.forall₂_map_left_iff, List.forall₂_map_right_iff]
      exact hmirrors.imp fun _ _ hp => hp.name_eq.symm
    rw [List.forall₂_eq_eq_eq] at hnames
    exact hnames.symm
  · have hnames := congrArg (List.map Prod.fst) (h.settled.signature_requestType hu hmethod hr)
    rw [Model.signature, List.map_map, List.map_map] at hnames
    exact hnames

/-! ## Both languages -/

namespace Language

/-- The name of the type of the request object of a method, empty if there is none. -/
def requestOf (language : Language) (model : Model) (method : Method) : String :=
  if language.backend.takesRequests then model.requestNameOf method else ""

/-- A request object is of the request type of the method. -/
lemma exists_of_requestOf_ne {language : Language} {model : Model}
    (h : language.requestOf model method ≠ "") : ∃ (id : TypeId) (new : Model),
      model.requestType method.operationId = (some id, new) ∧
        new.nameOf id = language.requestOf model method := by
  unfold requestOf Model.requestNameOf at h ⊢
  generalize model.requestType method.operationId = derivation at h ⊢
  obtain ⟨none | id, new⟩ := derivation
  · split_ifs at h <;> exact (h rfl).elim
  · split_ifs at h ⊢
    · exact ⟨id, new, rfl, rfl⟩
    · exact (h rfl).elim

/-- The argument that stands for a parameter with the given name. -/
def argumentName : Language → String → String
  | .python => Python.safeName
  | .typeScript => TypeScript.argumentName

/-- How parameters are written in a call, when `request` is the name of the type of the request
object or empty if there is none. -/
def wording (language : Language) (request : String) : Wording :=
  match language with
  | .python => Python.wording
  | .typeScript => TypeScript.wording request

/-- The text is a method with arguments of the given names, and with the given parts of its call. -/
def IsMethodText : Language → Nat → String → List String → CallParts → Prop
  | .python => Python.IsMethodText
  | .typeScript => TypeScript.IsMethodText

/-- The expressions fit into a path. -/
lemma isRegular_wording (language : Language) (request : String) :
    (language.wording request).IsRegular := by
  cases language with
  | python => exact Python.isRegular_wording
  | typeScript => exact TypeScript.isRegular_wording request

/-- A method accepts all its parameters, or a request object, and its call has the parts that it
should have. -/
lemma isMethodText_of_run {language : Language} {pass after : Pass} {level : Nat} {text : String}
    (hrun : (language.backend.method level method).run.run pass = (.ok text, after) ∨
      (language.backend.streamer level method).run.run pass = (.ok text, after)) :
    language.IsMethodText level text
      (method.acceptedNames language.argumentName (language.requestOf pass.model method))
      (method.callParts (language.wording (language.requestOf pass.model method))) := by
  cases language with
  | python =>
    rcases hrun with hrun | hrun
    · exact (Python.ensures_method level method pass).of_ok hrun
    · exact absurd (congrArg (·.1.isOk) hrun) Bool.false_ne_true
  | typeScript =>
    rcases hrun with hrun | hrun
    · exact (TypeScript.ensures_method (fun _ => Or.inl rfl) method pass).of_ok hrun
    · exact (TypeScript.ensures_method (fun _ => Or.inr rfl) method pass).of_ok hrun

/-- Of the parameters of a method, calls pass on those of the path and of the query and the first
one that is a body, and no others.

* The signature accepts all parameters, or a request object. The members of that are the parameters,
  if it was made for this method or digests tell the shapes of request objects apart.
* The call holds each parameter that is passed on: in the path if the endpoint names it and the
  parameters of the path have plain names, in the query, or as the body.
* The path, the query and the body are the same as those of the method without the other
  parameters: these are accepted and then dropped. -/
theorem passes_parameters (language : Language) {pass after : Pass} {level : Nat} {text : String}
    (h : pass.model.Reachable) (hmethod : pass.model.methods[method.operationId]? = some method)
    (hrun : (language.backend.method level method).run.run pass = (.ok text, after) ∨
      (language.backend.streamer level method).run.run pass = (.ok text, after)) :
    let request := language.requestOf pass.model method
    ∃ parts : CallParts,
      language.IsMethodText level text (method.acceptedNames language.argumentName request) parts ∧
      (request ≠ "" → ∃ (id : TypeId) (new : Model),
        pass.model.requestType method.operationId = (some id, new) ∧ new.nameOf id = request ∧
        ((new.node id).kind = .request method.operationId ∨ pass.model.IsUnambiguous →
          (new.node id).properties.map (·.name) = method.allParameters.map (·.name))) ∧
      ((∀ p ∈ method.parametersIn .path, IsPlainName p.name) →
        ∀ p ∈ method.passedParameters,
          parts.Holds (language.wording request) method.endpoint p) ∧
      parts = method.withPassedParameters.callParts (language.wording request) := by
  intro request
  refine ⟨_, isMethodText_of_run hrun, fun hrequest => ?_, fun hplain p hp =>
    Method.holds_passed (language.isRegular_wording request) hplain hp,
    (Method.callParts_passed _ method).symm⟩
  obtain ⟨id, new, hr, hname⟩ := exists_of_requestOf_ne hrequest
  exact ⟨id, new, hr, hname, h.members_requestType hmethod hr⟩

/-- A parameter that is a text. -/
def textParameter (name location : String) (required : Bool) : Json :=
  .object [("name", .string name), ("in", .string location), ("required", .bool required),
    ("schema", .object [("type", .string "string")])]

/-- A document with a method whose parameters are in the path, in the query and a header. -/
def tracedDocument : Document where
  root := .object [("paths", .object [("/users/\x7bid\x7d", .object [("get", .object [
    ("operationId", .string "find"),
    ("parameters", .array [textParameter "id" "path" true, textParameter "page" "query" false,
      textParameter "trace" "header" false]),
    ("responses", .object [("200", .object [("content", .object [("application/json",
      .object [("schema", .object [("type", .string "string")])])])])])])])])]

/-- A pass over the model of that document. -/
def tracedPass : Pass where
  model := Model.ofDocument tracedDocument
  apiVersion := "4.0"
  packageName := "sample"

/-- What that document declares, and that both languages render its method. -/
lemma exists_tracedMethod : ∃ method : Method, tracedPass.model.methods["find"]? = some method ∧
    method.operationId = "find" ∧ method.parameters.map (·.name) = ["id", "page", "trace"] ∧
    method.passedParameters.map (·.name) = ["id", "page"] ∧
    (∀ p ∈ method.parametersIn .path, IsPlainName p.name) ∧
    (∃ text after,
      (Language.python.backend.method 1 method).run.run tracedPass = (.ok text, after)) ∧
    ∃ text after,
      (Language.typeScript.backend.method 1 method).run.run tracedPass = (.ok text, after) := by
  have hfacts : tracedPass.model.methods["find"]?.map (fun method =>
      decide (method.operationId = "find" ∧
        method.parameters.map (·.name) = ["id", "page", "trace"] ∧
        method.passedParameters.map (·.name) = ["id", "page"] ∧
        (∀ p ∈ method.parametersIn .path, IsPlainName p.name) ∧
        ((Language.python.backend.method 1 method).run.run tracedPass).1.isOk = true ∧
        ((Language.typeScript.backend.method 1 method).run.run tracedPass).1.isOk = true)) =
      some true := by
    decide
  obtain ⟨method, hmethod, hfacts⟩ := Option.map_eq_some_iff.mp hfacts
  obtain ⟨hid, hnames, hpassed, hplain, hpython, htypeScript⟩ := of_decide_eq_true hfacts
  exact ⟨method, hmethod, hid, hnames, hpassed, hplain, Rendering.exists_of_isOk hpython,
    Rendering.exists_of_isOk htypeScript⟩

/-- The method of that document accepts three parameters in both languages, in TypeScript as the
members of a request object, and passes two of them on. The header is dropped. -/
theorem passes_parameters_sample : ∃ method : Method,
    tracedPass.model.methods["find"]? = some method ∧
    method.parameters.map (·.name) = ["id", "page", "trace"] ∧
    method.passedParameters.map (·.name) = ["id", "page"] ∧
    (∀ p ∈ method.parametersIn .path, IsPlainName p.name) ∧
    (∃ text after parts, (Language.python.backend.method 1 method).run.run tracedPass =
        (.ok text, after) ∧
      Language.python.IsMethodText 1 text ["id", "page", "trace"] parts ∧
      parts = ⟨"/users/\x7bself.encode_path_param(id)\x7d", [("page", "page")], none⟩ ∧
      ∀ p ∈ method.passedParameters,
        parts.Holds (Language.python.wording "") method.endpoint p) ∧
    ∃ text after parts, (Language.typeScript.backend.method 1 method).run.run tracedPass =
        (.ok text, after) ∧
      Language.typeScript.IsMethodText 1 text ["request"] parts ∧
      (∃ id new, tracedPass.model.requestType "find" = (some id, new) ∧
        (new.node id).properties.map (·.name) = ["id", "page", "trace"]) ∧
      parts = ⟨"/users/$\x7bencodeParam(request.id)\x7d", [("page", "request.page")], none⟩ ∧
      ∀ p ∈ method.passedParameters,
        parts.Holds (Language.typeScript.wording "RequestFind") method.endpoint p := by
  have hreachable : tracedPass.model.Reachable := Model.Reachable.ofDocument tracedDocument
  obtain ⟨method, hmethod, hid, hnames, hpassed, hplain, ⟨text, after, hrun⟩,
    ⟨text', after', hrun'⟩⟩ := exists_tracedMethod
  have hmethod' : tracedPass.model.methods[method.operationId]? = some method := by
    rw [hid, hmethod]
  have hparts : tracedPass.model.methods["find"]?.map (fun method =>
      decide (method.acceptedNames Python.safeName "" = ["id", "page", "trace"] ∧
        method.withPassedParameters.callParts (Language.python.wording "") =
          ⟨"/users/\x7bself.encode_path_param(id)\x7d", [("page", "page")], none⟩ ∧
        method.withPassedParameters.callParts (Language.typeScript.wording "RequestFind") =
          ⟨"/users/$\x7bencodeParam(request.id)\x7d", [("page", "request.page")], none⟩ ∧
        tracedPass.model.requestNameOf method = "RequestFind" ∧
        method.allParameters.map (·.name) = ["id", "page", "trace"] ∧
        (tracedPass.model.requestType "find").1.map
          (fun id => ((tracedPass.model.requestType "find").2.node id).kind) =
            some (.request "find"))) = some true := by
    decide
  rw [hmethod, Option.map_some, Option.some_inj] at hparts
  obtain ⟨haccepted, hpython, htypeScript, hrequest, hall, hkind⟩ := of_decide_eq_true hparts
  refine ⟨method, hmethod, hnames, hpassed, hplain, ?_, ?_⟩
  · obtain ⟨parts, htext, -, hholds, hparts⟩ :=
      passes_parameters .python hreachable hmethod' (Or.inl hrun)
    exact ⟨text, after, parts, hrun, haccepted ▸ htext, hparts.trans hpython, hholds hplain⟩
  · obtain ⟨parts, htext, hrequested, hholds, hparts⟩ :=
      passes_parameters .typeScript hreachable hmethod' (Or.inl hrun')
    have hname : Language.typeScript.requestOf tracedPass.model method = "RequestFind" := hrequest
    rw [hname] at htext hrequested hholds hparts
    obtain ⟨id, new, hr, -, hmembers⟩ := hrequested (by decide)
    rw [hid] at hr hmembers
    rw [hr, Option.map_some, Option.some_inj] at hkind
    exact ⟨text', after', parts, hrun', htext, ⟨id, new, hr, (hmembers (Or.inl hkind)).trans hall⟩,
      hparts.trans htypeScript, hholds hplain⟩

end Language

end ClientGen
