import ClientGen.Generation.Recorder
import ClientGen.Language
import ClientGen.Proofs.Generation.Derivations

/-!
# The backends only derive types

The backends change the model of their pass by asking for write types and for request types only,
the one for Python by asking for write types only. So each of them advances the model along any
relation that composes and holds after those requests, and derivations are one.

## Main results

* `ClientGen.Python.advances_backend`, `ClientGen.TypeScript.advances_backend`,
  `ClientGen.Recorder.advances_backend` — what the backends advance the model along.
* `ClientGen.Language.onlyDerives_backend` — the backend of each language changes the model of its
  pass by derivations only.
* `ClientGen.Recorder.onlyDerives_backend` — so does the recording backend, whatever its options.
-/

set_option autoImplicit false

namespace ClientGen

open Rendering

variable {R : Model → Model → Prop} [IsPreorder Model R]

/-! ## Python -/

namespace Python

/-- A property as an attribute of its class. -/
lemma advances_property (level : Nat) (property : Property) :
    (Python.property level property).Advances R :=
  ((Advances.spell spellings _).bind fun _ => .pure _).bind fun _ => .pure _

/-- A type as a class. -/
lemma advances_type (level : Nat) (id : TypeId) : (type level id).Advances R :=
  (Advances.node id).bind fun _ => (Advances.ensureNamed _).bind fun _ =>
    (Advances.mapM (advances_property _) _).bind fun _ => .pure _

/-- The type of the value that a call returns. -/
lemma advances_returns (method : Method) : (returns method).Advances R := by
  unfold returns
  split
  · exact (Advances.spell spellings _).bind fun _ => .pure _
  · split
    · exact .pure _
    · exact (Advances.spell spellings _).bind fun _ => .pure _

section Writing

variable (hwrite : ∀ (id : TypeId) (model : Model), R model (model.writeType id).2)

include hwrite

/-- The argument for a parameter. -/
lemma advances_argumentOf (parameter : Parameter) : (argumentOf parameter).Advances R :=
  (Advances.sentType hwrite parameter).bind fun _ =>
    (Advances.spell spellings _).bind fun _ => .pure _

/-- A method as a member of a class. -/
lemma advances_method (level : Nat) (method : Method) :
    (Python.method level method).Advances R :=
  ((advances_returns method).bind fun _ =>
    (Advances.mapM (advances_argumentOf hwrite) _).bind fun _ => .pure _).bind fun _ => .pure _

/-- The backend for Python only asks for write types. -/
theorem advances_backend : Python.backend.Advances R where
  type := advances_type
  method := advances_method hwrite
  streamer _ _ := .throw _
  methodsHead := .fileHead _
  methodsEnd := .pure _
  streamsHead := .pure _
  modelsHead := .fileHead _
  modelsEnd := .pure _

end Writing

end Python

/-! ## TypeScript -/

namespace TypeScript

/-- A type as an interface. -/
lemma advances_type (level : Nat) (id : TypeId) : (type level id).Advances R :=
  (Advances.node id).bind fun _ => (Advances.ensureNamed _).bind fun _ =>
    (Advances.mapM (fun _ => (Advances.spell spellings _).bind fun _ => .pure _) _).bind
      fun _ => .pure _

section Deriving

variable (hwrite : ∀ (id : TypeId) (model : Model), R model (model.writeType id).2)
  (hrequest : ∀ (operationId : String) (model : Model), R model (model.requestType operationId).2)

include hwrite

/-- The arguments for the parameters of a method. -/
lemma advances_arguments (request : String) (method : Method) :
    (arguments request method).Advances R := by
  unfold arguments
  split
  · exact Advances.mapM (fun parameter => (Advances.sentType hwrite parameter).bind fun _ =>
      (Advances.spell spellings _).bind fun _ => .pure _) _
  · exact .pure _

include hrequest

/-- A method with its parts. -/
lemma advances_call (method : Method) : (call method).Advances R :=
  (Advances.requestName hrequest true method).bind fun _ =>
    (advances_arguments hwrite _ method).bind fun _ => (Advances.spell spellings _).bind fun _ =>
      (Advances.mapM (fun _ => .spell spellings _) _).bind fun _ => .pure _

/-- The backend for TypeScript only asks for write types and request types. -/
theorem advances_backend : TypeScript.backend.Advances R where
  type := advances_type
  method _ method := (advances_call hwrite hrequest method).bind fun _ => .pure _
  streamer _ method := (advances_call hwrite hrequest method).bind fun _ => .pure _
  methodsHead := .fileHead _
  methodsEnd := .pure _
  streamsHead := .fileHead _
  modelsHead := .fileHead _
  modelsEnd := .pure _

end Deriving

end TypeScript

/-- The backend of each language only derives types. -/
theorem Language.onlyDerives_backend (language : Language) : language.backend.OnlyDerives := by
  rw [Backend.OnlyDerives.iff_advances]
  cases language with
  | python => exact Python.advances_backend fun id _ => Model.DerivesTo.refl.writeType id
  | typeScript =>
    exact TypeScript.advances_backend (fun id _ => Model.DerivesTo.refl.writeType id)
      fun operationId _ => Model.DerivesTo.refl.requestType operationId

/-! ## Recording -/

namespace Recorder

variable (recorder : Recorder)

/-- Recording a question changes nothing of the model. -/
lemma advances_ask (question : String) : (recorder.ask question).Advances R := by
  refine Advances.bind (.of_modify fun _ => rfl) fun _ => ?_
  split
  · exact .throw _
  · exact .pure _

/-- Spelling a type changes nothing of the model. -/
lemma advances_spell (id : TypeId) : (recorder.spell id).Advances R :=
  (Advances.reference id).bind fun _ => (Advances.node id).bind fun _ =>
    (recorder.advances_ask _).bind fun _ => .pure _

/-- A name with its type. -/
lemma advances_typed (level : Nat) (name : String) (type : TypeId) :
    (recorder.typed level name type).Advances R :=
  (recorder.advances_spell type).bind fun _ => .pure _

/-- A property. -/
lemma advances_property (level : Nat) (property : Property) :
    (recorder.property level property).Advances R :=
  (recorder.advances_ask _).bind fun _ => recorder.advances_typed _ _ _

/-- A parameter. -/
lemma advances_parameter (level : Nat) (method : Method) (parameter : Parameter) :
    (recorder.parameter level method parameter).Advances R :=
  (recorder.advances_ask _).bind fun _ => recorder.advances_typed _ _ _

/-- The head or the end of a file. -/
lemma advances_frameText (name : String) : (recorder.frameText name).Advances R :=
  Advances.get.bind fun _ => (recorder.advances_ask _).bind fun _ => .pure _

section Deriving

variable (hwrite : ∀ (id : TypeId) (model : Model), R model (model.writeType id).2)
  (hrequest : ∀ (operationId : String) (model : Model), R model (model.requestType operationId).2)

include hwrite in
/-- A type with its properties. -/
lemma advances_type (level : Nat) (id : TypeId) : (recorder.type level id).Advances R := by
  refine (Advances.node id).bind fun _ => (recorder.advances_ask _).bind fun _ =>
    (Advances.mapM (recorder.advances_property _) _).bind fun _ => ?_
  dsimp only
  split
  · refine (Advances.derived (hwrite id)).bind fun write => ?_
    cases write with
    | none => exact (Advances.pure _).bind fun _ => .pure _
    | some write =>
      exact (Advances.node write).bind fun _ => (Advances.pure _).bind fun _ => .pure _
  · refine (Advances.pure none).bind fun write => ?_
    cases write with
    | none => exact (Advances.pure _).bind fun _ => .pure _
    | some write =>
      exact (Advances.node write).bind fun _ => (Advances.pure _).bind fun _ => .pure _

include hrequest in
/-- A method with its parameters, or with its request type in their place. -/
lemma advances_method (level : Nat) (method : Method) :
    (recorder.method level method).Advances R := by
  refine (recorder.advances_ask _).bind fun _ =>
    (Advances.requestName hrequest _ method).bind fun _ => ?_
  dsimp only
  split
  · exact (Advances.mapM (recorder.advances_parameter _ method) _).bind fun _ =>
      (recorder.advances_spell _).bind fun _ => .pure _
  · exact (Advances.pure _).bind fun _ => (recorder.advances_spell _).bind fun _ => .pure _

include hwrite hrequest

/-- The recording backend only asks for write types and request types. -/
theorem advances_backend : recorder.backend.Advances R where
  type := recorder.advances_type hwrite
  method := recorder.advances_method hrequest
  streamer _ _ := (recorder.advances_ask _).bind fun _ => .pure _
  methodsHead := recorder.advances_frameText _
  methodsEnd := recorder.advances_frameText _
  streamsHead := recorder.advances_frameText _
  modelsHead := recorder.advances_frameText _
  modelsEnd := recorder.advances_frameText _

end Deriving

/-- The recording backend only derives types. -/
theorem onlyDerives_backend : recorder.backend.OnlyDerives :=
  Backend.OnlyDerives.iff_advances.mpr <|
    recorder.advances_backend (fun id _ => Model.DerivesTo.refl.writeType id)
      fun operationId _ => Model.DerivesTo.refl.requestType operationId

end Recorder

end ClientGen
