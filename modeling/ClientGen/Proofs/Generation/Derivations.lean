import ClientGen.Proofs.Derivation.RequestTypes
import ClientGen.Proofs.Generation.Advances

/-!
# A pass only derives types

Whatever a backend asks of its pass, the model of the pass changes by derivations only: request
types and write types are added, and the containers of those. This holds also for a pass that
fails. So a pass keeps a model settled, whichever backend it is for, as long as the backend
asks for types in the ways that there are.

## Main definitions

* `ClientGen.Model.DerivesTo` — the models that come from deriving types.
* `ClientGen.Rendering.OnlyDerives` — that rendering changes the model by derivations only.
* `ClientGen.Backend.OnlyDerives` — that a backend does.

## Main results

* `ClientGen.Model.Settled.derivesTo`, `ClientGen.Model.Settled.extends_of_derivesTo` — derivations
  keep a model settled and extend it.
* `ClientGen.Backend.OnlyDerives.generate` — a pass only derives types.
-/

set_option autoImplicit false

namespace ClientGen

/-! ## Derivations -/

namespace Model

variable {old mid new : Model}

/-- The second model comes from the first one by deriving request types and write types. -/
inductive DerivesTo (old : Model) : Model → Prop
  /-- Nothing has been derived. -/
  | refl : DerivesTo old old
  /-- A request type has been derived. -/
  | requestType {mid : Model} (operationId : String) :
      DerivesTo old mid → DerivesTo old (mid.requestType operationId).2
  /-- A write type has been derived. -/
  | writeType {mid : Model} (id : TypeId) :
      DerivesTo old mid → DerivesTo old (mid.writeType id).2

namespace DerivesTo

/-- Derivations compose. -/
theorem trans (h₁ : old.DerivesTo mid) (h₂ : mid.DerivesTo new) : old.DerivesTo new := by
  induction h₂ with
  | refl => exact h₁
  | requestType operationId _ ih => exact ih.requestType operationId
  | writeType id _ ih => exact ih.writeType id

/-- Deriving the types for a method is deriving types. -/
lemma deriveFor (model : Model) (method : Method) : model.DerivesTo (model.deriveFor method) :=
  List.foldlRecOn _ _ (DerivesTo.refl.requestType method.operationId)
    fun _ h p _ => h.writeType p.type

/-- Deriving the types for all methods is deriving types. -/
lemma deriveAll (model : Model) : model.DerivesTo model.deriveAll :=
  List.foldlRecOn _ _ .refl fun mid h method _ => h.trans (deriveFor mid method)

/-- Derivations form a relation that composes. -/
instance : IsPreorder Model DerivesTo where
  refl _ := .refl
  trans _ _ _ := trans

end DerivesTo

/-- Derivations keep a model settled. -/
theorem Settled.derivesTo (h : old.Settled) (hd : old.DerivesTo new) : new.Settled := by
  induction hd with
  | refl => exact h
  | requestType operationId _ ih => exact ih.requestType operationId
  | writeType id _ ih => exact ih.writeType id

/-- Derivations extend a settled model. -/
theorem Settled.extends_of_derivesTo (h : old.Settled) (hd : old.DerivesTo new) :
    old.Extends old.nodes.size new := by
  induction hd with
  | refl => exact .refl _ old
  | @requestType mid operationId hd ih =>
    exact ih.trans (((h.derivesTo hd).requestType_spec operationId).2.mono ih.size_le)
  | @writeType mid id hd ih =>
    exact ih.trans (((h.derivesTo hd).writeType_spec id).2.mono ih.size_le)

end Model

/-! ## Rendering -/

/-- Rendering changes the model of the pass by derivations only, also if it fails. -/
def Rendering.OnlyDerives {α : Type} (rendering : Rendering α) : Prop :=
  ∀ pass : Pass, pass.model.DerivesTo (rendering.run.run pass).2.model

/-! ## Passes -/

/-- Whatever a backend renders, the model of the pass changes by derivations only. -/
structure Backend.OnlyDerives (backend : Backend) : Prop where
  type : ∀ level id, (backend.type level id).OnlyDerives
  method : ∀ level method, (backend.method level method).OnlyDerives
  streamer : ∀ level method, (backend.streamer level method).OnlyDerives
  methodsHead : backend.methodsHead.OnlyDerives
  methodsEnd : backend.methodsEnd.OnlyDerives
  streamsHead : backend.streamsHead.OnlyDerives
  modelsHead : backend.modelsHead.OnlyDerives
  modelsEnd : backend.modelsEnd.OnlyDerives

namespace Backend.OnlyDerives

variable {backend : Backend}

/-- To derive types only is to advance the model along derivations. -/
lemma iff_advances : backend.OnlyDerives ↔ backend.Advances Model.DerivesTo :=
  ⟨fun h => ⟨h.type, h.method, h.streamer, h.methodsHead, h.methodsEnd, h.streamsHead,
      h.modelsHead, h.modelsEnd⟩,
    fun h => ⟨h.type, h.method, h.streamer, h.methodsHead, h.methodsEnd, h.streamsHead,
      h.modelsHead, h.modelsEnd⟩⟩

/-- A pass only derives types, also if it fails. -/
theorem generate (h : backend.OnlyDerives) (model : Model) (apiVersion packageName : String) :
    model.DerivesTo (model.generate backend apiVersion packageName).2.model :=
  (iff_advances.mp h).files { model, apiVersion, packageName }

end Backend.OnlyDerives

end ClientGen
