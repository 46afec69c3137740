import Mathlib.Order.Defs.Unbundled
import ClientGen.Generation.Files

/-!
# How a pass advances its model

Whatever a backend asks of its pass, the model goes from one state to another, and this holds also
if the backend fails. Each request that leaves the model related to what it was before, by a
relation that composes, can be made any number of times. So a program advances the model along such
a relation if each request that it makes does. Only requests for derived types change the model at
all.

## Main definitions

* `ClientGen.Model.Keeps` — the relation along which a property is kept.
* `ClientGen.Rendering.Advances` — that rendering advances the model along a relation.
* `ClientGen.Backend.Advances` — that whatever a backend renders does.

## Main results

* `ClientGen.Rendering.Advances.bind` — one thing after another.
* `ClientGen.Rendering.Advances.spell` — spelling a type leaves the model as it is.
* `ClientGen.Backend.Advances.files` — a pass advances the model along the relation.
-/

set_option autoImplicit false

namespace ClientGen

variable {R : Model → Model → Prop}

/-! ## Relations -/

/-- The second model has a property if the first one does. -/
def Model.Keeps (P : Model → Prop) (old new : Model) : Prop := P old → P new

/-- Keeping a property composes. -/
instance (P : Model → Prop) : IsPreorder Model (Model.Keeps P) where
  refl _ := id
  trans _ _ _ hfirst hsecond h := hsecond (hfirst h)

/-! ## Rendering -/

namespace Rendering

variable {α β : Type}

/-- What is rendered after looking at the pass. -/
lemma run_get_bind (next : Pass → Rendering α) (pass : Pass) :
    (MonadState.get >>= next).run.run pass = (next pass).run.run pass := rfl

/-- Rendering leaves a model that is related to the one before, also if it fails. -/
def Advances (R : Model → Model → Prop) (rendering : Rendering α) : Prop :=
  ∀ pass : Pass, R pass.model (rendering.run.run pass).2.model

namespace Advances

variable [IsPreorder Model R]

/-! ### Programs -/

/-- A value changes nothing. -/
lemma pure (value : α) : Advances R (Pure.pure value : Rendering α) := fun pass => refl pass.model

/-- A failure changes nothing. -/
lemma throw (failure : Failure) : Advances R (MonadExcept.throw failure : Rendering α) :=
  fun pass => refl pass.model

/-- Looking at the pass changes nothing. -/
lemma get : Advances R (MonadState.get : Rendering Pass) := fun pass => refl pass.model

/-- A change of other parts of the pass leaves the model as it is. -/
lemma of_modify {change : Pass → Pass} (h : ∀ pass, (change pass).model = pass.model) :
    Advances R (modify change : Rendering Unit) := fun pass => by
  show R pass.model (change pass).model
  rw [h]
  exact refl pass.model

/-- One thing after another advances along the relation if both do. -/
lemma bind {first : Rendering α} {next : α → Rendering β} (hfirst : first.Advances R)
    (hnext : ∀ value, (next value).Advances R) : (first >>= next).Advances R := by
  intro pass
  have h := hfirst pass
  rw [ExceptT.run_bind, StateT.run_bind]
  rcases hr : first.run.run pass with ⟨error | value, mid⟩ <;> rw [hr] at h
  · exact h
  · exact Trans.trans h (hnext value mid)

/-- Mapping the value changes what rendering it changes. -/
lemma map {first : Rendering α} (hfirst : first.Advances R) (f : α → β) :
    (f <$> first).Advances R := by
  rw [← bind_pure_comp]
  exact hfirst.bind fun value => .pure (f value)

/-- Rendering the items of a list advances along the relation if rendering an item does. -/
lemma mapM {render : α → Rendering β} (hrender : ∀ item, (render item).Advances R) :
    ∀ items : List α, (items.mapM render).Advances R
  | [] => .pure []
  | item :: rest => by
    rw [List.mapM_cons]
    exact (hrender item).bind fun _ => (mapM hrender rest).bind fun _ => .pure _

/-- Going through the items of a list advances along the relation if each step does. -/
lemma foldlM {step : β → α → Rendering β} (hstep : ∀ value item, (step value item).Advances R) :
    ∀ (items : List α) (value : β), (items.foldlM step value).Advances R
  | [], value => .pure value
  | item :: rest, value => by
    rw [List.foldlM_cons]
    exact (hstep value item).bind fun value => foldlM hstep rest value

/-! ### What leaves the model as it is -/

/-- Counting a reference changes nothing of the model. -/
lemma reference (id : TypeId) : (Rendering.reference id).Advances R := of_modify fun _ => rfl

/-- Looking at a type changes nothing. -/
lemma node (id : TypeId) : (Rendering.node id).Advances R := get.bind fun _ => .pure _

/-- Going on to another file changes nothing of the model. -/
lemma beginFile (file : FileKind) : (Rendering.beginFile file).Advances R := of_modify fun _ => rfl

/-- Asking for a name changes nothing. -/
lemma ensureNamed (node : TypeNode) : (Rendering.ensureNamed node).Advances R := by
  unfold Rendering.ensureNamed
  split
  · exact .throw _
  · exact .pure _

/-- Spelling a type that is no container changes nothing. -/
lemma leaf (spellings : TypeSpellings) (node : TypeNode) : (spellings.leaf node).Advances R := by
  unfold TypeSpellings.leaf
  split
  · split
    · exact .pure _
    · exact .throw _
  · exact (ensureNamed node).bind fun _ => get.bind fun _ => .pure _

/-- Spelling a type changes nothing of the model. -/
lemma spell (spellings : TypeSpellings) (id : TypeId) : (spellings.spell id).Advances R := by
  have hwithin : ∀ depth id, (spellings.spellWithin depth id).Advances R := by
    intro depth
    induction depth with
    | zero => exact fun id => (reference id).bind fun _ => (node id).bind fun _ => leaf spellings _
    | succ depth ih =>
      intro id
      refine (reference id).bind fun _ => (node id).bind fun _ => ?_
      split
      · exact (ih _).bind fun _ => get.bind fun _ => .pure _
      · exact leaf spellings _
  exact hwithin id id

/-- The head of a file changes nothing. -/
lemma fileHead (head : Banner → String) : (ClientGen.fileHead head).Advances R :=
  get.bind fun _ => .pure _

/-! ### What derives types -/

omit [IsPreorder Model R] in
/-- A derivation advances along a relation between a model and what is derived from it. -/
lemma derived {derive : Model → Model.Derivation}
    (hderive : ∀ model : Model, R model (derive model).2) :
    (Rendering.derived derive).Advances R := by
  intro pass
  have h := hderive pass.model
  rw [Rendering.derived, run_get_bind]
  generalize derive pass.model = result at h ⊢
  obtain ⟨none | id, model⟩ := result
  · exact h
  · exact h

/-- Looking for the type that a parameter is sent as advances along a relation between a model and
the one after a write type is derived. -/
lemma sentType (hwrite : ∀ (id : TypeId) (model : Model), R model (model.writeType id).2)
    (parameter : Parameter) : (Rendering.sentType parameter).Advances R := by
  unfold Rendering.sentType
  split
  · exact (derived (hwrite parameter.type)).bind fun _ => .pure _
  · exact .pure _

/-- Looking for the name of a request type advances along a relation between a model and the one
after a request type is derived. -/
lemma requestName
    (hrequest : ∀ (operationId : String) (model : Model), R model (model.requestType operationId).2)
    (takesRequests : Bool) (method : Method) :
    (ClientGen.requestName takesRequests method).Advances R := by
  unfold ClientGen.requestName
  split
  · refine (derived (hrequest method.operationId)).bind fun _ => ?_
    split
    · exact (node _).bind fun _ => .pure _
    · exact .pure _
  · exact .pure _

end Advances

end Rendering

/-! ## Passes -/

/-- Whatever a backend renders, it advances the model of the pass along a relation. -/
structure Backend.Advances (R : Model → Model → Prop) (backend : Backend) : Prop where
  type : ∀ level id, (backend.type level id).Advances R
  method : ∀ level method, (backend.method level method).Advances R
  streamer : ∀ level method, (backend.streamer level method).Advances R
  methodsHead : backend.methodsHead.Advances R
  methodsEnd : backend.methodsEnd.Advances R
  streamsHead : backend.streamsHead.Advances R
  modelsHead : backend.modelsHead.Advances R
  modelsEnd : backend.modelsEnd.Advances R

namespace Backend.Advances

open Rendering

variable {backend : Backend} [IsPreorder Model R]

/-- Declaring a type. -/
lemma declare (h : backend.Advances R) (declarations : Declarations) (entry : String × TypeId) :
    (backend.declare declarations entry).Advances R := by
  refine (Advances.node entry.2).bind fun node => ?_
  dsimp only
  split
  · exact .pure _
  · exact (Advances.ensureNamed node).bind fun _ => (h.type 0 entry.2).bind fun _ => .pure _

/-- Declaring types in rounds. -/
lemma declareRounds (h : backend.Advances R) :
    ∀ (rounds : Nat) (declarations : Declarations),
      (backend.declareRounds rounds declarations).Advances R
  | 0, declarations => .pure declarations
  | rounds + 1, declarations => by
    refine Advances.get.bind fun pass => ?_
    dsimp only
    split
    · exact .pure declarations
    · exact (Advances.foldlM h.declare _ _).bind fun _ => declareRounds h rounds _

/-- The file of types. -/
lemma modelsFile (h : backend.Advances R) : backend.modelsFile.Advances R :=
  (Advances.beginFile .models).bind fun _ => (Advances.get.bind fun _ => h.declareRounds _ _).bind
    fun _ => h.modelsHead.bind fun _ => h.modelsEnd.bind fun _ => .pure _

/-- The file of methods. -/
lemma methodsFile (h : backend.Advances R) : backend.methodsFile.Advances R :=
  (Advances.beginFile .methods).bind fun _ => Advances.get.bind fun _ =>
    (Advances.mapM (h.method 1) _).bind fun _ =>
      h.methodsHead.bind fun _ => h.methodsEnd.bind fun _ => .pure _

/-- The file of streams. -/
lemma streamsFile (h : backend.Advances R) : backend.streamsFile.Advances R :=
  (Advances.beginFile .streams).bind fun _ => Advances.get.bind fun _ =>
    (Advances.mapM (h.streamer 1) _).bind fun _ =>
      h.streamsHead.bind fun _ => h.methodsEnd.bind fun _ => .pure _

/-- All files of a pass. -/
theorem files (h : backend.Advances R) : backend.files.Advances R := by
  refine h.methodsFile.bind fun _ => ?_
  dsimp only
  split
  · exact (h.streamsFile.map some).bind fun _ => h.modelsFile.bind fun _ => .pure _
  · exact (Rendering.Advances.pure none).bind fun _ => h.modelsFile.bind fun _ => .pure _

end Backend.Advances

end ClientGen
