import ClientGen.Model.Resolution
import ClientGen.Proofs.Graph.Extension

/-!
# Resolution only grows a model

Resolving a schema looks up built-in types and containers, and adds those that are missing. It
does nothing else to a model, also where it fails in the end.

## Main definitions

* `ClientGen.Model.GrowsTo` — the models that come from looking up built-in types and containers.
* `ClientGen.Model.Loads`, `ClientGen.Model.Resolves` — outcomes that grow a model, and whose
  value, if there is one, refers to types of the grown model.

## Main results

* `ClientGen.Model.GrowsTo.wellFormed`, `ClientGen.Model.GrowsTo.toExtends` — growing keeps a model
  well formed, and extends it.
* `ClientGen.Model.resolves_resolve` — resolving a schema grows the model.
-/

set_option autoImplicit false

namespace ClientGen.Model

/-! ## Growth -/

/-- The second model comes from the first one by looking up built-in types and containers, which
adds those that are missing. -/
inductive GrowsTo (old : Model) : Model → Prop
  /-- Nothing has been looked up. -/
  | refl : GrowsTo old old
  /-- A built-in type has been looked up. -/
  | intrinsic {mid : Model} (name : String) :
      GrowsTo old mid → GrowsTo old (mid.intrinsic name).2
  /-- A container of a type has been looked up. -/
  | container {mid : Model} (wrapper : Wrapper) {element : TypeId} :
      element < mid.nodes.size → GrowsTo old mid → GrowsTo old (mid.container wrapper element).2

namespace GrowsTo

variable {limit : Nat} {old mid new : Model}

/-- Growth composes. -/
theorem trans (h₁ : old.GrowsTo mid) (h₂ : mid.GrowsTo new) : old.GrowsTo new := by
  induction h₂ with
  | refl => exact h₁
  | intrinsic name _ ih => exact ih.intrinsic name
  | container wrapper he _ ih => exact ih.container wrapper he

/-- A growing model stays well formed. -/
theorem wellFormed (h : old.GrowsTo new) (hold : old.WellFormed) : new.WellFormed := by
  induction h with
  | refl => exact hold
  | intrinsic name _ ih => exact ih.intrinsic name
  | container wrapper he _ ih => exact ih.container wrapper he

/-- A growing model extends the model that it was. -/
theorem toExtends (h : old.GrowsTo new) (hle : limit ≤ old.nodes.size) : old.Extends limit new := by
  induction h with
  | refl => exact .refl limit old
  | intrinsic name _ ih => exact ih.trans (.intrinsic (Nat.le_trans hle ih.size_le) name)
  | container wrapper _ _ ih => exact ih.trans (.container (Nat.le_trans hle ih.size_le) wrapper _)

/-- A growing model loses no type. -/
lemma size_le (h : old.GrowsTo new) : old.nodes.size ≤ new.nodes.size :=
  (h.toExtends (Nat.zero_le _)).size_le

end GrowsTo

variable {model : Model} {wrapper : Wrapper} {element : Nat}

/-- The type that stands for a built-in type is a type. -/
lemma WellFormed.fst_intrinsic_lt (h : model.WellFormed) (name : String) :
    (model.intrinsic name).1 < (model.intrinsic name).2.nodes.size := by
  rcases add_of_intrinsic model name with ⟨id, hid, he⟩ | he
  · rw [he]
    exact h.lt_of_names (intrinsic?_eq_some hid).1
  · rw [he, size_nodes_add]
    exact Nat.lt_succ_self _

/-- The type that stands for a container is a container of that shape and those elements. -/
lemma kind_container (model : Model) (wrapper : Wrapper) (element : TypeId) :
    ((model.container wrapper element).2.node (model.container wrapper element).1).kind =
      .container wrapper element := by
  rcases add_of_container model wrapper element with ⟨id, hk, he⟩ | he
  · rw [he]
    exact hk
  · rw [he, fst_add, node_add_self]

/-- The type that stands for a container is a type. -/
lemma fst_container_lt (model : Model) (wrapper : Wrapper) (element : TypeId) :
    (model.container wrapper element).1 < (model.container wrapper element).2.nodes.size := by
  apply lt_size_of_kind_ne
  rw [kind_container]
  exact TypeKind.noConfusion

/-! ## Outcomes -/

/-- The outcome grows the model, and the types that its value refers to, if it has one, are types
of the grown model. -/
structure Loads {α : Type} (types : α → List TypeId) (model : Model)
    (result : Except SpecError α × Model) : Prop where
  grows : model.GrowsTo result.2
  lt_size : ∀ value, result.1 = .ok value → ∀ type ∈ types value, type < result.2.nodes.size

/-- The outcome grows the model, and the type that was found, if any, is one of the grown
model. -/
abbrev Resolves (model : Model) (result : Resolved) : Prop := Loads (fun id => [id]) model result

namespace Loads

variable {α : Type} {types : α → List TypeId}

/-- A failure without any effect. -/
lemma error (model : Model) (error : SpecError) : Loads types model (.error error, model) :=
  ⟨.refl, fun _ h => absurd h (by simp)⟩

/-- A value that refers only to types that are there. -/
lemma ok {value : α} (h : ∀ type ∈ types value, type < model.nodes.size) :
    Loads types model (.ok value, model) :=
  ⟨.refl, fun _ hv => Except.ok.inj hv ▸ h⟩

/-- An outcome of a model that has grown. -/
lemma after {mid : Model} {result : Except SpecError α × Model} (h : model.GrowsTo mid)
    (hr : Loads types mid result) : Loads types model result :=
  ⟨h.trans hr.grows, hr.lt_size⟩

end Loads

/-! ## Resolution -/

/-- A type that was there. -/
lemma Resolves.found (h : element < model.nodes.size) : model.Resolves (.ok element, model) :=
  .ok fun _ ht => List.mem_singleton.mp ht ▸ h

/-- A built-in type. -/
lemma Resolves.intrinsic (h : model.WellFormed) (name : String) :
    model.Resolves (.ok (model.intrinsic name).1, (model.intrinsic name).2) :=
  .after (.intrinsic name .refl) (Resolves.found (h.fst_intrinsic_lt name))

/-- Any schema that is neither a reference nor a container. -/
lemma resolves_resolveScalar (h : model.WellFormed) (type format : Option String)
    (fragment : Json) : model.Resolves (resolveScalar type format fragment model) := by
  unfold resolveScalar
  dsimp only
  split
  · exact Resolves.intrinsic h "int64"
  · exact Resolves.intrinsic h _
  · exact Resolves.intrinsic h "datetime"
  · split
    next id hid =>
      obtain ⟨name, -, hname⟩ := List.exists_of_findSome?_eq_some hid
      exact Resolves.found (h.lt_of_names (intrinsic?_eq_some hname).1)
    next => exact Loads.error model _

/-- A container around what has been resolved. -/
lemma Resolves.wrap {result : Resolved} (h : model.Resolves result) :
    model.Resolves (wrapResolved wrapper result) := by
  obtain ⟨error | element, final⟩ := result
  · exact .after h.grows (.error final error)
  · have he : element < final.nodes.size := h.lt_size element rfl element List.mem_cons_self
    exact .after (h.grows.container wrapper he)
      (Resolves.found (fst_container_lt final wrapper element))

/-- A form of a schema, when references resolve. -/
lemma resolves_resolveForm {follow : String → Model → Resolved} (h : model.WellFormed)
    (hfollow : ∀ reference, model.Resolves (follow reference model)) :
    ∀ (schema : Schema) (style : Option Style),
      model.Resolves (resolveForm follow schema style model) := by
  intro schema
  induction schema with
  | name reference => exact fun _ => hfollow reference
  | link reference =>
    intro style
    rw [resolveForm]
    split
    next id hid => exact Resolves.found (h.ref_lt reference id hid)
    next => exact hfollow reference
  | list items ih => exact fun style => (ih none).wrap
  | map values ih => exact fun style => (ih none).wrap
  | scalar type format fragment => exact fun _ => resolves_resolveScalar h type format fragment

/-- A reference, followed through a number of request bodies. -/
lemma resolves_resolveReferenceWithin (h : model.WellFormed) :
    ∀ (jumps : Nat) (reference : String),
      model.Resolves (resolveReferenceWithin jumps reference model)
  | 0, _ => Loads.error model _
  | jumps + 1, reference => by
    have ih := resolves_resolveReferenceWithin h jumps
    rw [resolveReferenceWithin]
    split
    · split
      · exact Loads.error model _
      · split
        · exact ih _
        · exact resolves_resolveForm h ih _ none
    · split
      next id hid => exact Resolves.found (h.lt_of_names hid)
      next => exact Loads.error model _

/-- A reference. -/
lemma resolves_resolveReference (h : model.WellFormed) (reference : String) :
    model.Resolves (resolveReference reference model) :=
  resolves_resolveReferenceWithin h (jumpLimit model.document) reference

/-- Resolving a schema grows the model, and the type that was found is one of the grown model. -/
theorem resolves_resolve (h : model.WellFormed) (schema : Json) (style : Option Style) :
    model.Resolves (resolve schema style model) :=
  resolves_resolveForm h (resolves_resolveReference h) (Schema.ofJson schema) style

end ClientGen.Model
