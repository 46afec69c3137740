import Mathlib.Data.List.Forall2
import ClientGen.Proofs.Components

/-!
# Each declared schema becomes one type

The declared schemas are made types one after the other, before anything else of a document is
read. So these types come right after the built-in ones, in the order of the document, and there
are no others of their kind: reading the rest of the document only adds built-in types and
containers.

## Main definitions

* `ClientGen.Model.Registers` — that a type stands for a declared schema.
* `ClientGen.Model.components` — the types that stand for declared schemas.

## Main results

* `ClientGen.Model.registers_foldl_declare` — declaring schemas makes one type for each of them.
* `ClientGen.Model.components_ofDocument` — the model of a document has just these types.
* `ClientGen.Model.mem_refs_ofDocument` — and just their references.
-/

set_option autoImplicit false

namespace ClientGen.Model

variable {model old new : Model} {stem : String} {entry other : String × Json} {id : Nat}

/-! ## Types for schemas -/

/-- The type stands for a declared schema. The reference of the schema leads to it, and it has the
name of the schema, unless a type before it has that name. Then it has a number after the name. -/
structure Registers (model : Model) (stem : String) (id : TypeId) (entry : String × Json) : Prop
    extends Declares model stem entry.1 id where
  schema_eq : (model.node id).schema = entry.2
  name_eq_iff : model.nameOf id = entry.1 ↔ ∀ earlier < id, model.nameOf earlier ≠ entry.1
  numbered : model.nameOf id ≠ entry.1 → ∃ n : Nat, model.nameOf id = entry.1 ++ toString n

/-- The types that stand for declared schemas. -/
def components (model : Model) : List TypeId :=
  (List.range model.nodes.size).filter fun id => (model.node id).kind = .component

namespace Registers

/-- A model with the same types has those that stand for schemas. -/
lemma keepsTypes (h : old.Registers stem id entry) (hk : old.KeepsTypes new) :
    new.Registers stem id entry where
  toDeclares := h.toDeclares.keepsTypes hk
  schema_eq := (congrArg TypeNode.schema (hk.bare_eq id h.lt_size) : _).trans h.schema_eq
  name_eq_iff := by
    rw [hk.nameOf_eq h.lt_size, h.name_eq_iff]
    exact forall₂_congr fun earlier he => by rw [hk.nameOf_eq (Nat.lt_trans he h.lt_size)]
  numbered := by
    rw [hk.nameOf_eq h.lt_size]
    exact h.numbered

/-- Declaring a schema makes a type that stands for it. -/
lemma declare_self (h : model.WellFormed) (stem : String) (entry : String × Json) :
    (Model.declare stem model entry).Registers stem model.nodes.size entry where
  toDeclares := .declare_self model stem entry
  schema_eq := by
    show ((model.add entry.1 .component entry.2).2.node model.nodes.size).schema = _
    rw [node_add_self]
  name_eq_iff := by
    have hearlier : ∀ earlier < model.nodes.size,
        (Model.declare stem model entry).nameOf earlier = model.nameOf earlier :=
      fun earlier he => congrArg TypeNode.name (node_add_of_ne (Nat.ne_of_lt he))
    have htaken : entry.1 ∈ model.names ↔ ∃ earlier < model.nodes.size,
        model.nameOf earlier = entry.1 := by
      rw [Std.TreeMap.mem_iff_isSome_getElem?, Option.isSome_iff_exists]
      exact exists_congr fun earlier => h.names_iff entry.1 earlier
    rw [nameOf_declare_self]
    by_cases hfree : entry.1 ∈ model.names
    · obtain ⟨n, hn⟩ := exists_uniqueName_eq_of_mem hfree
      obtain ⟨earlier, hlt, hname⟩ := htaken.mp hfree
      refine iff_of_false (fun hc => ?_) fun hc =>
        hc earlier hlt ((hearlier earlier hlt).trans hname)
      rw [hn] at hc
      simp at hc
    · refine iff_of_true (uniqueName_of_not_mem hfree) fun earlier hlt hc => hfree ?_
      exact htaken.mpr ⟨earlier, hlt, (hearlier earlier hlt).symm.trans hc⟩
  numbered := by
    rw [nameOf_declare_self]
    intro hne
    refine exists_uniqueName_eq_of_mem ?_
    by_contra hfree
    exact hne (uniqueName_of_not_mem hfree)

/-- Declaring a schema leaves the types that stand for schemas of other names. -/
lemma declare_of_ne (h : model.Registers stem id entry) (hne : other.1 ≠ entry.1) :
    (Model.declare stem model other).Registers stem id entry := by
  have hadd := h.keepsTypes (.add model other.1 .component other.2)
  exact ⟨h.toDeclares.declare_of_ne hne, hadd.schema_eq, hadd.name_eq_iff, hadd.numbered⟩

end Registers

/-- Declaring schemas makes one type for each of them, one after the other.

**Proof sketch.** Induction on the schemas. The type of the first one comes next, and keeps standing
for it when the others are declared, since they have other names. -/
theorem registers_foldl_declare (stem : String) :
    ∀ (schemas : List (String × Json)) {model : Model}, model.Fresh →
      (schemas.map (·.1)).Nodup →
        List.Forall₂ ((schemas.foldl (declare stem) model).Registers stem)
          (List.range' model.nodes.size schemas.length) schemas
  | [], _, _, _ => .nil
  | entry :: rest, model, h, hnodup => by
    obtain ⟨hnew, hrest⟩ := List.nodup_cons.mp hnodup
    have hne : ∀ other ∈ rest, other.1 ≠ entry.1 := fun other ho he =>
      hnew (List.mem_map.mpr ⟨other, ho, he⟩)
    have hfirst : (rest.foldl (declare stem) (declare stem model entry)).Registers stem
        model.nodes.size entry :=
      List.foldlRecOn (motive := fun mid : Model => mid.Registers stem _ entry) rest _
        (.declare_self h.toWellFormed stem entry) fun _ hmid other ho =>
          hmid.declare_of_ne (hne other ho)
    have hsize : (declare stem model entry).nodes.size = model.nodes.size + 1 := size_nodes_add
    have hothers := registers_foldl_declare stem rest (h.declare stem entry) hrest
    rw [hsize] at hothers
    exact .cons hfirst hothers

/-! ## No other types stand for schemas -/

/-- The types that stand for schemas depend on the kinds of all types only. -/
lemma components_congr (hsize : new.nodes.size = old.nodes.size)
    (hkind : ∀ id, (new.node id).kind = (old.node id).kind) : new.components = old.components := by
  simp only [components, hsize, hkind]

/-- The types that stand for schemas after a type is added. -/
lemma components_add (model : Model) (base : String) (kind : TypeKind) (schema : Json) :
    (model.add base kind schema).2.components =
      model.components ++ if kind = .component then [model.nodes.size] else [] := by
  have hold : ∀ id ∈ List.range model.nodes.size,
      decide (((model.add base kind schema).2.node id).kind = .component) =
        decide ((model.node id).kind = .component) := fun id hid => by
    rw [node_add_of_ne (Nat.ne_of_lt (List.mem_range.mp hid))]
  rw [components, size_nodes_add, List.range_succ, List.filter_append, List.filter_congr hold,
    components, List.filter_singleton, node_add_self]
  by_cases hk : kind = .component <;> simp [hk]

/-- Adding a type of another kind leaves the types that stand for schemas. -/
lemma components_add_of_ne {base : String} {kind : TypeKind} {schema : Json}
    (hk : kind ≠ .component) : (model.add base kind schema).2.components = model.components := by
  rw [components_add, if_neg hk, List.append_nil]

/-- Changing the contents of a type leaves the types that stand for schemas. -/
lemma components_modify {change : TypeNode → TypeNode}
    (hkind : ∀ node, (change node).kind = node.kind) :
    (model.modify id change).components = model.components :=
  components_congr size_nodes_modify (node_modify_keeps TypeNode.kind hkind)

/-- Each step of reading the contents of a document leaves the types that stand for schemas. -/
lemma isKeptByReading_components (ids : List TypeId) :
    IsKeptByReading fun model => model.components = ids where
  intrinsic _ _ h := by rwa [components_add_of_ne TypeKind.noConfusion]
  container _ _ _ _ _ h := by rwa [components_add_of_ne TypeKind.noConfusion]
  fill _ _ h := (components_modify (by exact fun _ => rfl)).trans h
  report _ _ _ _ h := h
  use _ _ _ h := (components_modify (by exact fun _ => rfl)).trans h
  tag _ _ _ h := h
  method _ h := h

/-- The types that stand for schemas when schemas are declared: those from before, and one for each
schema. -/
lemma components_foldl_declare (stem : String) :
    ∀ (schemas : List (String × Json)) (model : Model),
      (schemas.foldl (declare stem) model).components =
        model.components ++ List.range' model.nodes.size schemas.length
  | [], model => (List.append_nil _).symm
  | entry :: rest, model => by
    have hfirst : (declare stem model entry).components =
        model.components ++ [model.nodes.size] := components_add model entry.1 .component entry.2
    have hsize : (declare stem model entry).nodes.size = model.nodes.size + 1 := size_nodes_add
    rw [List.foldl_cons, components_foldl_declare stem rest, hfirst, hsize, List.append_assoc]
    rfl

/-- In the model of the built-in types no type stands for a schema. -/
lemma components_initial (document : Document) : (initial document).components = [] :=
  (isKeptByReading_components []).initial rfl

/-- Once the schemas of a document are declared, just the types after the built-in ones stand for
schemas. -/
lemma components_declared (document : Document) :
    (declared document).components =
      List.range' (initial document).nodes.size (document.schemas?.getD []).length := by
  rw [declared, components_foldl_declare, components_initial, List.nil_append]

/-- Reading the rest of a document leaves the types that stand for schemas. -/
theorem components_ofDocument (document : Document) :
    (ofDocument document).components = (declared document).components := by
  have hkept := isKeptByReading_components (declared document).components
  obtain ⟨hfresh, hschemas⟩ := hkept.loadSchemas (fresh_declared document)
    document.schemaReferenceStem (document.schemas?.getD []) rfl
  rw [ofDocument, loadTypes, document_initial]
  exact (hkept.loadMethods hfresh hschemas).2

/-! ## References -/

/-- The references when schemas are declared: those from before, and those of the schemas. -/
lemma mem_refs_foldl_declare {reference : String} :
    ∀ (schemas : List (String × Json)) {model : Model},
      reference ∈ (schemas.foldl (declare stem) model).refs ↔
        reference ∈ model.refs ∨ reference ∈ schemas.map (stem ++ ·.1)
  | [], _ => by simp
  | entry :: rest, model => by
    have hfirst : reference ∈ (declare stem model entry).refs ↔
        stem ++ entry.1 = reference ∨ reference ∈ model.refs := by
      show reference ∈ model.refs.insert (stem ++ entry.1) _ ↔ _
      rw [Std.TreeMap.mem_insert, Std.LawfulEqCmp.compare_eq_iff_eq]
    rw [List.foldl_cons, mem_refs_foldl_declare rest, hfirst, List.map_cons, List.mem_cons,
      or_comm (a := _ = reference), or_assoc, eq_comm (a := reference)]

/-- The references of the model of a document are those of its schemas. -/
theorem mem_refs_ofDocument (document : Document) (reference : String) :
    reference ∈ (ofDocument document).refs ↔
      reference ∈ (document.schemas?.getD []).map (document.schemaReferenceStem ++ ·.1) := by
  have hnone : (initial document).refs = ∅ :=
    List.foldlRecOn (motive := fun mid : Model => mid.refs = ∅) _ _ rfl fun _ hmid _ _ => hmid
  rw [(keepsTypes_declared document).refs_eq, declared, mem_refs_foldl_declare, hnone]
  simp

end ClientGen.Model
