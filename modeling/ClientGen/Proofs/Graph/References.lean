import ClientGen.Proofs.Graph.Reading

/-!
# Types refer to types

A type keeps the names of the types that it refers to. In the model of a document each of these is
the name of a type that is there.

## Main definitions

* `ClientGen.Model.RefersToNames` — models in which types refer to the names of types.

## Main results

* `ClientGen.Model.RefersToNames.add`, `ClientGen.Model.RefersToNames.modify` — storing a type and
  changing one keep this.
* `ClientGen.Model.isKeptByReading_refersToNames` — each step of reading a document keeps it.
* `ClientGen.Model.RefersToNames.ofDocument` — it holds in the model of a document.
-/

set_option autoImplicit false

namespace ClientGen.Model

/-- Whatever a type refers to is the name of a type. -/
def RefersToNames (model : Model) : Prop :=
  ∀ id : TypeId, ∀ name ∈ (model.node id).customTypes, name ∈ model.names

variable {model new : Model} {base name : String} {kind : TypeKind} {schema : Json} {id : Nat}
  {properties : List Property}

/-- The names of the types that properties refer to, one by one. -/
lemma mem_customTypeNames :
    name ∈ model.customTypeNames properties ↔ ∃ p ∈ properties, ∃ type : TypeId,
      model.customType? p.type = some type ∧ model.nameOf type = name := by
  rw [customTypeNames, Std.TreeSet.mem_ofList, List.contains_iff_mem, List.mem_map]
  constructor
  · rintro ⟨type, htype, hname⟩
    obtain ⟨p, hp, hcustom⟩ := List.mem_filterMap.mp htype
    exact ⟨p, hp, type, hcustom, hname⟩
  · rintro ⟨p, hp, type, hcustom, hname⟩
    exact ⟨type, List.mem_filterMap.mpr ⟨p, hp, hcustom⟩, hname⟩

/-- Properties refer to the names of types. -/
lemma WellFormed.mem_names_of_mem_customTypeNames (h : model.WellFormed)
    (hn : name ∈ model.customTypeNames properties) : name ∈ model.names := by
  obtain ⟨p, -, type, hcustom, rfl⟩ := mem_customTypeNames.mp hn
  exact h.nameOf_mem_names (lt_size_of_customType? hcustom).2

/-- A name that was taken is taken after a type is added. -/
lemma mem_names_add (hn : name ∈ model.names) : name ∈ (model.add base kind schema).2.names :=
  (Extends.add (Nat.zero_le _)).mem_names hn

namespace RefersToNames

/-- Adding a type keeps references to names. -/
lemma add (h : model.RefersToNames) : (model.add base kind schema).2.RefersToNames := by
  intro id name hn
  rw [node_add] at hn
  split_ifs at hn
  · exact absurd hn Std.TreeSet.not_mem_emptyc
  · exact mem_names_add (h id name hn)

/-- Changing a type keeps references to names, if the new ones are to names. -/
lemma modify (h : model.RefersToNames) {change : TypeNode → TypeNode}
    (hc : ∀ name ∈ (change (model.node id)).customTypes, name ∈ model.names) :
    (model.modify id change).RefersToNames := by
  intro i name hn
  rw [node_modify] at hn
  split_ifs at hn
  · exact hc name hn
  · exact h i name hn

/-- Declaring a schema keeps references to names. -/
lemma declare (h : model.RefersToNames) (stem : String) (entry : String × Json) :
    (Model.declare stem model entry).RefersToNames := h.add

end RefersToNames

/-- Each step of reading a document keeps references to names. -/
theorem isKeptByReading_refersToNames : IsKeptByReading RefersToNames where
  intrinsic _ _ hmodel := hmodel.add
  container _ _ _ _ _ hmodel := hmodel.add
  fill {model id _} h _ hmodel := by
    refine hmodel.modify fun other ho => ?_
    rcases Std.TreeSet.mem_union_iff.mp ho with hold | hnew
    · exact hmodel id other hold
    · exact h.toWellFormed.mem_names_of_mem_customTypeNames hnew
  report _ _ _ _ hmodel := hmodel
  use _ id _ hmodel := hmodel.modify (hmodel id)
  tag _ _ _ hmodel := hmodel
  method _ hmodel := hmodel

/-- The model of built-in types has references to names. -/
lemma RefersToNames.initial (document : Document) : (Model.initial document).RefersToNames :=
  isKeptByReading_refersToNames.initial fun _ _ hn => by simp [node, default] at hn

/-- The model of a document has references to names. -/
theorem RefersToNames.ofDocument (document : Document) :
    (Model.ofDocument document).RefersToNames :=
  isKeptByReading_refersToNames.ofDocument (fun stem entry _ hmodel => hmodel.declare stem entry)
    (.initial document)

end ClientGen.Model
