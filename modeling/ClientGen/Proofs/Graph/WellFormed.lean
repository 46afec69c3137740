import ClientGen.Proofs.Graph.Nodes

/-!
# Well-formed models

A model is well formed if its tables fit together: a type has the number of its place, the names
are a one-to-one table of the types, every number that is stored anywhere is that of a type, and
a container comes after its elements.

## Main definitions

* `ClientGen.Model.WellFormed` — well-formed models.
* `ClientGen.TypeKind.RefersBelow` — kinds that refer only to types with small numbers.
* `ClientGen.Model.containerName` — the name that a container is looked up by.

## Main results

* `ClientGen.Model.WellFormed.add`, `ClientGen.Model.WellFormed.modify` — storing a type and
  changing one keep a model well formed.
* `ClientGen.Model.add_of_intrinsic`, `ClientGen.Model.container_cases`,
  `ClientGen.Model.add_of_container` — looking up a built-in type or a container finds it, or adds
  it.
* `ClientGen.Model.keeps_intrinsic`, `ClientGen.Model.keeps_container` — so what holds of a model
  and is kept by adding that type holds after it has been looked up.
-/

set_option autoImplicit false

namespace ClientGen

/-- The types that a kind refers to have numbers below a bound. -/
def TypeKind.RefersBelow (bound : Nat) : TypeKind → Prop
  | .container _ element => element < bound
  | .write source => source < bound
  | _ => True

namespace Model

/-- The tables of a model fit together. -/
structure WellFormed (model : Model) : Prop where
  /-- A type has the number of its place. -/
  id_eq : ∀ id : TypeId, id < model.nodes.size → (model.node id).id = id
  /-- A name is found exactly if it is the name of a type, and then it leads to that type. -/
  names_iff : ∀ (name : String) (id : TypeId), model.names[name]? = some id ↔
    id < model.nodes.size ∧ model.nameOf id = name
  /-- The elements of a container come before it. -/
  element_lt : ∀ (id : TypeId) (wrapper : Wrapper) (element : TypeId),
    (model.node id).kind = .container wrapper element → element < id
  /-- The source of a write type is a type. -/
  source_lt : ∀ id source : TypeId,
    (model.node id).kind = .write source → source < model.nodes.size
  /-- Properties are of types. -/
  property_lt : ∀ id : TypeId, ∀ p ∈ (model.node id).properties, p.type < model.nodes.size
  /-- References lead to types. -/
  ref_lt : ∀ (reference : String) (id : TypeId),
    model.refs[reference]? = some id → id < model.nodes.size
  /-- Shapes lead to types. -/
  derived_lt : ∀ (key : String) (id : TypeId),
    model.derived[key]? = some id → id < model.nodes.size
  /-- Parameters are of types. -/
  parameter_lt : ∀ (operationId : String) (method : Method),
    model.methods[operationId]? = some method →
      ∀ p ∈ method.parameters, p.type < model.nodes.size
  /-- Responses are of types. -/
  response_lt : ∀ (operationId : String) (method : Method),
    model.methods[operationId]? = some method →
      ∀ r ∈ method.responses, r.type < model.nodes.size
  /-- A method is found under its identifier. -/
  operationId_eq : ∀ (operationId : String) (method : Method),
    model.methods[operationId]? = some method → method.operationId = operationId

variable {model : Model} {base name : String} {kind : TypeKind} {schema : Json} {id i : Nat}

/-! ## Names -/

/-- A name that is found is the name of a type. -/
lemma WellFormed.lt_of_names (h : model.WellFormed) (hn : model.names[name]? = some id) :
    id < model.nodes.size :=
  ((h.names_iff name id).mp hn).1

/-- The name of a type that is there is found. -/
lemma WellFormed.nameOf_mem_names (h : model.WellFormed) (hid : id < model.nodes.size) :
    model.nameOf id ∈ model.names := by
  rw [Std.TreeMap.mem_iff_isSome_getElem?, (h.names_iff _ id).mpr ⟨hid, rfl⟩]
  rfl

/-- No two types share a name. -/
lemma WellFormed.nameOf_injOn (h : model.WellFormed) {first second : Nat}
    (h₁ : first < model.nodes.size) (h₂ : second < model.nodes.size)
    (hn : model.nameOf first = model.nameOf second) : first = second := by
  have e₁ := (h.names_iff _ first).mpr ⟨h₁, rfl⟩
  have e₂ := (h.names_iff _ second).mpr ⟨h₂, rfl⟩
  rw [hn, e₂] at e₁
  exact (Option.some.inj e₁).symm

/-! ## Storing and changing a type -/

/-- Adding a type whose kind refers to types that are there keeps a model well formed.

**Proof sketch.** The new type has the next number and a free name, so it is found under that
name and hides no other type. What was below the number of types still is. -/
theorem WellFormed.add (h : model.WellFormed) (hk : kind.RefersBelow model.nodes.size) :
    (model.add base kind schema).2.WellFormed where
  id_eq id hid := by
    rw [size_nodes_add] at hid
    rw [node_add]
    split_ifs with hi
    · exact hi.symm
    · exact h.id_eq id (Nat.lt_of_le_of_ne (Nat.le_of_lt_succ hid) hi)
  names_iff name id := by
    rw [getElem?_names_add, size_nodes_add, nameOf, node_add]
    by_cases hn : name = model.uniqueName base
    · subst hn
      rw [if_pos rfl]
      constructor
      · intro he
        obtain rfl := Option.some.inj he
        exact ⟨Nat.lt_succ_self _, by rw [if_pos rfl]⟩
      · rintro ⟨hid, hname⟩
        by_cases hi : id = model.nodes.size
        · rw [hi]
        · rw [if_neg hi] at hname
          have hlt := Nat.lt_of_le_of_ne (Nat.le_of_lt_succ hid) hi
          have := (h.names_iff (model.uniqueName base) id).mpr ⟨hlt, hname⟩
          rw [getElem?_names_uniqueName] at this
          exact absurd this (by simp)
    · rw [if_neg hn, h.names_iff]
      by_cases hi : id = model.nodes.size
      · subst hi
        rw [if_pos rfl]
        exact ⟨fun hc => absurd hc.1 (Nat.lt_irrefl _), fun hc => absurd hc.2.symm hn⟩
      · rw [if_neg hi]
        have hlt : id < model.nodes.size + 1 ↔ id < model.nodes.size :=
          ⟨fun hc => Nat.lt_of_le_of_ne (Nat.le_of_lt_succ hc) hi, Nat.lt_succ_of_lt⟩
        rw [hlt]
        rfl
  element_lt id wrapper element hkind := by
    rw [node_add] at hkind
    split_ifs at hkind with hi
    · subst hi
      simp only at hkind
      subst hkind
      exact hk
    · exact h.element_lt id wrapper element hkind
  source_lt id source hkind := by
    rw [size_nodes_add]
    rw [node_add] at hkind
    split_ifs at hkind with hi
    · simp only at hkind
      subst hkind
      exact Nat.lt_succ_of_lt hk
    · exact Nat.lt_succ_of_lt (h.source_lt id source hkind)
  property_lt id p hp := by
    rw [size_nodes_add]
    rw [node_add] at hp
    split_ifs at hp with hi
    · exact absurd hp List.not_mem_nil
    · exact Nat.lt_succ_of_lt (h.property_lt id p hp)
  ref_lt reference id hr := by
    rw [size_nodes_add]
    exact Nat.lt_succ_of_lt (h.ref_lt reference id hr)
  derived_lt key id hd := by
    rw [size_nodes_add]
    exact Nat.lt_succ_of_lt (h.derived_lt key id hd)
  parameter_lt operationId method hm p hp := by
    rw [size_nodes_add]
    exact Nat.lt_succ_of_lt (h.parameter_lt operationId method hm p hp)
  response_lt operationId method hm r hr := by
    rw [size_nodes_add]
    exact Nat.lt_succ_of_lt (h.response_lt operationId method hm r hr)
  operationId_eq := h.operationId_eq

/-- Changing a type keeps a model well formed if the number, the name and the kind stay, and the
new properties are of types that are there. -/
theorem WellFormed.modify (h : model.WellFormed) {change : TypeNode → TypeNode}
    (hid : ∀ node, (change node).id = node.id) (hname : ∀ node, (change node).name = node.name)
    (hkind : ∀ node, (change node).kind = node.kind)
    (hp : ∀ p ∈ (change (model.node id)).properties, p.type < model.nodes.size) :
    (model.modify id change).WellFormed where
  id_eq i hi := by
    rw [size_nodes_modify] at hi
    rw [node_modify_keeps (·.id) hid]
    exact h.id_eq i hi
  names_iff name i := by
    rw [size_nodes_modify, nameOf, node_modify_keeps (·.name) hname]
    exact h.names_iff name i
  element_lt i wrapper element hk := by
    rw [node_modify_keeps (·.kind) hkind] at hk
    exact h.element_lt i wrapper element hk
  source_lt i source hk := by
    rw [node_modify_keeps (·.kind) hkind] at hk
    rw [size_nodes_modify]
    exact h.source_lt i source hk
  property_lt i p hmem := by
    rw [size_nodes_modify]
    rw [node_modify] at hmem
    split_ifs at hmem with hi
    · exact hp p hmem
    · exact h.property_lt i p hmem
  ref_lt reference i hr := by
    rw [size_nodes_modify]
    exact h.ref_lt reference i hr
  derived_lt key i hd := by
    rw [size_nodes_modify]
    exact h.derived_lt key i hd
  parameter_lt operationId method hm p hmem := by
    rw [size_nodes_modify]
    exact h.parameter_lt operationId method hm p hmem
  response_lt operationId method hm r hmem := by
    rw [size_nodes_modify]
    exact h.response_lt operationId method hm r hmem
  operationId_eq := h.operationId_eq

/-- One more reference keeps a model well formed. -/
lemma WellFormed.refer (h : model.WellFormed) (id : TypeId) (name : String) :
    (model.refer id name).WellFormed :=
  h.modify (fun _ => rfl) (fun _ => rfl) (fun _ => rfl) (h.property_lt id)

/-! ## Leaving out methods -/

/-- A method that is not left out was there before. -/
lemma of_getElem?_methods_retain {included excluded : List String} {operationId : String}
    {method : Method}
    (hm : (model.retain included excluded).methods[operationId]? = some method) :
    model.methods[operationId]? = some method := by
  simp only [retain, Std.TreeMap.getElem?_filter'] at hm
  exact (Option.filter_eq_some_iff.mp hm).1

/-- Leaving out methods keeps a model well formed. -/
lemma WellFormed.retain (h : model.WellFormed) (included excluded : List String) :
    (model.retain included excluded).WellFormed :=
  { h with
    parameter_lt := fun operationId method hm =>
      h.parameter_lt operationId method (of_getElem?_methods_retain hm)
    response_lt := fun operationId method hm =>
      h.response_lt operationId method (of_getElem?_methods_retain hm)
    operationId_eq := fun operationId method hm =>
      h.operationId_eq operationId method (of_getElem?_methods_retain hm) }

/-! ## Built-in types and containers -/

/-- A built-in type that is found is a type of that name, and it is built in. -/
lemma intrinsic?_eq_some (h : model.intrinsic? name = some id) :
    model.names[name]? = some id ∧ (model.node id).kind = .intrinsic := by
  obtain ⟨hn, hk⟩ := Option.filter_eq_some_iff.mp h
  exact ⟨hn, by simpa [TypeNode.isIntrinsic] using hk⟩

/-- A built-in type is found, or it is added. -/
lemma add_of_intrinsic (model : Model) (name : String) :
    (∃ id, model.intrinsic? name = some id ∧ model.intrinsic name = (id, model)) ∨
      model.intrinsic name = model.add name .intrinsic .null := by
  unfold intrinsic
  cases hc : model.intrinsic? name with
  | none => exact Or.inr rfl
  | some id => exact Or.inl ⟨id, rfl, rfl⟩

/-- The name that the container of a shape and of elements of a type is looked up by. -/
def containerName (model : Model) (wrapper : Wrapper) (element : TypeId) : String :=
  wrapper.nameOf (model.nameOf element)

/-- A container is found by its name, or its name does not lead to it and it is added. -/
lemma container_cases (model : Model) (wrapper : Wrapper) (element : TypeId) :
    (∃ id, model.names[model.containerName wrapper element]? = some id ∧
        (model.node id).kind = .container wrapper element ∧
        model.container wrapper element = (id, model)) ∨
      (∀ id, model.names[model.containerName wrapper element]? = some id →
          (model.node id).kind ≠ .container wrapper element) ∧
        model.container wrapper element =
          model.add (model.containerName wrapper element) (.container wrapper element) .null := by
  unfold container
  dsimp only
  split
  next id hid =>
    obtain ⟨hn, hk⟩ := Option.filter_eq_some_iff.mp hid
    exact Or.inl ⟨id, hn, by simpa using hk, rfl⟩
  next hnone =>
    refine Or.inr ⟨fun id hn hk => ?_, rfl⟩
    rw [containerName] at hn
    rw [hn, Option.filter_some, if_pos (by simpa using hk)] at hnone
    exact absurd hnone (Option.some_ne_none id)

/-- A container is found, or it is added. -/
lemma add_of_container (model : Model) (wrapper : Wrapper) (element : TypeId) :
    (∃ id, (model.node id).kind = .container wrapper element ∧
        model.container wrapper element = (id, model)) ∨
      model.container wrapper element =
        model.add (model.containerName wrapper element) (.container wrapper element) .null := by
  rcases container_cases model wrapper element with ⟨id, -, hk, he⟩ | ⟨-, he⟩
  · exact Or.inl ⟨id, hk, he⟩
  · exact Or.inr he

/-- What holds of a model, and of the model with a built-in type added, holds after that type has
been looked up. -/
lemma keeps_intrinsic {P : Model → Prop} (hmodel : P model)
    (hadd : P (model.add name .intrinsic .null).2) : P (model.intrinsic name).2 := by
  rcases add_of_intrinsic model name with ⟨id, -, he⟩ | he
  · rwa [he]
  · rwa [he]

/-- What holds of a model, and of the model with a container added where its name does not lead to
it, holds after the container has been looked up. -/
lemma keeps_container {P : Model → Prop} {wrapper : Wrapper} {element : TypeId} (hmodel : P model)
    (hadd : (∀ id, model.names[model.containerName wrapper element]? = some id →
        (model.node id).kind ≠ .container wrapper element) →
      P (model.add (model.containerName wrapper element) (.container wrapper element) .null).2) :
    P (model.container wrapper element).2 := by
  rcases container_cases model wrapper element with ⟨id, -, -, he⟩ | ⟨hnot, he⟩
  · rwa [he]
  · rw [he]
    exact hadd hnot

/-- Looking up a built-in type keeps a model well formed. -/
lemma WellFormed.intrinsic (h : model.WellFormed) (name : String) :
    (model.intrinsic name).2.WellFormed :=
  keeps_intrinsic h (h.add trivial)

/-- Looking up a container of a type keeps a model well formed. -/
lemma WellFormed.container (h : model.WellFormed) (wrapper : Wrapper) {element : Nat}
    (he : element < model.nodes.size) : (model.container wrapper element).2.WellFormed :=
  keeps_container h fun _ => h.add he

/-- The model without any type is well formed. -/
lemma wellFormed_empty (document : Document) : ({ document } : Model).WellFormed where
  id_eq _ hid := absurd hid (Nat.not_lt_zero _)
  names_iff _ _ := by simp
  element_lt id _ _ hk := by simp [node, default] at hk
  source_lt id _ hk := by simp [node, default] at hk
  property_lt id p hp := by simp [node, default] at hp
  ref_lt _ _ hr := by simp at hr
  derived_lt _ _ hd := by simp at hd
  parameter_lt _ _ hm := by simp at hm
  response_lt _ _ hm := by simp at hm
  operationId_eq _ _ hm := by simp at hm

end Model

end ClientGen
