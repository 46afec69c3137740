import ClientGen.Proofs.Graph.Containers

/-!
# Extensions of a model

What is looked up, added and derived after a model has been made only extends it: types are
added, and types that are there keep their number, name, kind and schema. The types below a limit
keep their contents too, but for cross references to new types. The limit leaves out the types
that are only being made, whose contents are filled in later.

## Main definitions

* `ClientGen.TypeNode.bare` — a type without its contents.
* `ClientGen.Model.Extends` — extensions of a model.

## Main results

* `ClientGen.Model.Extends.trans` — extensions compose.
* `ClientGen.Model.Extends.add`, `ClientGen.Model.Extends.modify`,
  `ClientGen.Model.Extends.refer` — what extends a model.
* `ClientGen.Model.Extends.unwrap_eq` — an extension keeps the containers around a type.
-/

set_option autoImplicit false

namespace ClientGen

/-- The type without its contents: its properties and the references to other parts of the
model. -/
def TypeNode.bare (node : TypeNode) : TypeNode :=
  { node with properties := [], methodRefs := ∅, customTypes := ∅ }

namespace Model

/-- A model with all of another model: its types, those below the limit with their contents, its
names and shapes, and the same tables of the document. -/
structure Extends (limit : Nat) (old new : Model) : Prop where
  document_eq : new.document = old.document
  refs_eq : new.refs = old.refs
  methods_eq : new.methods = old.methods
  tags_eq : new.tags = old.tags
  diagnostics_eq : new.diagnostics = old.diagnostics
  /-- No type is lost. -/
  size_le : old.nodes.size ≤ new.nodes.size
  /-- A type keeps all but its contents. -/
  bare_eq : ∀ id : TypeId, id < old.nodes.size → (new.node id).bare = (old.node id).bare
  /-- A type below the limit keeps its properties. -/
  properties_eq : ∀ id : TypeId, id < limit → (new.node id).properties = (old.node id).properties
  /-- A type below the limit keeps the operations that use it. -/
  methodRefs_eq : ∀ id : TypeId, id < limit → (new.node id).methodRefs = (old.node id).methodRefs
  /-- A type below the limit refers to the types that it referred to. -/
  customTypes_le : ∀ id : TypeId, id < limit →
    ∀ name ∈ (old.node id).customTypes, name ∈ (new.node id).customTypes
  /-- A type below the limit refers to other types only if they are there. -/
  customTypes_new : ∀ id : TypeId, id < limit → ∀ name ∈ (new.node id).customTypes,
    name ∈ (old.node id).customTypes ∨ name ∈ new.names
  /-- Names lead where they led. -/
  names_le : ∀ (name : String) (id : TypeId),
    old.names[name]? = some id → new.names[name]? = some id
  /-- Shapes lead where they led. -/
  derived_le : ∀ (key : String) (id : TypeId),
    old.derived[key]? = some id → new.derived[key]? = some id

namespace Extends

variable {limit : Nat} {model old mid new : Model} {base : String} {kind : TypeKind}
  {schema : Json} {id : Nat} {change : TypeNode → TypeNode}

/-! ## Order -/

/-- A model extends itself. -/
lemma refl (limit : Nat) (model : Model) : model.Extends limit model where
  document_eq := rfl
  refs_eq := rfl
  methods_eq := rfl
  tags_eq := rfl
  diagnostics_eq := rfl
  size_le := Nat.le_refl _
  bare_eq _ _ := rfl
  properties_eq _ _ := rfl
  methodRefs_eq _ _ := rfl
  customTypes_le _ _ _ h := h
  customTypes_new _ _ _ h := Or.inl h
  names_le _ _ h := h
  derived_le _ _ h := h

/-- A name that is taken stays taken. -/
lemma mem_names (h : Extends limit old new) {name : String} (hn : name ∈ old.names) :
    name ∈ new.names := by
  rw [Std.TreeMap.mem_iff_isSome_getElem?, Option.isSome_iff_exists] at hn ⊢
  obtain ⟨id, hid⟩ := hn
  exact ⟨id, h.names_le name id hid⟩

/-- Extensions compose. -/
theorem trans (h₁ : Extends limit old mid) (h₂ : Extends limit mid new) :
    Extends limit old new where
  document_eq := h₂.document_eq.trans h₁.document_eq
  refs_eq := h₂.refs_eq.trans h₁.refs_eq
  methods_eq := h₂.methods_eq.trans h₁.methods_eq
  tags_eq := h₂.tags_eq.trans h₁.tags_eq
  diagnostics_eq := h₂.diagnostics_eq.trans h₁.diagnostics_eq
  size_le := Nat.le_trans h₁.size_le h₂.size_le
  bare_eq id hid :=
    (h₂.bare_eq id (Nat.lt_of_lt_of_le hid h₁.size_le)).trans (h₁.bare_eq id hid)
  properties_eq id hid := (h₂.properties_eq id hid).trans (h₁.properties_eq id hid)
  methodRefs_eq id hid := (h₂.methodRefs_eq id hid).trans (h₁.methodRefs_eq id hid)
  customTypes_le id hid name hn := h₂.customTypes_le id hid name (h₁.customTypes_le id hid name hn)
  customTypes_new id hid name hn := by
    rcases h₂.customTypes_new id hid name hn with hmid | hnew
    · exact (h₁.customTypes_new id hid name hmid).imp_right h₂.mem_names
    · exact Or.inr hnew
  names_le name id hn := h₂.names_le name id (h₁.names_le name id hn)
  derived_le key id hk := h₂.derived_le key id (h₁.derived_le key id hk)

/-- An extension keeps the contents of fewer types. -/
lemma mono {smaller : Nat} (h : Extends limit old new) (hle : smaller ≤ limit) :
    Extends smaller old new where
  document_eq := h.document_eq
  refs_eq := h.refs_eq
  methods_eq := h.methods_eq
  tags_eq := h.tags_eq
  diagnostics_eq := h.diagnostics_eq
  size_le := h.size_le
  bare_eq := h.bare_eq
  properties_eq id hid := h.properties_eq id (Nat.lt_of_lt_of_le hid hle)
  methodRefs_eq id hid := h.methodRefs_eq id (Nat.lt_of_lt_of_le hid hle)
  customTypes_le id hid := h.customTypes_le id (Nat.lt_of_lt_of_le hid hle)
  customTypes_new id hid := h.customTypes_new id (Nat.lt_of_lt_of_le hid hle)
  names_le := h.names_le
  derived_le := h.derived_le

/-! ## What extends a model -/

/-- Adding a type extends a model. -/
theorem add (hle : limit ≤ model.nodes.size) :
    model.Extends limit (model.add base kind schema).2 := by
  have hnode : ∀ id : TypeId, id < model.nodes.size →
      (model.add base kind schema).2.node id = model.node id :=
    fun id hid => node_add_of_ne (Nat.ne_of_lt hid)
  have hold : ∀ id : TypeId, id < limit →
      (model.add base kind schema).2.node id = model.node id :=
    fun id hid => hnode id (Nat.lt_of_lt_of_le hid hle)
  refine ⟨rfl, rfl, rfl, rfl, rfl, ?_, fun id hid => by rw [hnode id hid],
    fun id hid => by rw [hold id hid], fun id hid => by rw [hold id hid],
    fun id hid name hn => by rwa [hold id hid],
    fun id hid name hn => Or.inl (by rwa [hold id hid] at hn), fun name id hn => ?_,
    fun _ _ hk => hk⟩
  · rw [size_nodes_add]
    exact Nat.le_succ _
  · rw [getElem?_names_add, if_neg]
    · exact hn
    · rintro rfl
      rw [getElem?_names_uniqueName] at hn
      exact absurd hn (Option.some_ne_none id).symm

/-- Looking up a built-in type extends a model. -/
lemma intrinsic (hle : limit ≤ model.nodes.size) (name : String) :
    model.Extends limit (model.intrinsic name).2 :=
  keeps_intrinsic (refl limit model) (add hle)

/-- Looking up a container extends a model. -/
lemma container (hle : limit ≤ model.nodes.size) (wrapper : Wrapper) (element : TypeId) :
    model.Extends limit (model.container wrapper element).2 :=
  keeps_container (refl limit model) fun _ => add hle

/-- Filling in the contents of a type above the limit extends a model. -/
theorem modify (hid : limit ≤ id) (hbare : ∀ node, (change node).bare = node.bare) :
    model.Extends limit (model.modify id change) := by
  have hold : ∀ i : TypeId, i < limit → (model.modify id change).node i = model.node i :=
    fun i hi => node_modify_of_ne (Nat.ne_of_lt (Nat.lt_of_lt_of_le hi hid))
  exact ⟨rfl, rfl, rfl, rfl, rfl, Nat.le_of_eq size_nodes_modify.symm,
    fun i _ => node_modify_keeps TypeNode.bare hbare i, fun i hi => by rw [hold i hi],
    fun i hi => by rw [hold i hi], fun i hi name hn => by rwa [hold i hi],
    fun i hi name hn => Or.inl (by rwa [hold i hi] at hn), fun _ _ hn => hn, fun _ _ hk => hk⟩

/-- A cross reference to a type that is there extends a model. -/
theorem refer {name : String} (hname : name ∈ model.names) :
    model.Extends limit (model.refer id name) := by
  refine ⟨rfl, rfl, rfl, rfl, rfl, Nat.le_of_eq size_nodes_modify.symm,
    fun i _ => node_modify_keeps TypeNode.bare (fun _ => by rfl) i, fun i _ => properties_refer i,
    fun i _ => node_modify_keeps (·.methodRefs) (fun _ => by rfl) i,
    fun i _ other ho => mem_customTypes_refer.mpr (Or.inl ho), fun i _ other ho => ?_,
    fun _ _ hn => hn, fun _ _ hk => hk⟩
  rcases mem_customTypes_refer.mp ho with hold | ⟨-, rfl⟩
  · exact Or.inl hold
  · exact Or.inr hname

/-! ## What an extension keeps -/

/-- A type keeps its kind. -/
lemma kind_eq (h : Extends limit old new) (hid : id < old.nodes.size) :
    (new.node id).kind = (old.node id).kind :=
  (congrArg TypeNode.kind (h.bare_eq id hid) :)

/-- A type keeps its name. -/
lemma nameOf_eq (h : Extends limit old new) (hid : id < old.nodes.size) :
    new.nameOf id = old.nameOf id :=
  (congrArg TypeNode.name (h.bare_eq id hid) :)

/-- A type is a container, or not, as it was. -/
lemma element?_eq (h : Extends limit old new) (hid : id < old.nodes.size) :
    (new.node id).element? = (old.node id).element? := by
  rw [TypeNode.element?, TypeNode.element?, h.kind_eq hid]

/-- A type is built in, or not, as it was. -/
lemma isIntrinsic_eq (h : Extends limit old new) (hid : id < old.nodes.size) :
    (new.node id).isIntrinsic = (old.node id).isIntrinsic := by
  rw [TypeNode.isIntrinsic, TypeNode.isIntrinsic, h.kind_eq hid]

/-- The containers around a type stay. -/
theorem unwrap_eq (h : Extends limit old new) (hold : old.WellFormed) (hnew : new.WellFormed)
    (hid : id < old.nodes.size) : new.unwrap id = old.unwrap id := by
  induction id using hold.container_induction with
  | leaf id hleaf =>
    rw [unwrap_of_not_container hleaf, unwrap_of_not_container ((h.element?_eq hid).trans hleaf)]
  | container id wrapper element hk ih =>
    have hlt := Nat.lt_trans (hold.element_lt id wrapper element hk) hid
    rw [hold.unwrap_container hk, hnew.unwrap_container ((h.kind_eq hid).trans hk), ih hlt]

/-- The type inside all containers stays. -/
lemma innermost_eq (h : Extends limit old new) (hold : old.WellFormed) (hnew : new.WellFormed)
    (hid : id < old.nodes.size) : new.innermost id = old.innermost id :=
  congrArg Prod.snd (h.unwrap_eq hold hnew hid)

end Extends

end Model

end ClientGen
