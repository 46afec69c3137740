import ClientGen.Proofs.Graph.Resolution

/-!
# Resolution is all or nothing

Resolving a schema walks down through lists, objects of like members, references and request
bodies, and makes the types it needs on the way. All that can fail is at the bottom of that walk: a
reference that leads nowhere, or a schema that tells no type. At that point nothing has been made
yet, since containers are made on the way back up. So a failure leaves the model as it was, and a
success adds at most one built-in type, and then containers around it.

## Main definitions

* `ClientGen.Model.Gains` — a model that has some types more than another one, and is like it in
  everything else.
* `ClientGen.Model.IsAtomic` — outcomes that change nothing, or add what resolving is meant to add.

## Main results

* `ClientGen.Model.isAtomic_resolveForm` — following references all or nothing, a schema is resolved
  all or nothing.
* `ClientGen.Model.resolve_atomic` — resolving any schema in any model is all or nothing.
-/

set_option autoImplicit false

namespace ClientGen.Model

variable {old mid new model : Model} {added first second : List TypeNode}

/-! ## Types at the end -/

/-- The second model has the added types after those of the first one, each under a name that was
free. It is like the first one in everything else. -/
structure Gains (old : Model) (added : List TypeNode) (new : Model) : Prop where
  /-- The added types stand at the end. -/
  nodes_eq : new.nodes = old.nodes ++ added.toArray
  /-- They have the numbers of their places. -/
  ids_eq : added.map (·.id) = List.range' old.nodes.size added.length
  /-- A name leads where it led, or to the added type of that name. -/
  names_iff : ∀ (name : String) (id : TypeId), new.names[name]? = some id ↔
    old.names[name]? = some id ∨ ∃ node ∈ added, node.name = name ∧ node.id = id
  /-- Apart from the types and their names, nothing is different. -/
  rest_eq : { new with nodes := old.nodes, names := old.names } = old

namespace Gains

/-- A model gains no type over itself. -/
lemma refl (model : Model) : model.Gains [] model where
  nodes_eq := by simp
  ids_eq := rfl
  names_iff := by simp
  rest_eq := rfl

/-- What is gained over what has been gained stands behind it. -/
theorem trans (h₁ : old.Gains first mid) (h₂ : mid.Gains second new) :
    old.Gains (first ++ second) new where
  nodes_eq := by
    rw [h₂.nodes_eq, h₁.nodes_eq]
    simp
  ids_eq := by
    have hsize : mid.nodes.size = old.nodes.size + first.length := by
      simp [h₁.nodes_eq]
    rw [List.map_append, h₁.ids_eq, h₂.ids_eq, hsize, List.range'_append_1, List.length_append]
  names_iff name id := by
    rw [h₂.names_iff, h₁.names_iff]
    simp only [List.mem_append, or_and_right, exists_or, or_assoc]
  rest_eq := by
    calc { new with nodes := old.nodes, names := old.names }
        = { ({ new with nodes := mid.nodes, names := mid.names } : Model) with
            nodes := old.nodes, names := old.names } := rfl
      _ = { mid with nodes := old.nodes, names := old.names } := by rw [h₂.rest_eq]
      _ = old := h₁.rest_eq

/-- A type that is added is gained. -/
theorem add (model : Model) (base : String) (kind : TypeKind) (schema : Json) :
    ∃ node, node.kind = kind ∧ model.Gains [node] (model.add base kind schema).2 := by
  refine ⟨{ id := model.nodes.size, name := model.uniqueName base, kind, schema }, rfl, ?_⟩
  refine ⟨by simp [Model.add], rfl, fun name id => ?_, rfl⟩
  have hfree := getElem?_names_uniqueName model base
  rw [getElem?_names_add]
  by_cases hn : name = model.uniqueName base
  · subst hn
    simp [hfree]
  · simp [hn, Ne.symm hn]

/-- Looking up a built-in type gains at most that type. -/
theorem intrinsic (model : Model) (name : String) :
    ∃ builtIn : Option TypeNode, (∀ node ∈ builtIn, node.kind = .intrinsic) ∧
      model.Gains builtIn.toList (model.intrinsic name).2 := by
  rcases add_of_intrinsic model name with ⟨id, -, he⟩ | he
  · rw [he]
    exact ⟨none, by simp, .refl model⟩
  · obtain ⟨node, hkind, hgains⟩ := add model name .intrinsic .null
    rw [he]
    exact ⟨some node, by simpa using hkind, hgains⟩

/-- Looking up a container gains at most that container. -/
theorem container (model : Model) (wrapper : Wrapper) (element : TypeId) :
    ∃ made : Option TypeNode, (∀ node ∈ made, node.kind = .container wrapper element) ∧
      model.Gains made.toList (model.container wrapper element).2 := by
  rcases add_of_container model wrapper element with ⟨id, -, he⟩ | he
  · rw [he]
    exact ⟨none, by simp, .refl model⟩
  · obtain ⟨node, hkind, hgains⟩ := add model _ (.container wrapper element) .null
    rw [he]
    exact ⟨some node, by simpa using hkind, hgains⟩

end Gains

/-! ## All or nothing -/

/-- A failure leaves the model as it was. A success adds at most one built-in type, and then
containers. -/
def IsAtomic (model : Model) : Resolved → Prop
  | (.error _, after) => after = model
  | (.ok _, after) => ∃ (builtIn : Option TypeNode) (containers : List TypeNode),
      (∀ node ∈ builtIn, node.kind = .intrinsic) ∧
      (∀ node ∈ containers, ∃ wrapper element, node.kind = .container wrapper element) ∧
      model.Gains (builtIn.toList ++ containers) after

namespace IsAtomic

/-- A type that was there. -/
lemma found (model : Model) (id : TypeId) : model.IsAtomic (.ok id, model) :=
  ⟨none, [], by simp, by simp, .refl model⟩

/-- A built-in type. -/
lemma intrinsic (model : Model) (name : String) :
    model.IsAtomic (.ok (model.intrinsic name).1, (model.intrinsic name).2) := by
  obtain ⟨builtIn, hkind, hgains⟩ := Gains.intrinsic model name
  exact ⟨builtIn, [], hkind, by simp, by simpa using hgains⟩

/-- A container around what has been resolved. It is made only where that was a success, and then
it stands behind all that was made for its elements. -/
theorem wrap {result : Resolved} (wrapper : Wrapper) (h : model.IsAtomic result) :
    model.IsAtomic (wrapResolved wrapper result) := by
  obtain ⟨error | element, mid⟩ := result
  · exact h
  · obtain ⟨builtIn, containers, hbuiltIn, hcontainers, hgains⟩ := h
    obtain ⟨made, hmade, hgained⟩ := Gains.container mid wrapper element
    refine ⟨builtIn, containers ++ made.toList, hbuiltIn, fun node hnode => ?_, ?_⟩
    · rcases List.mem_append.mp hnode with hold | hnew
      · exact hcontainers node hold
      · exact ⟨wrapper, element, hmade node (by simpa using hnew)⟩
    · rw [← List.append_assoc]
      exact hgains.trans hgained

end IsAtomic

/-- A schema that is neither a reference nor a container. The built-in types that are known are
looked up first, but only a success makes one. -/
theorem isAtomic_resolveScalar (model : Model) (type format : Option String) (fragment : Json) :
    model.IsAtomic (resolveScalar type format fragment model) := by
  unfold resolveScalar
  dsimp only
  split
  · exact .intrinsic model "int64"
  · exact .intrinsic model _
  · exact .intrinsic model "datetime"
  · split
    next id _ => exact .found model id
    next => rfl

/-- A form of a schema, when references are followed all or nothing.

**Proof sketch.** Induction on the form. Only one walk is made, to the innermost schema, and that is
followed, found or told by its own type. The containers are made after it. -/
theorem isAtomic_resolveForm {follow : String → Model → Resolved}
    (hfollow : ∀ reference, model.IsAtomic (follow reference model)) (schema : Schema) :
    ∀ style : Option Style, model.IsAtomic (resolveForm follow schema style model) := by
  induction schema with
  | name reference =>
    intro style
    exact hfollow reference
  | link reference =>
    intro style
    rw [resolveForm]
    split
    next id _ => exact .found model id
    next => exact hfollow reference
  | list items ih =>
    intro style
    exact (ih none).wrap (listWrapper style)
  | map values ih =>
    intro style
    exact (ih none).wrap .map
  | scalar type format fragment =>
    intro style
    exact isAtomic_resolveScalar model type format fragment

/-- A reference, followed through any number of request bodies. -/
theorem isAtomic_resolveReferenceWithin (model : Model) (jumps : Nat) :
    ∀ reference : String, model.IsAtomic (resolveReferenceWithin jumps reference model) := by
  induction jumps with
  | zero =>
    intro reference
    rfl
  | succ jumps ih =>
    intro reference
    rw [resolveReferenceWithin]
    split
    · split
      · rfl
      · split
        next inner _ => exact ih inner
        next => exact isAtomic_resolveForm ih _ none
    · split
      next id _ => exact .found model id
      next => rfl

/-- Resolving is all or nothing: if a schema has no type, the model is afterwards what it was
before. If it has one, the model is what it was but for new types at its end, which are at most one
built-in type and the containers around it. -/
theorem resolve_atomic (model : Model) (schema : Json) (style : Option Style) :
    model.IsAtomic (model.resolve schema style) := by
  have hfollow : ∀ reference, model.IsAtomic (resolveReference reference model) := by
    intro reference
    exact isAtomic_resolveReferenceWithin model (jumpLimit model.document) reference
  exact isAtomic_resolveForm hfollow (Schema.ofJson schema) style

end ClientGen.Model
