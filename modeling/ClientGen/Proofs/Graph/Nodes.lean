import Mathlib.Data.List.Perm.Subperm
import Mathlib.Data.List.Nodup
import Mathlib.Tactic.Lemma
import ClientGen.Model.Basic

/-!
# Types as nodes

How the operations that store a type change what is found under a number and under a name. A
number that no type has stands for the default type, which is built in and has no properties.

## Main definitions

* `ClientGen.TypeKind.IsDerived` — the kinds of derived types.
* `ClientGen.Model.refer` — a model in which a type refers to one more name.

## Main results

* `ClientGen.Model.node_add`, `ClientGen.Model.node_modify` — the types after one is added, and
  after one is changed.
* `ClientGen.Model.getElem?_names_uniqueName` — the name that a new type gets is free. One more
  name is tried than there are types, so one of them is.
-/

set_option autoImplicit false

namespace ClientGen

/-- A kind of derived types. -/
def TypeKind.IsDerived : TypeKind → Prop
  | .request _ => True
  | .write _ => True
  | _ => False

namespace Model

variable {model : Model} {base : String} {kind : TypeKind} {schema : Json} {id i : Nat}

/-! ## Numbers and kinds -/

/-- A number that no type has stands for the default type. -/
lemma node_of_size_le (h : model.nodes.size ≤ id) : model.node id = default := by
  simp [node, Array.getElem?_eq_none h]

/-- Only a type that is there has a kind other than the built-in one. -/
lemma lt_size_of_kind_ne (h : (model.node id).kind ≠ .intrinsic) : id < model.nodes.size := by
  by_contra hle
  rw [node_of_size_le (by omega)] at h
  exact h rfl

/-- Only a type that is there has properties. -/
lemma lt_size_of_mem_properties {p : Property} (h : p ∈ (model.node id).properties) :
    id < model.nodes.size := by
  by_contra hle
  rw [node_of_size_le (by omega)] at h
  exact absurd h List.not_mem_nil

/-- A derived kind is not that of a built-in type. -/
lemma lt_size_of_isDerived (h : (model.node id).kind.IsDerived) : id < model.nodes.size :=
  lt_size_of_kind_ne fun hk => by
    rw [hk] at h
    exact h

/-- A type that is no container has no elements. -/
lemma element?_eq_none
    (h : ∀ wrapper element, (model.node id).kind ≠ .container wrapper element) :
    (model.node id).element? = none := by
  unfold TypeNode.element?
  split
  next wrapper element hk => exact absurd hk (h wrapper element)
  next => rfl

/-- A derived type is no container. -/
lemma element?_of_isDerived (h : (model.node id).kind.IsDerived) :
    (model.node id).element? = none :=
  element?_eq_none fun _ _ hk => by
    rw [hk] at h
    exact h

/-! ## A type is added -/

/-- A new type gets the next number. -/
@[simp] lemma fst_add : (model.add base kind schema).1 = model.nodes.size := rfl

/-- There is one more type after one is added. -/
@[simp] lemma size_nodes_add :
    (model.add base kind schema).2.nodes.size = model.nodes.size + 1 := by
  simp [add]

/-- The types after one is added. -/
lemma node_add : (model.add base kind schema).2.node i =
    if i = model.nodes.size then
      { id := model.nodes.size, name := model.uniqueName base, kind := kind, schema := schema }
    else model.node i := by
  simp only [node, add, Array.getD_eq_getD_getElem?, Array.getElem?_push]
  split_ifs <;> rfl

/-- The new type. -/
@[simp] lemma node_add_self : (model.add base kind schema).2.node model.nodes.size =
    { id := model.nodes.size, name := model.uniqueName base, kind := kind, schema := schema } := by
  rw [node_add, if_pos rfl]

/-- The other types stay as they are. -/
lemma node_add_of_ne (h : i ≠ model.nodes.size) :
    (model.add base kind schema).2.node i = model.node i := by
  rw [node_add, if_neg h]

/-- The names after a type is added. -/
lemma getElem?_names_add (name : String) : (model.add base kind schema).2.names[name]? =
    if name = model.uniqueName base then some model.nodes.size else model.names[name]? := by
  simp only [add, Std.TreeMap.getElem?_insert, Std.LawfulEqCmp.compare_eq_iff_eq]
  by_cases h : name = model.uniqueName base
  · rw [if_pos h.symm, if_pos h]
  · rw [if_neg (Ne.symm h), if_neg h]

@[simp] lemma refs_add : (model.add base kind schema).2.refs = model.refs := rfl

/-! ## A type is changed -/

section Modify

variable {change : TypeNode → TypeNode}

/-- There are as many types after one is changed. -/
@[simp] lemma size_nodes_modify : (model.modify id change).nodes.size = model.nodes.size := by
  simp [modify]

/-- The types after one is changed. -/
lemma node_modify : (model.modify id change).node i =
    if i = id ∧ id < model.nodes.size then change (model.node id) else model.node i := by
  simp only [node, modify, Array.getD_eq_getD_getElem?, Array.getElem?_modify]
  by_cases hi : id = i
  · subst hi
    by_cases hlt : id < model.nodes.size
    · simp [hlt]
    · simp [hlt]
  · simp [hi, Ne.symm hi]

/-- The other types stay as they are. -/
lemma node_modify_of_ne (h : i ≠ id) : (model.modify id change).node i = model.node i := by
  rw [node_modify, if_neg (fun hc => h hc.1)]

/-- The changed type. -/
lemma node_modify_self (h : id < model.nodes.size) :
    (model.modify id change).node id = change (model.node id) := by
  rw [node_modify, if_pos ⟨rfl, h⟩]

/-- A change that keeps a part of the type keeps that part of all types. -/
lemma node_modify_keeps {α : Type} (part : TypeNode → α)
    (h : ∀ node, part (change node) = part node) (i : Nat) :
    part ((model.modify id change).node i) = part (model.node i) := by
  rw [node_modify]
  split_ifs with hi
  · rw [h, hi.1]
  · rfl

end Modify

/-! ## A type refers to another one -/

/-- The model in which a type refers to one more name. -/
def refer (model : Model) (id : TypeId) (name : String) : Model :=
  model.modify id fun node => { node with customTypes := node.customTypes.insert name }

section Refer

variable {name : String}

/-- All types keep their kinds. -/
@[simp] lemma kind_refer (i : Nat) : ((model.refer id name).node i).kind = (model.node i).kind :=
  node_modify_keeps (·.kind) (fun _ => by rfl) i

/-- All types keep their names. -/
@[simp] lemma nameOf_refer (i : Nat) : (model.refer id name).nameOf i = model.nameOf i :=
  node_modify_keeps (·.name) (fun _ => by rfl) i

/-- All types keep their properties. -/
@[simp] lemma properties_refer (i : Nat) :
    ((model.refer id name).node i).properties = (model.node i).properties :=
  node_modify_keeps (·.properties) (fun _ => by rfl) i

/-- All types refer to what they referred to, and one type to one more name. -/
lemma mem_customTypes_refer {other : String} :
    other ∈ ((model.refer id name).node i).customTypes ↔
      other ∈ (model.node i).customTypes ∨
        (i = id ∧ id < model.nodes.size) ∧ other = name := by
  rw [refer, node_modify]
  split_ifs with hi
  · rw [Std.TreeSet.mem_insert, Std.LawfulEqCmp.compare_eq_iff_eq, hi.1, eq_comm (a := name)]
    simp [hi.2, or_comm]
  · simp [hi]

end Refer

/-! ## Free names -/

/-- Different numbers make different names. -/
lemma append_toString_injective (base : String) :
    Function.Injective fun number : Nat => base ++ toString number := by
  intro m n h
  have h' : Nat.toDigits 10 m = Nat.toDigits 10 n := by
    simpa [Nat.toString_eq_repr, Nat.repr] using congrArg String.toList h
  rw [← Nat.ofDigitChars_ten_toDigits (n := m), h', Nat.ofDigitChars_ten_toDigits]

/-- Either the name that was found is free, or all names that were tried are taken.

**Proof sketch.** Induction on the number of tries. The first name is free, and then it is the
one that is found, or it is taken and the induction hypothesis speaks of the others. -/
lemma freeName_free_or (base : String) : ∀ tries number,
    model.freeName base tries number ∉ model.names ∨
      ∀ k < tries, base ++ toString (number + k) ∈ model.names
  | 0, _ => Or.inr fun k hk => absurd hk (Nat.not_lt_zero k)
  | tries + 1, number => by
    by_cases hc : base ++ toString number ∈ model.names
    · have ih := freeName_free_or base tries (number + 1)
      rw [freeName, if_pos (Std.TreeMap.mem_iff_contains.mp hc)]
      refine ih.imp_right fun htaken k hk => ?_
      cases k with
      | zero => exact hc
      | succ k =>
        have := htaken k (by omega)
        rwa [show number + 1 + k = number + (k + 1) by omega] at this
    · rw [freeName, if_neg (fun h => hc (Std.TreeMap.mem_iff_contains.mpr h))]
      exact Or.inl hc

/-- A name that is tried once more than there are names is free.

**Proof sketch.** Otherwise all names that were tried are taken. They are different, so there
are more names than there are. -/
lemma freeName_not_mem (base : String) (number : Nat) :
    model.freeName base (model.names.size + 1) number ∉ model.names := by
  rcases freeName_free_or base (model.names.size + 1) number with h | h
  · exact h
  · let tried := (List.range (model.names.size + 1)).map fun k => base ++ toString (number + k)
    have hnodup : tried.Nodup := List.nodup_range.map fun a b hab => by
      have := append_toString_injective base hab
      omega
    have hsub : tried ⊆ model.names.keys := by
      intro name hname
      obtain ⟨k, hk, rfl⟩ := List.mem_map.mp hname
      exact Std.TreeMap.mem_keys.mpr (h k (List.mem_range.mp hk))
    have hle := (hnodup.subperm hsub).length_le
    simp only [tried, List.length_map, List.length_range, Std.TreeMap.length_keys] at hle
    omega

/-- The name that a new type gets is free. -/
theorem getElem?_names_uniqueName (model : Model) (base : String) :
    model.names[model.uniqueName base]? = none := by
  apply Std.TreeMap.getElem?_eq_none
  by_cases h : base ∈ model.names
  · rw [uniqueName, if_pos (Std.TreeMap.mem_iff_contains.mp h)]
    exact freeName_not_mem base 2
  · rwa [uniqueName, if_neg (fun hc => h (Std.TreeMap.mem_iff_contains.mpr hc))]

end Model

end ClientGen
