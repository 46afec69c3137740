import ClientGen.Proofs.Graph.WellFormed

/-!
# The type inside all containers

In a well-formed model the elements of a container have a smaller number than the container.
So the walk to the type inside all containers ends, after no more steps than the number of the
type it starts from, and the bound on the number of its steps does not show.

## Main definitions

* `ClientGen.Model.IsElement` — that a type is the type of the elements of another.

## Main results

* `ClientGen.Model.WellFormed.wellFounded_isElement` — no walk from containers to elements goes
  on for ever.
* `ClientGen.Model.unwrap_container`, `ClientGen.Model.unwrap_of_not_container` — the walk as a
  recursion on the kind of a type, without a bound.
* `ClientGen.Model.WellFormed.element?_innermost` — the walk ends at a type that is no container.
-/

set_option autoImplicit false

namespace ClientGen.Model

variable {model : Model} {id element : Nat} {wrapper : Wrapper} {wrappers : List Wrapper}

/-- The first type is the type of the elements of the second one. -/
def IsElement (model : Model) (element id : TypeId) : Prop :=
  ∃ wrapper, (model.node id).kind = .container wrapper element

/-- No walk from containers to elements goes on for ever. -/
theorem WellFormed.wellFounded_isElement (h : model.WellFormed) : WellFounded model.IsElement :=
  Subrelation.wf (fun ⟨wrapper, hk⟩ => h.element_lt _ wrapper _ hk) Nat.lt_wfRel.wf

/-! ## Containers and other types -/

/-- A container has elements. -/
lemma element?_of_container (hk : (model.node id).kind = .container wrapper element) :
    (model.node id).element? = some element := by
  rw [TypeNode.element?, hk]

/-- A type without elements is no container. -/
lemma kind_ne_container (hid : (model.node id).element? = none) (wrapper : Wrapper)
    (element : TypeId) : (model.node id).kind ≠ .container wrapper element := fun hk => by
  rw [element?_of_container hk] at hid
  exact absurd hid (Option.some_ne_none element)

/-- A type has elements only if it is a container. -/
lemma exists_container (hid : (model.node id).element? = some element) :
    ∃ wrapper, (model.node id).kind = .container wrapper element := by
  unfold TypeNode.element? at hid
  split at hid
  next wrapper inner hk =>
    obtain rfl := Option.some.inj hid
    exact ⟨wrapper, hk⟩
  next => exact absurd hid (Option.some_ne_none element).symm

/-! ## The walk -/

/-- One step of the bounded walk, at a container. -/
lemma unwrapWithin_container (hk : (model.node id).kind = .container wrapper element)
    (depth : Nat) : model.unwrapWithin (depth + 1) id =
      (wrapper :: (model.unwrapWithin depth element).1, (model.unwrapWithin depth element).2) := by
  rw [unwrapWithin, hk]

/-- The bounded walk stays at a type that is no container. -/
lemma unwrapWithin_of_not_container (hid : (model.node id).element? = none) (depth : Nat) :
    model.unwrapWithin depth id = ([], id) := by
  cases depth with
  | zero => rfl
  | succ depth =>
    rw [unwrapWithin]
    split
    next wrapper element hk => exact absurd hk (kind_ne_container hid wrapper element)
    next => rfl

/-- The bound on the walk does not matter once it is the number of the type.

**Proof sketch.** Strong induction on the number. At a container the walk goes on at the element,
whose number is smaller, so both bounds still leave enough steps there. -/
lemma WellFormed.unwrapWithin_eq (h : model.WellFormed) :
    ∀ id depth : Nat, id ≤ depth → model.unwrapWithin depth id = model.unwrap id := by
  intro id
  induction id using Nat.strongRecOn with
  | ind id ih =>
    intro depth hle
    cases he : (model.node id).element? with
    | none =>
      rw [unwrap, unwrapWithin_of_not_container he, unwrapWithin_of_not_container he]
    | some element =>
      obtain ⟨wrapper, hk⟩ := exists_container he
      have hlt : element < id := h.element_lt id wrapper element hk
      cases depth with
      | zero => exact absurd (Nat.lt_of_lt_of_le hlt hle) (Nat.not_lt_zero element)
      | succ depth =>
        cases id with
        | zero => exact absurd hlt (Nat.not_lt_zero element)
        | succ n =>
          have hd : element ≤ depth := Nat.le_of_lt_succ (Nat.lt_of_lt_of_le hlt hle)
          rw [unwrap, unwrapWithin_container hk, unwrapWithin_container hk,
            ih element hlt depth hd, ih element hlt n (Nat.le_of_lt_succ hlt)]

/-- The walk at a container goes on at its elements. -/
theorem WellFormed.unwrap_container (h : model.WellFormed)
    (hk : (model.node id).kind = .container wrapper element) :
    model.unwrap id = (wrapper :: (model.unwrap element).1, (model.unwrap element).2) := by
  have hlt : element < id := h.element_lt id wrapper element hk
  obtain ⟨n, rfl⟩ := Nat.exists_eq_succ_of_ne_zero (n := id) (by omega)
  rw [unwrap, unwrapWithin_container hk, h.unwrapWithin_eq element n (by omega)]

/-- The walk stays at a type that is no container. -/
theorem unwrap_of_not_container (hid : (model.node id).element? = none) :
    model.unwrap id = ([], id) :=
  unwrapWithin_of_not_container hid id

/-- A type that is no container is the type inside itself. -/
lemma innermost_of_not_container (hid : (model.node id).element? = none) :
    model.innermost id = id := by
  rw [innermost, unwrap_of_not_container hid]

/-- A property of all types that are no containers, and of a container if its elements have it,
is one of all types. -/
lemma WellFormed.container_induction (h : model.WellFormed) {motive : TypeId → Prop}
    (leaf : ∀ id, (model.node id).element? = none → motive id)
    (container : ∀ id wrapper element, (model.node id).kind = .container wrapper element →
      motive element → motive id) (id : TypeId) : motive id := by
  induction id using h.wellFounded_isElement.induction with
  | _ id ih =>
    cases he : (model.node id).element? with
    | none => exact leaf id he
    | some element =>
      obtain ⟨wrapper, hk⟩ := exists_container he
      exact container id wrapper element hk (ih element ⟨wrapper, hk⟩)

/-- The walk ends at a type that is no container. -/
theorem WellFormed.element?_innermost (h : model.WellFormed) (id : TypeId) :
    (model.node (model.innermost id)).element? = none := by
  induction id using h.container_induction with
  | leaf id hid => rwa [innermost_of_not_container hid]
  | container id wrapper element hk ih => rwa [innermost, h.unwrap_container hk]

/-- The walk goes down. -/
lemma WellFormed.innermost_le (h : model.WellFormed) (id : TypeId) : model.innermost id ≤ id := by
  induction id using h.container_induction with
  | leaf id hid => exact Nat.le_of_eq (innermost_of_not_container hid)
  | container id wrapper element hk ih =>
    rw [innermost, h.unwrap_container hk]
    exact Nat.le_trans ih (Nat.le_of_lt (h.element_lt id wrapper element hk))

/-- The type inside all containers is the type inside itself. -/
lemma WellFormed.unwrap_innermost (h : model.WellFormed) (id : TypeId) :
    model.unwrap (model.innermost id) = ([], model.innermost id) :=
  unwrap_of_not_container (h.element?_innermost id)

/-! ## Built-in types inside -/

/-- The type that a type refers to is the one inside all containers, if that is not built in. -/
lemma customType?_eq_some {type : TypeId} : model.customType? id = some type ↔
    type = model.innermost id ∧ (model.node type).isIntrinsic = false := by
  unfold customType?
  dsimp only
  split_ifs with hi
  · exact ⟨nofun, fun ⟨htype, hno⟩ => absurd (htype ▸ hi) (Bool.eq_false_iff.mp hno)⟩
  · constructor
    · intro h
      obtain rfl := Option.some.inj h
      exact ⟨rfl, Bool.eq_false_iff.mpr hi⟩
    · rintro ⟨rfl, -⟩
      rfl

/-- The type inside all containers, if it is not built in, is one that is there. -/
lemma lt_size_of_customType? {type : TypeId} (h : model.customType? id = some type) :
    type = model.innermost id ∧ type < model.nodes.size := by
  obtain ⟨htype, hi⟩ := customType?_eq_some.mp h
  refine ⟨htype, lt_size_of_kind_ne fun hk => ?_⟩
  simp [TypeNode.isIntrinsic, hk] at hi

end ClientGen.Model
