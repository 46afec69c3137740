import ClientGen.Generation.Backend
import ClientGen.Proofs.Graph.Containers

/-!
# Spelling a type ends

The spelling of a container is made of the spelling of its elements. The number of the type bounds
how deep this goes, and in a well-formed model it goes no deeper than that.

## Main results

* `ClientGen.Model.WellFormed.spellWithin_eq` — the bound on the spelling of a type does not show.
-/

set_option autoImplicit false

namespace ClientGen.Model

variable {spellings : TypeSpellings}

/-- The spelling of a type after looking at it, in a pass with one more reference. -/
lemma run_reference_node (next : TypeNode → Rendering Spelling) (id : TypeId) (pass : Pass) :
    (do
      Rendering.reference id
      next (← Rendering.node id)).run.run pass =
        (next (pass.model.node id)).run.run (pass.countReference id) := rfl

/-- The spelling of a type that is no container, in a pass with one more reference. -/
lemma spellWithin_of_not_container {pass : Pass} {id : Nat}
    (hid : (pass.model.node id).element? = none) (depth : Nat) :
    (spellings.spellWithin depth id).run.run pass =
      (spellings.leaf (pass.model.node id)).run.run (pass.countReference id) := by
  cases depth with
  | zero => rfl
  | succ depth =>
    rw [TypeSpellings.spellWithin, run_reference_node]
    split
    next wrapper element hk => exact absurd hk (kind_ne_container hid wrapper element)
    next => rfl

/-- The spelling of a container, in a pass with one more reference. -/
lemma spellWithin_container {pass : Pass} {id element : Nat} {wrapper : Wrapper}
    (hk : (pass.model.node id).kind = .container wrapper element) (depth : Nat) :
    (spellings.spellWithin (depth + 1) id).run.run pass =
      ExceptT.run (do
        let spelling ← spellings.spellWithin depth element
        return spellings.container (← get).file wrapper spelling.name)
      (pass.countReference id) := by
  rw [TypeSpellings.spellWithin, run_reference_node, hk]
  rfl

/-- The bound on the spelling of a type does not matter once it is the number of the type.

**Proof sketch.** Strong induction on the number. At a container the spelling goes on at the
element, whose number is smaller, in a pass with one more reference and the same model. -/
theorem WellFormed.spellWithin_eq (spellings : TypeSpellings) : ∀ (id depth : Nat), id ≤ depth →
    ∀ pass : Pass, pass.model.WellFormed →
      (spellings.spellWithin depth id).run.run pass = (spellings.spell id).run.run pass := by
  intro id
  induction id using Nat.strongRecOn with
  | ind id ih =>
    intro depth hle pass h
    rw [TypeSpellings.spell]
    cases he : (pass.model.node id).element? with
    | none => rw [spellWithin_of_not_container he, spellWithin_of_not_container he]
    | some element =>
      obtain ⟨wrapper, hk⟩ := exists_container he
      have hlt : element < id := h.element_lt id wrapper element hk
      have hpos : 0 < id := Nat.zero_lt_of_lt hlt
      obtain ⟨n, rfl⟩ := Nat.exists_eq_succ_of_ne_zero (Nat.ne_of_gt hpos)
      obtain ⟨m, rfl⟩ :=
        Nat.exists_eq_succ_of_ne_zero (Nat.ne_of_gt (Nat.lt_of_lt_of_le hpos hle))
      have hn : element ≤ n := Nat.le_of_lt_succ hlt
      have hm : element ≤ m := Nat.le_trans hn (Nat.le_of_succ_le_succ hle)
      have hsame : (spellings.spellWithin m element).run.run (pass.countReference (n + 1)) =
          (spellings.spellWithin n element).run.run (pass.countReference (n + 1)) :=
        (ih element hlt m hm (pass.countReference (n + 1)) h).trans
          (ih element hlt n hn (pass.countReference (n + 1)) h).symm
      rw [spellWithin_container hk, spellWithin_container hk, ExceptT.run_bind, ExceptT.run_bind]
      show StateT.run _ _ = StateT.run _ _
      rw [StateT.run_bind, StateT.run_bind, hsame]

end ClientGen.Model
