import Mathlib.Data.List.Forall2
import ClientGen.Proofs.Generation.Advances

/-!
# What rendering ensures

A program that renders a part of a file ends with a value or with a failure. What it ensures is said
of the value and of the pass afterwards, and of the cases in which it may fail: where it may fail in
no case, it ends with a value.

## Main definitions

* `ClientGen.Rendering.Ensures` — what holds of the value and the pass after rendering.

## Main results

* `ClientGen.Rendering.Ensures.bind`, `ClientGen.Rendering.Ensures.mapM`,
  `ClientGen.Rendering.Ensures.foldlM` — what programs ensure that are made of others.
* `ClientGen.Rendering.Ensures.exists_ok` — what may not fail ends with a value.
* `ClientGen.Rendering.Ensures.node_bind`, `ClientGen.Rendering.Ensures.writeType_bind` — what
  programs ensure that begin by asking the pass for something.
-/

set_option autoImplicit false

namespace ClientGen.Rendering

variable {α β : Type} {fails : Prop} {pass : Pass} {rendering : Rendering α}
  {good better : α → Pass → Prop}

/-- Rendering ends with a value such that the value and the pass are good, or it fails in a case in
which it may. -/
def Ensures (fails : Prop) (rendering : Rendering α) (pass : Pass) (good : α → Pass → Prop) :
    Prop :=
  match rendering.run.run pass with
  | (.ok value, after) => good value after
  | (.error _, _) => fails

/-- What ends well ends with a value. -/
lemma exists_of_isOk (h : (rendering.run.run pass).1.isOk = true) :
    ∃ value after, rendering.run.run pass = (.ok value, after) := by
  rcases hr : rendering.run.run pass with ⟨error | value, after⟩ <;> rw [hr] at h
  · exact absurd h Bool.false_ne_true
  · exact ⟨value, after, rfl⟩

namespace Ensures

/-! ### Outcomes -/

/-- What may not fail ends with a value. -/
lemma exists_ok (h : rendering.Ensures False pass good) :
    ∃ value after, rendering.run.run pass = (.ok value, after) ∧ good value after := by
  unfold Ensures at h
  rcases hr : rendering.run.run pass with ⟨error | value, after⟩ <;> rw [hr] at h
  · exact h.elim
  · exact ⟨value, after, rfl, h⟩

/-- What ends with a value ends with a good one. -/
lemma of_ok (h : rendering.Ensures fails pass good) {value : α} {after : Pass}
    (hr : rendering.run.run pass = (.ok value, after)) : good value after := by
  unfold Ensures at h
  rwa [hr] at h

/-- What rendering ensures holds of what it ends with. -/
lemma with_run (h : rendering.Ensures fails pass good) :
    rendering.Ensures fails pass fun value after =>
      rendering.run.run pass = (.ok value, after) ∧ good value after := by
  unfold Ensures at h ⊢
  rcases hr : rendering.run.run pass with ⟨error | value, after⟩ <;> rw [hr] at h
  · exact h
  · exact ⟨rfl, h⟩

/-- What is better is good. -/
lemma imp (h : rendering.Ensures fails pass better)
    (himp : ∀ value after, better value after → good value after) :
    rendering.Ensures fails pass good := by
  unfold Ensures at h ⊢
  split at h
  · exact himp _ _ h
  · exact h

/-- What rendering ensures in two ways holds together. -/
lemma and (hgood : rendering.Ensures fails pass good)
    (hbetter : rendering.Ensures fails pass better) :
    rendering.Ensures fails pass fun value after => good value after ∧ better value after := by
  unfold Ensures at *
  split at hgood
  next h =>
    rw [h] at hbetter
    exact ⟨hgood, hbetter⟩
  next => exact hgood

/-- Where rendering may fail, what it advances the model along is ensured. -/
lemma of_advances {R : Model → Model → Prop} (h : rendering.Advances R) :
    rendering.Ensures True pass fun _ after => R pass.model after.model := by
  have hpass := h pass
  unfold Ensures
  split
  next value after hr => rwa [hr] at hpass
  next => trivial

/-! ### Programs -/

/-- A value is ensured if it is good in the pass. -/
lemma pure {value : α} (h : good value pass) :
    Ensures fails (Pure.pure value : Rendering α) pass good := h

/-- A failure ensures anything where it may occur. -/
lemma throw {failure : Failure} (h : fails) :
    Ensures fails (MonadExcept.throw failure : Rendering α) pass good := h

/-- One thing after another ensures what the second one ensures after what the first one does. -/
lemma bind {first : Rendering α} {next : α → Rendering β} {mid : α → Pass → Prop}
    {good : β → Pass → Prop} (hfirst : first.Ensures fails pass mid)
    (hnext : ∀ value after, mid value after → (next value).Ensures fails after good) :
    (first >>= next).Ensures fails pass good := by
  unfold Ensures at hfirst ⊢
  rw [ExceptT.run_bind, StateT.run_bind]
  rcases hr : first.run.run pass with ⟨error | value, after⟩ <;> rw [hr] at hfirst
  · exact hfirst
  · exact hnext value after hfirst

/-- Rendering the items of a list keeps what rendering an item keeps, and gives results that are
related to the items one by one. -/
lemma mapM {render : α → Rendering β} {keeps : Pass → Prop} {related : α → β → Prop}
    (hrender : ∀ item pass, keeps pass →
      (render item).Ensures fails pass fun result after => keeps after ∧ related item result) :
    ∀ (items : List α) {pass : Pass}, keeps pass →
      (items.mapM render).Ensures fails pass fun results after =>
        keeps after ∧ List.Forall₂ related items results
  | [], _, hpass => pure ⟨hpass, .nil⟩
  | item :: rest, _, hpass => by
    rw [List.mapM_cons]
    refine (hrender item _ hpass).bind fun result after hafter => ?_
    refine (mapM hrender rest hafter.1).bind fun results last hlast => ?_
    exact pure ⟨hlast.1, .cons hafter.2 hlast.2⟩

/-- Going through the items of a list ensures what holds when no item is left, if each step goes
on from what holds when one more item is. -/
lemma foldlM {step : β → α → Rendering β} {holds : List α → β → Pass → Prop}
    (hstep : ∀ item rest value pass, holds (item :: rest) value pass →
      (step value item).Ensures fails pass (holds rest)) :
    ∀ (items : List α) {value : β} {pass : Pass}, holds items value pass →
      (items.foldlM step value).Ensures fails pass (holds [])
  | [], _, _, h => pure h
  | item :: rest, value, pass, h => by
    rw [List.foldlM_cons]
    exact (hstep item rest value pass h).bind fun _ _ hmid => foldlM hstep rest hmid

/-! ### What a backend asks -/

section Asking

variable {id : TypeId} {result : β → Pass → Prop}

/-- Looking at the pass gives the pass. -/
lemma get_bind {next : Pass → Rendering β} (h : (next pass).Ensures fails pass result) :
    (MonadState.get >>= next).Ensures fails pass result := h

/-- Changing the pass leaves the changed pass. -/
lemma modify_bind {change : Pass → Pass} {next : Unit → Rendering β}
    (h : (next ()).Ensures fails (change pass) result) :
    (modify change >>= next).Ensures fails pass result := h

/-- Looking at a type gives the type. -/
lemma node_bind {next : TypeNode → Rendering β}
    (h : (next (pass.model.node id)).Ensures fails pass result) :
    (Rendering.node id >>= next).Ensures fails pass result := h

/-- Counting a reference keeps the model. -/
lemma reference_bind {next : Unit → Rendering β}
    (h : ∀ after : Pass, after.model = pass.model → (next ()).Ensures fails after result) :
    (Rendering.reference id >>= next).Ensures fails pass result := h _ rfl

/-- Going on to another file keeps the model, and nothing has been referred to in that file. -/
lemma beginFile_bind {file : FileKind} {next : Unit → Rendering β}
    (h : (next ()).Ensures fails { pass with file := file, counts := ∅ } result) :
    (Rendering.beginFile file >>= next).Ensures fails pass result := h

/-- A type with a name has one. -/
lemma ensureNamed_bind {node : TypeNode} {next : Unit → Rendering β}
    (hname : node.name = "" → fails) (h : (next ()).Ensures fails pass result) :
    (Rendering.ensureNamed node >>= next).Ensures fails pass result := by
  have hensure : (Rendering.ensureNamed node).Ensures fails pass fun _ after => pass = after := by
    unfold Rendering.ensureNamed
    split
    next hn =>
      refine throw (hname ?_)
      rw [Bool.and_eq_true, String.isEmpty_iff] at hn
      exact hn.1
    next => exact pure rfl
  refine hensure.bind ?_
  rintro _ _ rfl
  exact h

/-- Asking for the write type of a type gives it, and leaves the model with it. -/
lemma writeType_bind {next : Option TypeId → Rendering β}
    (h : ∀ after : Pass, after.model = (pass.model.writeType id).2 →
      (next (pass.model.writeType id).1).Ensures fails after result) :
    (Rendering.writeType id >>= next).Ensures fails pass result := by
  have hwrite : (Rendering.writeType id).Ensures fails pass fun write after =>
      write = (pass.model.writeType id).1 ∧ after.model = (pass.model.writeType id).2 := by
    unfold Rendering.writeType Rendering.derived
    refine get_bind ?_
    generalize pass.model.writeType id = derivation
    obtain ⟨none | write, model⟩ := derivation
    · exact ⟨rfl, rfl⟩
    · exact ⟨rfl, rfl⟩
  refine hwrite.bind ?_
  rintro _ after ⟨rfl, hafter⟩
  exact h after hafter

end Asking

end Ensures

end ClientGen.Rendering
