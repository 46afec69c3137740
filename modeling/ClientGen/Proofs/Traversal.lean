import Mathlib.Data.List.Forall2

/-!
# Traversals that may fail

A step may fail, and what is done in several steps fails with the first one that does. So a
traversal of a list either has a result for each item, or stops at the first item without one.

## Main results

* `ClientGen.exists_of_mem_left`, `ClientGen.exists_of_mem_right` — in lists that are related item
  by item, each item has a partner.
* `ClientGen.exists_of_bind` — what succeeds in two steps succeeds in each of them.
* `ClientGen.mapM_eq_ok_iff`, `ClientGen.mapM_eq_error_iff` — the results of a traversal, and where
  it stops.
-/

set_option autoImplicit false

namespace ClientGen

variable {α β ε : Type} {R : α → β → Prop} {items : List α} {results : List β}

/-! ## Lists that are related item by item -/

/-- In lists that are related item by item, each item of the first has one in the second. -/
lemma exists_of_mem_left (h : List.Forall₂ R items results) {item : α} (hitem : item ∈ items) :
    ∃ result ∈ results, R item result := by
  induction h with
  | nil => exact absurd hitem List.not_mem_nil
  | cons hfirst _ ih =>
    rcases List.mem_cons.mp hitem with rfl | hrest
    · exact ⟨_, List.mem_cons_self, hfirst⟩
    · obtain ⟨result, hresult, hrelated⟩ := ih hrest
      exact ⟨result, List.mem_cons_of_mem _ hresult, hrelated⟩

/-- In lists that are related item by item, each item of the second has one in the first. -/
lemma exists_of_mem_right (h : List.Forall₂ R items results) {result : β}
    (hresult : result ∈ results) : ∃ item ∈ items, R item result :=
  exists_of_mem_left h.flip hresult

/-! ## Steps -/

/-- What succeeds in two steps succeeds in each of them. -/
lemma exists_of_bind {first : Except ε α} {next : α → Except ε β} {result : β}
    (h : first >>= next = .ok result) : ∃ value, first = .ok value ∧ next value = .ok result := by
  cases first with
  | error error => exact absurd h nofun
  | ok value => exact ⟨value, rfl, h⟩

/-! ## Traversals -/

variable {step : α → Except ε β}

/-- A traversal gives the results of all items, if there is one for each of them. -/
lemma mapM_eq_ok_iff : items.mapM step = .ok results ↔
    List.Forall₂ (fun item result => step item = .ok result) items results := by
  induction items generalizing results with
  | nil => cases results <;> simp [pure, Except.pure]
  | cons item rest ih =>
    rw [List.mapM_cons]
    constructor
    · intro h
      obtain ⟨result, hresult, h⟩ := exists_of_bind h
      obtain ⟨others, hothers, h⟩ := exists_of_bind h
      obtain rfl := Except.ok.inj h
      exact .cons hresult (ih.mp hothers)
    · intro h
      cases h with
      | cons hresult hothers =>
        rw [hresult, ih.mpr hothers]
        rfl

/-- A traversal stops with the mistake of the first item that has one. -/
lemma mapM_eq_error_iff {error : ε} : items.mapM step = .error error ↔
    ∃ before item after, items = before ++ item :: after ∧
      (∀ other ∈ before, ∃ result, step other = .ok result) ∧ step item = .error error := by
  induction items with
  | nil => simp [pure, Except.pure]
  | cons item rest ih =>
    rw [List.mapM_cons]
    cases hitem : step item with
    | error mistake =>
      show Except.error mistake = Except.error error ↔ _
      rw [Except.error.injEq]
      refine ⟨fun h => ⟨[], item, rest, rfl, by simp, h ▸ hitem⟩, ?_⟩
      rintro ⟨before, broken, after, hsplit, hbefore, hbroken⟩
      cases before with
      | nil =>
        obtain ⟨rfl, -⟩ := List.cons.inj hsplit
        exact Except.error.inj (hitem.symm.trans hbroken)
      | cons other before =>
        obtain ⟨rfl, -⟩ := List.cons.inj hsplit
        obtain ⟨result, hok⟩ := hbefore item List.mem_cons_self
        exact absurd (hitem.symm.trans hok) (by simp)
    | ok result =>
      have hstep : ((Except.ok result : Except ε β) >>= fun first => do
          let others ← rest.mapM step
          return first :: others) = .error error ↔ rest.mapM step = .error error := by
        cases rest.mapM step <;> simp [bind, Except.bind, pure, Except.pure]
      rw [hstep, ih]
      constructor
      · rintro ⟨before, broken, after, rfl, hbefore, hbroken⟩
        exact ⟨item :: before, broken, after, rfl,
          List.forall_mem_cons.mpr ⟨⟨result, hitem⟩, hbefore⟩, hbroken⟩
      · rintro ⟨before, broken, after, hsplit, hbefore, hbroken⟩
        cases before with
        | nil =>
          obtain ⟨rfl, -⟩ := List.cons.inj hsplit
          exact absurd (hitem.symm.trans hbroken) (by simp)
        | cons other before =>
          obtain ⟨-, rfl⟩ := List.cons.inj hsplit
          exact ⟨before, broken, after, rfl, (List.forall_mem_cons.mp hbefore).2, hbroken⟩

/-- A traversal stops just if some item has a mistake. -/
lemma exists_mapM_eq_error_iff : (∃ error, items.mapM step = .error error) ↔
    ∃ item ∈ items, ∃ error, step item = .error error := by
  constructor
  · rintro ⟨error, h⟩
    obtain ⟨before, item, after, rfl, -, hitem⟩ := mapM_eq_error_iff.mp h
    exact ⟨item, List.mem_append_right _ List.mem_cons_self, error, hitem⟩
  · rintro ⟨item, hmem, error, hitem⟩
    cases h : items.mapM step with
    | error mistake => exact ⟨mistake, rfl⟩
    | ok results =>
      obtain ⟨result, -, hresult⟩ := exists_of_mem_left (mapM_eq_ok_iff.mp h) hmem
      exact absurd (hitem.symm.trans hresult) nofun

end ClientGen
