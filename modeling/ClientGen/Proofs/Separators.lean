import Mathlib.Data.List.Basic
import ClientGen.Text.Basic

/-!
# Texts between separators

## Main results

* `ClientGen.Text.splitChars_append` — the pieces on both sides of a separator.
* `ClientGen.Text.splitChars_intercalate` — the pieces of what has been put together from pieces.
* `ClientGen.Text.not_mem_of_mem_splitChars` — a piece contains no separator.
* `ClientGen.Text.exists_head?_of_nil_not_mem_splitChars`,
  `ClientGen.Text.exists_getLast?_of_nil_not_mem_splitChars` — no separator stands at an end if no
  piece is empty.
-/

set_option autoImplicit false

namespace ClientGen.Text

variable {separator : Char} {before after current chars : List Char}

lemma splitCharsFrom_ne_nil : splitCharsFrom separator current chars ≠ [] := by
  induction chars generalizing current with
  | nil => simp [splitCharsFrom]
  | cons c rest ih =>
    rw [splitCharsFrom]
    split
    next => exact List.cons_ne_nil _ _
    next => exact ih

/-- There is at least one piece. -/
lemma splitChars_ne_nil : splitChars separator chars ≠ [] := splitCharsFrom_ne_nil

lemma splitCharsFrom_append :
    splitCharsFrom separator current (before ++ separator :: after) =
      splitCharsFrom separator current before ++ splitChars separator after := by
  induction before generalizing current with
  | nil => simp [splitCharsFrom, splitChars]
  | cons c rest ih =>
    rw [List.cons_append, splitCharsFrom, splitCharsFrom, ih, ih]
    split <;> rfl

/-- The pieces on both sides of a separator. -/
theorem splitChars_append : splitChars separator (before ++ separator :: after) =
    splitChars separator before ++ splitChars separator after :=
  splitCharsFrom_append

lemma splitCharsFrom_of_not_mem (h : separator ∉ chars) :
    splitCharsFrom separator current chars = [current.reverse ++ chars] := by
  induction chars generalizing current with
  | nil => simp [splitCharsFrom]
  | cons c rest ih =>
    obtain ⟨hc, hrest⟩ := not_or.mp (List.mem_cons.not.mp h)
    rw [splitCharsFrom, if_neg (Ne.symm hc), ih hrest]
    simp

/-- Without separators there is one piece. -/
lemma splitChars_of_not_mem (h : separator ∉ chars) : splitChars separator chars = [chars] :=
  splitCharsFrom_of_not_mem h

/-- The first piece ends at the first separator. -/
lemma splitChars_append_of_not_mem (h : separator ∉ before) :
    splitChars separator (before ++ separator :: after) =
      before :: splitChars separator after := by
  rw [splitChars_append, splitChars_of_not_mem h, List.singleton_append]

/-- There is one piece only without separators. -/
lemma not_mem_of_length_splitChars (h : (splitChars separator chars).length = 1) :
    separator ∉ chars := by
  intro hmem
  obtain ⟨before, after, rfl⟩ := List.append_of_mem hmem
  have hbefore : 0 < (splitChars separator before).length :=
    List.length_pos_iff.mpr splitChars_ne_nil
  have hafter : 0 < (splitChars separator after).length := List.length_pos_iff.mpr splitChars_ne_nil
  rw [splitChars_append, List.length_append] at h
  omega

lemma not_mem_of_mem_splitCharsFrom {piece : List Char} (hcurrent : separator ∉ current)
    (h : piece ∈ splitCharsFrom separator current chars) : separator ∉ piece := by
  induction chars generalizing current with
  | nil =>
    obtain rfl := List.mem_singleton.mp h
    simpa using hcurrent
  | cons c rest ih =>
    rw [splitCharsFrom] at h
    split at h
    next =>
      rcases List.mem_cons.mp h with rfl | h
      · simpa using hcurrent
      · exact ih List.not_mem_nil h
    next hne => exact ih (by simp [Ne.symm hne, hcurrent]) h

/-- A piece contains no separator. -/
theorem not_mem_of_mem_splitChars {piece : List Char} (h : piece ∈ splitChars separator chars) :
    separator ∉ piece :=
  not_mem_of_mem_splitCharsFrom List.not_mem_nil h

/-- If no piece is empty, there is a first character, and it is no separator. -/
lemma exists_head?_of_nil_not_mem_splitChars (h : [] ∉ splitChars separator chars) :
    ∃ c, chars.head? = some c ∧ c ≠ separator := by
  cases chars with
  | nil => exact absurd List.mem_cons_self h
  | cons c rest =>
    refine ⟨c, rfl, ?_⟩
    rintro rfl
    exact h (by simp [splitChars, splitCharsFrom])

/-- If no piece is empty, there is a last character, and it is no separator. -/
lemma exists_getLast?_of_nil_not_mem_splitChars (h : [] ∉ splitChars separator chars) :
    ∃ c, chars.getLast? = some c ∧ c ≠ separator := by
  rcases List.eq_nil_or_concat chars with rfl | ⟨front, c, rfl⟩
  · exact absurd List.mem_cons_self h
  · refine ⟨c, by simp, ?_⟩
    rintro rfl
    rw [List.concat_eq_append, splitChars_append, List.mem_append, not_or] at h
    exact h.2 List.mem_cons_self

/-- The pieces of what has been put together from pieces. -/
theorem splitChars_intercalate {pieces : List (List Char)} (hne : pieces ≠ [])
    (h : ∀ piece ∈ pieces, separator ∉ piece) :
    splitChars separator ([separator].intercalate pieces) = pieces := by
  induction pieces with
  | nil => exact absurd rfl hne
  | cons piece rest ih =>
    obtain ⟨hpiece, hrest⟩ := List.forall_mem_cons.mp h
    cases rest with
    | nil => rw [List.intercalate_singleton, splitChars_of_not_mem hpiece]
    | cons next rest =>
      rw [List.intercalate_cons_cons, List.append_assoc, List.singleton_append,
        splitChars_append_of_not_mem hpiece, ih (List.cons_ne_nil _ _) hrest]

end ClientGen.Text
