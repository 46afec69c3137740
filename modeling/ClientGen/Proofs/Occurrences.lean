import Mathlib.Data.List.Infix
import Mathlib.Data.List.TakeWhile
import ClientGen.Document

/-!
# Where a text occurs

What a text contains, and what a reference ends with. The name that a reference ends with has no
slash, so that of a stem and a name it is the name exactly if that has none.

## Main results

* `ClientGen.Text.contains_iff` — what a text contains occurs in it.
* `ClientGen.Text.infix_of_infix_append` — what ends with a character occurs before a text without
  that character, if it occurs at all.
* `ClientGen.slash_not_mem_referenceName`, `ClientGen.referenceName_append` — the name that a
  reference ends with.
-/

set_option autoImplicit false

namespace ClientGen

/-! ## Occurrences -/

namespace Text

/-- A text contains what occurs in it. -/
theorem containsChars_iff {pattern : List Char} :
    ∀ {text : List Char}, containsChars pattern text = true ↔ pattern <:+: text
  | [] => by rw [containsChars, List.isEmpty_iff, List.infix_nil]
  | c :: rest => by
    rw [containsChars, Bool.or_eq_true, List.isPrefixOf_iff_prefix, containsChars_iff,
      List.infix_cons_iff]

/-- A text contains what occurs in it. -/
theorem contains_iff {pattern text : String} :
    contains pattern text = true ↔ pattern.toList <:+: text.toList :=
  containsChars_iff

/-- What ends with a character that the second of two texts lacks occurs in the first one, if it
occurs at all. -/
theorem infix_of_infix_append {pattern first second : List Char} {last : Char}
    (h : pattern ++ [last] <:+: first ++ second) (hlast : last ∉ second) :
    pattern ++ [last] <:+: first := by
  obtain ⟨before, after, he⟩ := h
  rcases List.append_eq_append_iff.mp he with ⟨more, hfirst, -⟩ | ⟨more, hbefore, hsecond⟩
  · exact ⟨before, more, hfirst.symm⟩
  · cases more using List.reverseRecOn with
    | nil => exact ⟨before, [], by rw [List.append_nil, hbefore, List.append_nil]⟩
    | append_singleton more c =>
      -- The occurrence ends in the second text, with the character that is not there.
      rw [← List.append_assoc, ← List.append_assoc] at hbefore
      obtain ⟨-, rfl⟩ := List.append_inj' hbefore rfl |>.imp_right List.singleton_inj.mp
      exact absurd (by rw [hsecond]; simp) hlast

end Text

/-! ## The ends of references -/

/-- The name that a reference ends with has no slash. -/
theorem slash_not_mem_referenceName (reference : String) :
    '/' ∉ (referenceName reference).toList := by
  rw [referenceName, Text.afterLast, String.toList_ofList, Text.afterLastChars, List.mem_reverse]
  intro h
  simpa using List.mem_takeWhile_imp h

/-- A stem that ends with a slash and a name without one end with that name. -/
theorem referenceName_append {stem name : String} (hstem : ∃ s, stem.toList = s ++ ['/'])
    (hname : '/' ∉ name.toList) : referenceName (stem ++ name) = name := by
  obtain ⟨s, hs⟩ := hstem
  have htake : (name.toList.reverse ++ '/' :: s.reverse).takeWhile (· ≠ '/') =
      name.toList.reverse := by
    rw [List.takeWhile_append_of_pos fun c hc => ?_, List.takeWhile_cons_of_neg (by simp),
      List.append_nil]
    exact decide_eq_true fun hslash => hname (List.mem_reverse.mp (hslash ▸ hc))
  rw [referenceName, Text.afterLast, Text.afterLastChars, String.toList_append, hs,
    List.reverse_append, List.reverse_append, List.reverse_singleton, List.singleton_append, htake,
    List.reverse_reverse, String.ofList_toList]

end ClientGen
