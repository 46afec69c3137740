import ClientGen.Proofs.Occurrences

/-!
# What occurs in lines

What has no white space cannot reach across white space: where it occurs in a text, it occurs in one
of the pieces that white space takes the text apart into. So it occurs in a text exactly if it
occurs in one of its lines, and white space before or after a text makes no difference.

## Main definitions

* `ClientGen.Text.IsSolid` — a pattern that is not empty and has no white space.

## Main results

* `ClientGen.Text.IsSolid.append_cons_eq_iff` — where a solid pattern occurs around white space.
* `ClientGen.Text.IsSolid.exists_contains_lines` — a solid pattern occurs in a text exactly if it
  occurs in one of its lines.
* `ClientGen.Text.IsSolid.infix_intercalate` — a solid pattern occurs in texts with white space
  between them exactly if it occurs in one of them.
* `ClientGen.Text.IsSolid.framed_iff` — where a solid pattern occurs in lines that end with it.
-/

set_option autoImplicit false

namespace ClientGen.Text

open Unicode

/-- A pattern that is not empty and has no white space. -/
structure IsSolid (pattern : List Char) : Prop where
  ne_nil : pattern ≠ []
  not_white : ∀ c ∈ pattern, ¬isWhiteSpace c = true

namespace IsSolid

variable {pattern first second blank before after current chars : List Char} {c : Char}

/-- White space is no part of a solid pattern. -/
lemma not_mem (h : IsSolid pattern) (hc : isWhiteSpace c = true) : c ∉ pattern :=
  fun hmem => h.not_white c hmem hc

/-- A solid pattern does not occur in the empty text. -/
lemma nil_ne (h : IsSolid pattern) : [] ≠ before ++ pattern ++ after := fun hnil =>
  h.ne_nil (List.append_eq_nil_iff.mp (List.append_eq_nil_iff.mp hnil.symm).1).2

/-! ### Around white space -/

/-- Where a solid pattern occurs in a text with white space in the middle, it occurs before that or
after it.

**Proof sketch.** The white space stands before the occurrence, after it or within it, and the last
case is impossible. -/
theorem append_cons_eq_iff (h : IsSolid pattern) (hc : isWhiteSpace c = true) :
    first ++ c :: second = before ++ pattern ++ after ↔
      (∃ rest, first = before ++ pattern ++ rest ∧ after = rest ++ c :: second) ∨
        ∃ rest, second = rest ++ pattern ++ after ∧ before = first ++ c :: rest := by
  constructor
  · intro he
    rw [List.append_assoc] at he
    rcases List.append_eq_append_iff.mp he with ⟨more, hbefore, hsecond⟩ | ⟨more, hfirst, hsecond⟩
    · cases more with
      | nil =>
        obtain ⟨d, rest, rfl⟩ := List.exists_cons_of_ne_nil h.ne_nil
        obtain ⟨rfl, -⟩ := List.cons_eq_cons.mp hsecond
        exact absurd List.mem_cons_self (h.not_mem hc)
      | cons d rest =>
        obtain ⟨rfl, rfl⟩ := List.cons_eq_cons.mp hsecond
        exact Or.inr ⟨rest, (List.append_assoc ..).symm, hbefore⟩
    · rcases List.append_eq_append_iff.mp hsecond with
        ⟨rest, hmore, hafter⟩ | ⟨rest, hpattern, hafter⟩
      · exact Or.inl ⟨rest, by rw [hfirst, hmore, List.append_assoc], hafter⟩
      · cases rest with
        | nil =>
          rw [List.append_nil] at hpattern
          exact Or.inl ⟨[], by rw [hfirst, hpattern, List.append_nil], hafter.symm⟩
        | cons d rest =>
          obtain ⟨rfl, -⟩ := List.cons_eq_cons.mp hafter
          exact absurd (by rw [hpattern]; simp) (h.not_mem hc)
  · rintro (⟨rest, rfl, rfl⟩ | ⟨rest, rfl, rfl⟩) <;> simp only [List.append_assoc, List.cons_append]

/-- A solid pattern occurs in a text with white space in the middle exactly if it occurs before that
or after it. -/
theorem infix_append_cons (h : IsSolid pattern) (hc : isWhiteSpace c = true) :
    pattern <:+: first ++ c :: second ↔ pattern <:+: first ∨ pattern <:+: second := by
  constructor
  · rintro ⟨before, after, he⟩
    rcases (h.append_cons_eq_iff hc).mp he.symm with ⟨rest, hfirst, -⟩ | ⟨rest, hsecond, -⟩
    · exact Or.inl ⟨before, rest, hfirst.symm⟩
    · exact Or.inr ⟨rest, after, hsecond.symm⟩
  · rintro (hfirst | hsecond)
    · exact hfirst.trans List.infix_append_left
    · exact (hsecond.trans (List.suffix_cons c second).isInfix).trans
        (List.suffix_append _ _).isInfix

/-- A solid pattern does not occur in white space. -/
lemma not_infix_blank (h : IsSolid pattern) (hblank : blank.all isWhiteSpace = true) :
    ¬pattern <:+: blank := by
  intro hoccurs
  obtain ⟨c, hc⟩ := List.exists_mem_of_ne_nil pattern h.ne_nil
  exact h.not_mem (List.all_eq_true.mp hblank c (hoccurs.subset hc)) hc

/-- White space before a text does not matter. -/
lemma infix_blank_append (h : IsSolid pattern) (hblank : blank.all isWhiteSpace = true) :
    pattern <:+: blank ++ first ↔ pattern <:+: first := by
  induction blank with
  | nil => rfl
  | cons c rest ih =>
    obtain ⟨hc, hrest⟩ := Bool.and_eq_true_iff.mp hblank
    have hnil : ¬pattern <:+: [] := fun hoccurs => h.ne_nil (List.infix_nil.mp hoccurs)
    have hcons : pattern <:+: [] ++ c :: (rest ++ first) ↔ _ := h.infix_append_cons hc
    rw [← ih hrest]
    exact hcons.trans (or_iff_right hnil)

/-- White space after a text does not matter. -/
lemma infix_append_blank (h : IsSolid pattern) (hblank : blank.all isWhiteSpace = true) :
    pattern <:+: first ++ blank ↔ pattern <:+: first := by
  induction blank generalizing first with
  | nil => rw [List.append_nil]
  | cons c rest ih =>
    obtain ⟨hc, hrest⟩ := Bool.and_eq_true_iff.mp hblank
    rw [h.infix_append_cons hc, or_iff_left (h.not_infix_blank hrest)]

/-! ### Lines -/

/-- The carriage return that a line feed takes with it does not matter. -/
lemma infix_closeLine (h : IsSolid pattern) :
    pattern <:+: closeLine current ↔ pattern <:+: current.reverse := by
  unfold closeLine
  split
  next rest =>
    rw [List.reverse_cons]
    exact (h.infix_append_blank (by decide)).symm
  next => rfl

/-- A solid pattern occurs in one of the lines exactly if it occurs in the characters. -/
lemma exists_infix_lineCharsFrom (h : IsSolid pattern) :
    (∃ line ∈ lineCharsFrom current chars, pattern <:+: line) ↔
      pattern <:+: current.reverse ++ chars := by
  induction chars generalizing current with
  | nil =>
    rw [lineCharsFrom, List.append_nil]
    split
    next hempty =>
      rw [List.isEmpty_iff.mp hempty, List.reverse_nil, List.infix_nil]
      exact iff_of_false (fun ⟨_, hmem, _⟩ => List.not_mem_nil hmem) h.ne_nil
    next => simp only [List.mem_singleton, exists_eq_left]
  | cons c rest ih =>
    rw [lineCharsFrom]
    split
    next hc =>
      have hwhite : isWhiteSpace c = true := by rw [hc]; decide
      rw [List.exists_mem_cons_iff, ih, h.infix_closeLine, h.infix_append_cons hwhite]
      rfl
    next => rw [ih, List.reverse_cons, List.append_assoc, List.singleton_append]

/-- A solid pattern occurs in one of the lines of a text exactly if it occurs in the text. -/
theorem exists_infix_lineChars (h : IsSolid pattern) :
    (∃ line ∈ lineChars chars, pattern <:+: line) ↔ pattern <:+: chars :=
  h.exists_infix_lineCharsFrom

/-- The white space that ends a text does not matter. -/
lemma infix_trimEndChars (h : IsSolid pattern) :
    pattern <:+: trimEndChars chars ↔ pattern <:+: chars := by
  have hsplit : trimEndChars chars ++ (chars.reverse.takeWhile isWhiteSpace).reverse = chars := by
    rw [trimEndChars, ← List.reverse_append, List.takeWhile_append_dropWhile, List.reverse_reverse]
  have hblank : (chars.reverse.takeWhile isWhiteSpace).reverse.all isWhiteSpace = true := by
    rw [List.all_reverse]
    exact List.all_takeWhile
  rw [← h.infix_append_blank hblank, hsplit]

/-- A solid pattern occurs in one of the lines of a text, less the white space that ends it, exactly
if it occurs in the text. -/
theorem exists_contains_lines {pattern text : String} (h : IsSolid pattern.toList) :
    (∃ line ∈ lines (trimEnd text), contains pattern line = true) ↔
      contains pattern text = true := by
  rw [contains_iff, ← h.infix_trimEndChars, ← h.exists_infix_lineChars, lines, trimEnd,
    String.toList_ofList]
  simp only [List.mem_map, exists_exists_and_eq_and, contains_iff, String.toList_ofList]

/-- A solid pattern occurs in texts with white space between them exactly if it occurs in one of
them. -/
theorem infix_intercalate (h : IsSolid pattern) (hblank : blank.all isWhiteSpace = true)
    (hne : blank ≠ []) {texts : List (List Char)} :
    pattern <:+: blank.intercalate texts ↔ ∃ text ∈ texts, pattern <:+: text := by
  obtain ⟨c, white, rfl⟩ := List.exists_cons_of_ne_nil hne
  obtain ⟨hc, hwhite⟩ := Bool.and_eq_true_iff.mp hblank
  induction texts with
  | nil =>
    rw [List.intercalate_nil, List.infix_nil]
    exact iff_of_false h.ne_nil fun ⟨_, hmem, _⟩ => List.not_mem_nil hmem
  | cons text rest ih =>
    cases rest with
    | nil => simp only [List.intercalate_singleton, List.mem_singleton, exists_eq_left]
    | cons next rest =>
      rw [List.intercalate_cons_cons, List.append_assoc, List.cons_append, h.infix_append_cons hc,
        h.infix_blank_append hwhite, ih, List.exists_mem_cons_iff _ text]

/-! ### Lines in a frame -/

/-- If a solid pattern occurs in none of some lines, it occurs after them. -/
lemma exists_of_lines_append (h : IsSolid pattern) {lines : List (List Char)} {rest : List Char}
    (hlines : ∀ line ∈ lines, ¬pattern <:+: line)
    (he : lines.flatMap (· ++ ['\n']) ++ rest = before ++ pattern ++ after) :
    ∃ more, rest = more ++ pattern ++ after := by
  induction lines generalizing before with
  | nil => exact ⟨before, he⟩
  | cons line lines ih =>
    obtain ⟨hline, hlines⟩ := List.forall_mem_cons.mp hlines
    rw [List.flatMap_cons, List.append_assoc, List.append_assoc, List.singleton_append] at he
    rcases (h.append_cons_eq_iff (by decide)).mp he with ⟨more, hfound, -⟩ | ⟨more, hfound, -⟩
    · exact absurd ⟨before, more, hfound.symm⟩ hline
    · exact ih hlines hfound

/-- After white space a solid pattern occurs where it stands and nowhere else. -/
lemma eq_of_blank_append (h : IsSolid pattern) (hblank : blank.all isWhiteSpace = true)
    (he : blank ++ pattern = before ++ pattern ++ after) : before = blank ∧ after = [] := by
  induction blank generalizing before with
  | nil =>
    have hlength := congrArg List.length he
    simp only [List.length_append, List.length_nil] at hlength
    exact ⟨List.length_eq_zero_iff.mp (by omega), List.length_eq_zero_iff.mp (by omega)⟩
  | cons c rest ih =>
    obtain ⟨hc, hrest⟩ := Bool.and_eq_true_iff.mp hblank
    have hcons : [] ++ c :: (rest ++ pattern) = before ++ pattern ++ after := he
    rcases (h.append_cons_eq_iff hc).mp hcons with
      ⟨more, hnil, -⟩ | ⟨more, hfound, hbefore⟩
    · exact absurd hnil h.nil_ne
    · obtain ⟨rfl, hafter⟩ := ih hrest hfound
      exact ⟨hbefore, hafter⟩

/-- In lines that end with a solid pattern after white space, the pattern occurs in the first one and
at the end only, exactly if it does not occur in the lines between them.

**Proof sketch.** An occurrence is in the first line, in one of those between, or in the last one,
where only white space is before it. One in a line between has the last line after it, and the first
one before it. -/
theorem framed_iff (h : IsSolid pattern) (hblank : blank.all isWhiteSpace = true)
    {opening : List Char} {lines : List (List Char)} :
    (∀ before after, (opening :: lines ++ [blank ++ pattern]).flatMap (· ++ ['\n']) =
        before ++ pattern ++ after →
      after = ['\n'] ∨ ∃ rest, opening = before ++ pattern ++ rest) ↔
      ∀ line ∈ lines, ¬pattern <:+: line := by
  have hframe : (opening :: lines ++ [blank ++ pattern]).flatMap (· ++ ['\n']) =
      opening ++ '\n' :: (lines.flatMap (· ++ ['\n']) ++ (blank ++ pattern ++ '\n' :: [])) := by
    simp
  rw [hframe]
  constructor
  · intro hframed line hline hoccurs
    obtain ⟨front, back, rfl⟩ := List.append_of_mem hline
    obtain ⟨before, after, rfl⟩ := hoccurs
    have hwhere := hframed (opening ++ '\n' :: (front.flatMap (· ++ ['\n']) ++ before))
      (after ++ '\n' :: (back.flatMap (· ++ ['\n']) ++ (blank ++ pattern ++ ['\n']))) (by simp)
    rcases hwhere with hend | ⟨rest, hfirst⟩
    · have hlength := congrArg List.length hend
      simp only [List.length_append, List.length_cons, List.length_nil] at hlength
      omega
    · have hlength := congrArg List.length hfirst
      simp only [List.length_append, List.length_cons] at hlength
      omega
  · intro hlines before after he
    rcases (h.append_cons_eq_iff (by decide)).mp he with ⟨rest, hfirst, -⟩ | ⟨rest, hrest, -⟩
    · exact Or.inr ⟨rest, hfirst⟩
    · obtain ⟨more, hlast⟩ := h.exists_of_lines_append hlines hrest
      rcases (h.append_cons_eq_iff (by decide)).mp hlast with
        ⟨rest, hfound, hafter⟩ | ⟨rest, hnil, -⟩
      · rw [(h.eq_of_blank_append hblank hfound).2] at hafter
        exact Or.inl hafter
      · exact absurd hnil h.nil_ne

end IsSolid

end ClientGen.Text
