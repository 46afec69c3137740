import ClientGen.Proofs.Endpoints
import ClientGen.Proofs.Separators
import ClientGen.Text.Words

/-!
# What words are made of

A name is split into words, which hold its letters and digits in lower case and nothing else. So no
word contains the mark that joins words, and a name in `snake_case` tells what the words are. Nor
does a word contain a brace: a case mapping maps no character to one, but the brace itself.

## Main definitions

* `ClientGen.Unicode.Misses` — the characters to which a case mapping maps no other one.
* `ClientGen.Text.lowerLetters` — the letters and digits of a name in lower case.

## Main results

* `ClientGen.Text.flatten_words` — words hold the letters and digits of a name.
* `ClientGen.Text.snakeCase_eq_iff` — names agree in `snake_case` just if they have the same words.
* `ClientGen.Text.filter_snakeCaseChars` — a name in `snake_case` holds letters, digits and marks.
* `ClientGen.Unicode.not_mem_toLowerChars`, `ClientGen.Unicode.not_mem_toUpperChars` — the case
  mappings of characters.
* `ClientGen.Text.isBraceFree_snakeCase`, `ClientGen.Text.isBraceFree_lowerCamelCase`,
  `ClientGen.Text.isBraceFree_of_isIdentifier` — names in the conventions of a language.
-/

set_option autoImplicit false

namespace ClientGen

/-- A character other than a brace. -/
def IsNoBrace (c : Char) : Prop := c ≠ '\x7b' ∧ c ≠ '\x7d'

/-- A text is without braces if no character is one. -/
lemma isBraceFree_iff {text : List Char} : IsBraceFree text ↔ ∀ c ∈ text, IsNoBrace c := by
  constructor
  · rintro ⟨hopen, hclose⟩ c hc
    exact ⟨fun he => hopen (he ▸ hc), fun he => hclose (he ▸ hc)⟩
  · intro h
    exact ⟨fun hc => (h _ hc).1 rfl, fun hc => (h _ hc).2 rfl⟩

/-! ## Case mappings -/

namespace Unicode

/-- The code points of the capital letters of ASCII. -/
lemma isAsciiUpper_iff {c : Char} : isAsciiUpper c = true ↔ 65 ≤ c.toNat ∧ c.toNat ≤ 90 := by
  simp [isAsciiUpper, Char.le_def, UInt32.le_iff_toNat_le]

/-- The code points of the other letters of ASCII. -/
lemma isAsciiLower_iff {c : Char} : isAsciiLower c = true ↔ 97 ≤ c.toNat ∧ c.toNat ≤ 122 := by
  simp [isAsciiLower, Char.le_def, UInt32.le_iff_toNat_le]

/-- The code points of the digits of ASCII. -/
lemma isAsciiDigit_iff {c : Char} : isAsciiDigit c = true ↔ 48 ≤ c.toNat ∧ c.toNat ≤ 57 := by
  simp [isAsciiDigit, Char.le_def, UInt32.le_iff_toNat_le]

/-- The character of a code point has that code point. -/
lemma toNat_ofNat_of_isValidChar {n : Nat} (hn : n.isValidChar) : (Char.ofNat n).toNat = n := by
  rw [Char.ofNat, dif_pos hn]
  rfl

/-- Only one code point is that of a given character. -/
lemma ofNat_ne {d : Char} (hd : d.toNat ≠ 0) {n : Nat} (hne : n ≠ d.toNat) : Char.ofNat n ≠ d := by
  by_cases hn : n.isValidChar
  · rintro rfl
    exact hne (toNat_ofNat_of_isValidChar hn).symm
  · rw [Char.ofNat, dif_neg hn]
    rintro rfl
    exact hd rfl

/-- The entries and the runs of a case mapping map no character to the given one. -/
def Misses (d : Char) (sequences : List (Nat × List Nat)) (runs : List CaseRun) : Prop :=
  d.toNat ≠ 0 ∧ (∀ entry ∈ sequences, d.toNat ∉ entry.2) ∧
    ∀ run ∈ runs, d.toNat < run.image ∨ run.image + (run.last - run.first) < d.toNat

instance (d : Char) (sequences : List (Nat × List Nat)) (runs : List CaseRun) :
    Decidable (Misses d sequences runs) :=
  inferInstanceAs (Decidable (_ ∧ _ ∧ _))

/-- The mappings of the two cases miss the character. -/
def IsCaseless (d : Char) : Prop :=
  Misses d CaseTable.lowerSequences CaseTable.lowerRuns ∧
    Misses d CaseTable.upperSequences CaseTable.upperRuns

instance (d : Char) : Decidable (IsCaseless d) := inferInstanceAs (Decidable (_ ∧ _))

section Misses

variable {c d : Char} {sequences : List (Nat × List Nat)} {runs : List CaseRun}

/-- The runs of a mapping that misses a character map no other one to it. -/
lemma Misses.mapRuns_ne (h : Misses d sequences runs) {n : Nat} (hn : n ≠ d.toNat) :
    mapRuns runs n ≠ d.toNat := by
  unfold mapRuns
  cases hfound : runs.findSome? (·.image? n) with
  | none => exact hn
  | some image =>
    obtain ⟨run, hrun, himage⟩ := List.exists_of_findSome?_eq_some hfound
    unfold CaseRun.image? at himage
    split_ifs at himage with hin
    obtain rfl := Option.some.inj himage
    have := h.2.2 run hrun
    simp only [Option.getD_some]
    omega

/-- A mapping by entries and runs that misses a character maps no other one to it. -/
lemma Misses.not_mem (h : Misses d sequences runs) {n : Nat} (hn : n ≠ d.toNat) :
    d ∉ match sequences.lookup n with
      | some image => image.map Char.ofNat
      | none => [Char.ofNat (mapRuns runs n)] := by
  split
  next image hfound =>
    intro hmem
    obtain ⟨before, after, rfl, -⟩ := List.lookup_eq_some_iff.mp hfound
    obtain ⟨m, hm, hmd⟩ := List.mem_map.mp hmem
    have hne : m ≠ d.toNat := by
      rintro rfl
      exact h.2.1 (n, image) (List.mem_append_right _ List.mem_cons_self) hm
    exact ofNat_ne h.1 hne hmd
  next =>
    intro hmem
    exact ofNat_ne h.1 (h.mapRuns_ne hn) (List.mem_singleton.mp hmem).symm

/-- A character that is missed is in the lower case of no other one.

**Proof sketch.** Outside ASCII the mapping is that of the tables. Within ASCII it is the one of
their first run, which misses the character too. -/
theorem not_mem_toLowerChars (h : IsCaseless d) (hne : c ≠ d) : d ∉ toLowerChars c := by
  unfold toLowerChars
  split_ifs with hascii hupper
  · have hfirst : d.toNat < 97 ∨ 97 + (90 - 65) < d.toNat :=
      h.1.2.2 ⟨0x41, 0x5A, 1, 0x61⟩ List.mem_cons_self
    have hrange := isAsciiUpper_iff.mp hupper
    intro hmem
    exact ofNat_ne h.1.1 (by omega) (List.mem_singleton.mp hmem).symm
  · intro hmem
    exact hne (List.mem_singleton.mp hmem).symm
  · exact h.1.not_mem fun he => hne (Char.toNat_inj.mp he)

/-- A character that is missed is in the upper case of no other one. -/
theorem not_mem_toUpperChars (h : IsCaseless d) (hne : c ≠ d) : d ∉ toUpperChars c := by
  unfold toUpperChars
  split_ifs with hascii hlower
  · have hfirst : d.toNat < 65 ∨ 65 + (122 - 97) < d.toNat :=
      h.2.2.2 ⟨0x61, 0x7A, 1, 0x41⟩ List.mem_cons_self
    have hrange := isAsciiLower_iff.mp hlower
    intro hmem
    exact ofNat_ne h.2.1 (by omega) (List.mem_singleton.mp hmem).symm
  · intro hmem
    exact hne (List.mem_singleton.mp hmem).symm
  · exact h.2.not_mem fun he => hne (Char.toNat_inj.mp he)

set_option maxRecDepth 10000 in
/-- Neither brace is the image of another character. -/
lemma isCaseless_braces : IsCaseless '\x7b' ∧ IsCaseless '\x7d' := by decide

set_option maxRecDepth 10000 in
/-- The underscore is the image of no other character. -/
lemma isCaseless_underscore : IsCaseless '_' := by decide

/-- The upper case of a character other than a brace has none. -/
theorem isBraceFree_toUpperChars (hc : IsNoBrace c) : IsBraceFree (toUpperChars c) :=
  ⟨not_mem_toUpperChars isCaseless_braces.1 hc.1, not_mem_toUpperChars isCaseless_braces.2 hc.2⟩

/-- A letter or a digit is no brace. -/
lemma isNoBrace_of_isAlphanumeric (hc : isAlphanumeric c = true) : IsNoBrace c := by
  constructor <;> rintro rfl <;> exact absurd hc (by decide)

end Misses

end Unicode

/-! ## Words -/

namespace Text

open ClientGen.Unicode

variable {name word : List Char}

/-- The letters and digits of a name, in lower case. -/
def lowerLetters (name : List Char) : List Char :=
  (name.filter isAlphanumeric).flatMap toLowerChars

/-- A word that has begun is kept. -/
lemma flatten_pendingWord (current : List Char) : (pendingWord current).flatten = current := by
  unfold pendingWord
  split_ifs with hempty
  · exact (List.isEmpty_iff.mp hempty).symm
  · exact List.flatten_singleton

/-- The words of the rest of a name hold the word that has begun and the letters and digits of the
rest. -/
lemma flatten_wordsFrom (rest : List Char) : ∀ (previous : Char) (current : List Char),
    (wordsFrom previous current rest).flatten = current ++ lowerLetters rest := by
  induction rest with
  | nil =>
    intro previous current
    rw [wordsFrom, flatten_pendingWord]
    exact (List.append_nil current).symm
  | cons c rest ih =>
    intro previous current
    rw [wordsFrom]
    by_cases hletter : isAlphanumeric c = true
    · have hrest : lowerLetters (c :: rest) = toLowerChars c ++ lowerLetters rest := by
        rw [lowerLetters, List.filter_cons_of_pos hletter, List.flatMap_cons, lowerLetters]
      rw [hletter, Bool.not_true, if_neg Bool.false_ne_true, hrest]
      split_ifs with hbegins
      · rw [List.flatten_cons, ih]
      · rw [ih, List.append_assoc]
    · have hrest : lowerLetters (c :: rest) = lowerLetters rest := by
        rw [lowerLetters, List.filter_cons_of_neg hletter, lowerLetters]
      rw [if_pos (by simpa using hletter), List.flatten_append, flatten_pendingWord, ih, hrest,
        List.nil_append]

/-- The words of a name hold its letters and digits. -/
theorem flatten_words (name : List Char) : (words name).flatten = lowerLetters name :=
  flatten_wordsFrom name ' ' []

/-- The words of the rest of a name are not empty.

**Proof sketch.** Induction on the rest. A word ends only if something of it has been read. -/
lemma nil_not_mem_wordsFrom (rest : List Char) : ∀ (previous : Char) (current : List Char),
    [] ∉ wordsFrom previous current rest := by
  have hpending : ∀ current : List Char, [] ∉ pendingWord current := by
    intro current hmem
    unfold pendingWord at hmem
    split_ifs at hmem with hempty
    · exact List.not_mem_nil hmem
    · obtain rfl := List.mem_singleton.mp hmem
      exact hempty rfl
  induction rest with
  | nil => exact fun _ current => hpending current
  | cons c rest ih =>
    intro previous current
    rw [wordsFrom]
    split_ifs with hletter hbegins
    · rw [List.mem_append, not_or]
      exact ⟨hpending current, ih c []⟩
    · rw [List.mem_cons, not_or]
      refine ⟨?_, ih c _⟩
      rintro rfl
      simp at hbegins
    · exact ih c _

/-- Words are not empty. -/
lemma ne_nil_of_mem_words (h : word ∈ words name) : word ≠ [] := by
  rintro rfl
  exact nil_not_mem_wordsFrom name ' ' [] h

/-- A character of a word is in the lower case of a letter or a digit of the name. -/
lemma exists_of_mem_words {c : Char} (h : word ∈ words name) (hc : c ∈ word) :
    ∃ d ∈ name, isAlphanumeric d = true ∧ c ∈ toLowerChars d := by
  have hall : c ∈ lowerLetters name := by
    rw [← flatten_words]
    exact List.mem_flatten_of_mem h hc
  obtain ⟨d, hd, hlower⟩ := List.mem_flatMap.mp hall
  obtain ⟨hin, hletter⟩ := List.mem_filter.mp hd
  exact ⟨d, hin, hletter, hlower⟩

/-- What is no letter or digit and not the lower case of one is in no word. -/
lemma not_mem_of_mem_words {d : Char} (hd : IsCaseless d) (hletter : isAlphanumeric d = false)
    (h : word ∈ words name) : d ∉ word := by
  intro hmem
  obtain ⟨c, -, hc, hlower⟩ := exists_of_mem_words h hmem
  refine not_mem_toLowerChars hd ?_ hlower
  rintro rfl
  exact absurd hc (by rw [hletter]; exact Bool.false_ne_true)

/-- Words contain no underscore. -/
lemma underscore_not_mem_of_mem_words (h : word ∈ words name) : '_' ∉ word :=
  not_mem_of_mem_words isCaseless_underscore (by decide) h

/-- Words have no braces. -/
lemma isBraceFree_of_mem_words (h : word ∈ words name) : IsBraceFree word :=
  ⟨not_mem_of_mem_words isCaseless_braces.1 (by decide) h,
    not_mem_of_mem_words isCaseless_braces.2 (by decide) h⟩

/-! ## Words joined by underscores -/

/-- Between the underscores of a name in `snake_case` are the words of the name. -/
lemma splitChars_snakeCaseChars (h : words name ≠ []) :
    splitChars '_' (snakeCaseChars name) = words name :=
  splitChars_intercalate h fun _ => underscore_not_mem_of_mem_words

/-- A name in `snake_case` begins as the first word does. -/
lemma head?_snakeCaseChars (name : List Char) :
    (snakeCaseChars name).head? = (lowerLetters name).head? := by
  rw [← flatten_words, snakeCaseChars]
  cases hwords : words name with
  | nil => rfl
  | cons first rest =>
    obtain ⟨c, cs, rfl⟩ := List.exists_cons_of_ne_nil
      (ne_nil_of_mem_words (hwords ▸ List.mem_cons_self : first ∈ words name))
    cases rest with
    | nil => rw [List.intercalate_singleton]; rfl
    | cons next rest => rw [List.intercalate_cons_cons]; rfl

/-- Only a name without words is empty in `snake_case`. -/
lemma snakeCaseChars_eq_nil_iff : snakeCaseChars name = [] ↔ words name = [] := by
  rw [← List.head?_eq_none_iff, head?_snakeCaseChars, List.head?_eq_none_iff, ← flatten_words,
    List.flatten_eq_nil_iff]
  constructor
  · intro hall
    rw [List.eq_nil_iff_forall_not_mem]
    exact fun word hword => ne_nil_of_mem_words hword (hall word hword)
  · intro hnil word hword
    rw [hnil] at hword
    exact absurd hword List.not_mem_nil

/-- Names agree in `snake_case` just if they have the same words. -/
theorem snakeCase_eq_iff {first second : String} :
    snakeCase first = snakeCase second ↔ words first.toList = words second.toList := by
  rw [snakeCase, snakeCase, String.ofList_inj]
  constructor
  · intro h
    by_cases hnil : words first.toList = []
    · rw [hnil, eq_comm, ← snakeCaseChars_eq_nil_iff, ← h]
      exact snakeCaseChars_eq_nil_iff.mpr hnil
    · have hnil' : words second.toList ≠ [] := by
        rwa [Ne, ← snakeCaseChars_eq_nil_iff, ← h, snakeCaseChars_eq_nil_iff]
      rw [← splitChars_snakeCaseChars hnil, h, splitChars_snakeCaseChars hnil']
  · intro h
    rw [snakeCaseChars, snakeCaseChars, h]

/-- On both sides of an underscore of a name in `snake_case` no piece is empty. -/
lemma nil_not_mem_splitChars_of_snakeCaseChars {front back : List Char}
    (h : snakeCaseChars name = front ++ '_' :: back) :
    [] ∉ splitChars '_' front ∧ [] ∉ splitChars '_' back := by
  have hne : words name ≠ [] := by
    rw [Ne, ← snakeCaseChars_eq_nil_iff, h]
    exact List.append_ne_nil_of_right_ne_nil _ (List.cons_ne_nil _ _)
  rw [← not_or, ← List.mem_append, ← splitChars_append, ← h, splitChars_snakeCaseChars hne]
  exact fun hnil => ne_nil_of_mem_words hnil rfl

/-- A name in `snake_case` does not end with an underscore. -/
lemma snakeCaseChars_ne_append (name front : List Char) : snakeCaseChars name ≠ front ++ ['_'] :=
  -- What is after the last underscore would be an empty piece.
  fun h => (nil_not_mem_splitChars_of_snakeCaseChars h).2 List.mem_cons_self

/-- A piece without marks is kept. -/
lemma filter_ne_of_not_mem {separator : Char} {piece : List Char} (h : separator ∉ piece) :
    piece.filter (· ≠ separator) = piece := by
  rw [List.filter_eq_self]
  intro c hc
  exact decide_eq_true fun he : c = separator => h (he ▸ hc)

/-- Without the marks between them, joined pieces are what the pieces hold. -/
lemma filter_intercalate {separator : Char} : ∀ {pieces : List (List Char)},
    (∀ piece ∈ pieces, separator ∉ piece) →
      (List.intercalate [separator] pieces).filter (· ≠ separator) = pieces.flatten
  | [], _ => rfl
  | [piece], h => by
    rw [List.intercalate_singleton, List.flatten_singleton,
      filter_ne_of_not_mem (h piece List.mem_cons_self)]
  | piece :: next :: rest, h => by
    obtain ⟨hpiece, hrest⟩ := List.forall_mem_cons.mp h
    rw [List.intercalate_cons_cons, List.filter_append, List.filter_append,
      filter_ne_of_not_mem hpiece, filter_intercalate hrest, List.filter_cons_of_neg (by simp),
      List.filter_nil, List.append_nil]
    rfl

/-- A name in `snake_case` holds the letters and digits of the name, and underscores. -/
theorem filter_snakeCaseChars (name : List Char) :
    (snakeCaseChars name).filter (· ≠ '_') = lowerLetters name := by
  rw [snakeCaseChars, filter_intercalate fun _ => underscore_not_mem_of_mem_words, flatten_words]

/-! ## Names without braces -/

/-- A capitalized word has no braces. -/
lemma isBraceFree_capitalize {word : List Char} (h : IsBraceFree word) :
    IsBraceFree (capitalize word) := by
  cases word with
  | nil => exact IsBraceFree.nil
  | cons first rest =>
    obtain ⟨hfirst, hrest⟩ := IsBraceFree.cons_iff.mp h
    exact IsBraceFree.append_iff.mpr ⟨isBraceFree_toUpperChars hfirst, hrest⟩

/-- Joined pieces have no braces if neither they nor what is between them do. -/
lemma isBraceFree_intercalate {separator : List Char} (hseparator : IsBraceFree separator) :
    ∀ {pieces : List (List Char)}, (∀ piece ∈ pieces, IsBraceFree piece) →
      IsBraceFree (List.intercalate separator pieces)
  | [], _ => IsBraceFree.nil
  | [piece], h => by simpa [List.intercalate] using h piece List.mem_cons_self
  | piece :: next :: rest, h => by
    have hrest : IsBraceFree (List.intercalate separator (next :: rest)) :=
      isBraceFree_intercalate hseparator fun other hother => h other (List.mem_cons_of_mem _ hother)
    have hjoin : List.intercalate separator (piece :: next :: rest) =
        piece ++ (separator ++ List.intercalate separator (next :: rest)) := by
      simp [List.intercalate]
    rw [hjoin, IsBraceFree.append_iff, IsBraceFree.append_iff]
    exact ⟨h piece List.mem_cons_self, hseparator, hrest⟩

/-- A name in `snake_case` has no braces. -/
theorem isBraceFree_snakeCase (name : String) : IsBraceFree (snakeCase name).toList := by
  rw [snakeCase, String.toList_ofList, snakeCaseChars]
  exact isBraceFree_intercalate (by constructor <;> decide) fun _ => isBraceFree_of_mem_words

/-- A name in `lowerCamelCase` has no braces. -/
theorem isBraceFree_lowerCamelCase (name : String) :
    IsBraceFree (lowerCamelCase name).toList := by
  rw [lowerCamelCase, String.toList_ofList, lowerCamelCaseChars]
  cases hwords : words name.toList with
  | nil => exact IsBraceFree.nil
  | cons first rest =>
    have hfree : ∀ word ∈ first :: rest, IsBraceFree word :=
      fun word hword => isBraceFree_of_mem_words (hwords ▸ hword)
    refine IsBraceFree.append_iff.mpr ⟨hfree first List.mem_cons_self, ?_⟩
    rw [isBraceFree_iff]
    intro c hc
    obtain ⟨word, hword, hmem⟩ := List.mem_flatMap.mp hc
    exact isBraceFree_iff.mp
      (isBraceFree_capitalize (hfree word (List.mem_cons_of_mem _ hword))) c hmem

/-- An identifier begins with a letter or a symbol, and holds letters, digits and symbols. -/
lemma isIdentifier_iff {name : String} : isIdentifier name = true ↔
    (∃ c, name.toList.head? = some c ∧ (isAlphabetic c = true ∨ isIdentifierSymbol c = true)) ∧
      ∀ c ∈ name.toList, isAlphanumeric c = true ∨ isIdentifierSymbol c = true := by
  unfold isIdentifier
  cases name.toList with
  | nil => simp
  | cons first rest =>
    have hfirst : isAlphabetic first = true ∨ isIdentifierSymbol first = true →
        isAlphanumeric first = true ∨ isIdentifierSymbol first = true :=
      Or.imp_left fun h => by rw [isAlphanumeric, h, Bool.true_or]
    simp only [Bool.and_eq_true, Bool.or_eq_true, List.all_eq_true, List.head?_cons,
      Option.some_inj, exists_eq_left', List.forall_mem_cons]
    exact and_congr_right fun h => (and_iff_right (hfirst h)).symm

/-- An identifier has no braces. -/
theorem isBraceFree_of_isIdentifier {name : String} (h : isIdentifier name = true) :
    IsBraceFree name.toList := by
  rw [isBraceFree_iff]
  intro c hc
  rcases (isIdentifier_iff.mp h).2 c hc with hletter | hsymbol
  · exact isNoBrace_of_isAlphanumeric hletter
  · constructor <;> rintro rfl <;> exact absurd hsymbol (by decide)

end Text

end ClientGen
