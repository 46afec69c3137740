import ClientGen.Proofs.Words

/-!
# Names in snake case

A name of ASCII characters is normalized by writing it in `snake_case`: what is written has the same
words, so writing it in any convention gives what writing the name does. The splitter meets no
boundary in a word that it has made, for there are no capitals in it, and the underscores between
the words are the only separators.

## Main definitions

* `ClientGen.Text.IsSnakeLetter` — the letters and digits of a name in `snake_case`.
* `ClientGen.Text.IsSnakeCase` — texts of such letters and digits, with single underscores between
  them.

## Main results

* `ClientGen.Text.words_append_underscore` — the words on both sides of an underscore.
* `ClientGen.Text.words_snakeCaseChars` — a name in `snake_case` has the words of the name.
* `ClientGen.Text.isSnakeCase_snakeCaseChars`, `ClientGen.Text.snakeCaseChars_of_isSnakeCase` — a
  name in `snake_case` is such a text, and such a text stays as it is.
* `ClientGen.Text.snakeCase_normalizes` — no convention tells a name in `snake_case` from the name.
-/

set_option autoImplicit false

namespace ClientGen.Text

open ClientGen.Unicode

variable {c : Char} {name word before after : List Char}

/-! ## Letters and digits of ASCII -/

/-- A lower-case letter or a digit of ASCII. -/
def IsSnakeLetter (c : Char) : Prop := isAsciiLower c = true ∨ isAsciiDigit c = true

instance (c : Char) : Decidable (IsSnakeLetter c) := inferInstanceAs (Decidable (_ ∨ _))

/-- The lower case of a letter or digit of ASCII. -/
lemma isSnakeLetter_of_mem_toLowerChars {d : Char} (hc : isAscii c = true)
    (hletter : isAlphanumeric c = true) (hd : d ∈ toLowerChars c) : IsSnakeLetter d := by
  have hclass : isAsciiUpper c = true ∨ IsSnakeLetter c := by
    simpa [isAlphanumeric, isAlphabetic, isNumeric, hc, IsSnakeLetter, or_assoc] using hletter
  rw [toLowerChars, if_pos hc, List.mem_singleton] at hd
  subst hd
  split_ifs with hupper
  · have hrange := isAsciiUpper_iff.mp hupper
    have hvalid : (c.toNat + 32).isValidChar := Or.inl (by omega)
    left
    rw [isAsciiLower_iff, toNat_ofNat_of_isValidChar hvalid]
    omega
  · exact hclass.resolve_left hupper

/-- The letters and digits of a name in `snake_case` belong to a word, begin none, and are in lower
case. -/
lemma IsSnakeLetter.continues_word (h : IsSnakeLetter c) :
    isAlphanumeric c = true ∧ isUppercase c = false ∧ toLowerChars c = [c] := by
  have hrange : 97 ≤ c.toNat ∧ c.toNat ≤ 122 ∨ 48 ≤ c.toNat ∧ c.toNat ≤ 57 :=
    h.imp isAsciiLower_iff.mp isAsciiDigit_iff.mp
  have hascii : isAscii c = true := decide_eq_true (by omega)
  have hupper : isAsciiUpper c = false := by
    rw [← Bool.not_eq_true, isAsciiUpper_iff]
    omega
  refine ⟨?_, ?_, ?_⟩
  · rw [isAlphanumeric, isAlphabetic, isNumeric, if_pos hascii, if_pos hascii]
    rcases h with h | h <;> simp [h]
  · rw [isUppercase, if_pos hascii, hupper]
  · rw [toLowerChars, if_pos hascii, hupper, if_neg Bool.false_ne_true]

/-- The words of a name of ASCII are of lower-case letters and digits. -/
lemma isSnakeLetter_of_mem_words (hname : ∀ c ∈ name, isAscii c = true) (hword : word ∈ words name)
    (hc : c ∈ word) : IsSnakeLetter c := by
  obtain ⟨d, hd, hletter, hlower⟩ := exists_of_mem_words hword hc
  exact isSnakeLetter_of_mem_toLowerChars (hname d hd) hletter hlower

/-! ## Words between underscores -/

/-- Where no word has begun, it makes no difference what has been read. -/
lemma wordsFrom_nil (previous : Char) (rest : List Char) :
    wordsFrom previous [] rest = words rest := by
  cases rest with
  | nil => rfl
  | cons c rest => simp [words, wordsFrom]

/-- An underscore ends the word that has begun, and after it words are read as from the start.

**Proof sketch.** Induction on what is before the underscore. Only the last capital before it is
looked at with the underscore next to it, and like the end of the name that is no lower-case
letter. -/
lemma wordsFrom_append_underscore (after before : List Char) : ∀ (previous : Char)
    (current : List Char), wordsFrom previous current (before ++ '_' :: after) =
      wordsFrom previous current before ++ words after := by
  have hletter : isAlphanumeric '_' = false := by decide
  have hlower : isLowercase '_' = false := by decide
  induction before with
  | nil =>
    intro previous current
    simp [wordsFrom, hletter, wordsFrom_nil]
  | cons c rest ih =>
    intro previous current
    have hbegins : beginsWord previous (rest ++ '_' :: after) = beginsWord previous rest := by
      cases rest with
      | nil => simp [beginsWord, hlower]
      | cons next rest => rfl
    rw [List.cons_append, wordsFrom, wordsFrom, hbegins, ih, ih, ih]
    split_ifs
    · rw [List.append_assoc]
    · rfl
    · rfl

/-- The words on both sides of an underscore. -/
theorem words_append_underscore (before after : List Char) :
    words (before ++ '_' :: after) = words before ++ words after :=
  wordsFrom_append_underscore after before ' ' []

/-- The words of what has been joined by underscores. -/
theorem words_intercalate : ∀ pieces : List (List Char),
    words (List.intercalate ['_'] pieces) = pieces.flatMap words
  | [] => rfl
  | [piece] => by simp
  | piece :: next :: rest => by
    rw [List.intercalate_cons_cons, List.append_assoc, List.singleton_append,
      words_append_underscore, words_intercalate (next :: rest), ← List.flatMap_cons]

/-- Lower-case letters and digits go on with the word that has begun. -/
lemma wordsFrom_of_isSnakeLetter (hword : ∀ c ∈ word, IsSnakeLetter c) : ∀ (previous : Char)
    (current : List Char), wordsFrom previous current word = pendingWord (current ++ word) := by
  induction word with
  | nil =>
    intro previous current
    rw [wordsFrom, List.append_nil]
  | cons c rest ih =>
    intro previous current
    obtain ⟨hc, hrest⟩ := List.forall_mem_cons.mp hword
    obtain ⟨hletter, hupper, hlower⟩ := hc.continues_word
    simp [wordsFrom, hletter, hupper, hlower, ih hrest]

/-- A word of lower-case letters and digits is its only word. -/
lemma words_of_isSnakeLetter (hne : word ≠ []) (hword : ∀ c ∈ word, IsSnakeLetter c) :
    words word = [word] := by
  rw [words, wordsFrom_of_isSnakeLetter hword, List.nil_append, pendingWord,
    if_neg (mt List.isEmpty_iff.mp hne)]

/-- A name of ASCII has in `snake_case` the words that it has.

**Proof sketch.** The words of what is joined by underscores are those of the pieces. The pieces are
words of the name, of lower-case letters and digits, so each of them is its only word. -/
theorem words_snakeCaseChars (hname : ∀ c ∈ name, isAscii c = true) :
    words (snakeCaseChars name) = words name := by
  have hwords : ∀ word ∈ words name, words word = [word] := by
    intro word hword
    exact words_of_isSnakeLetter (ne_nil_of_mem_words hword) fun c =>
      isSnakeLetter_of_mem_words hname hword
  calc words (snakeCaseChars name)
      = (words name).flatMap words := words_intercalate _
    _ = (words name).flatMap fun word => [word] := List.flatMap_congr hwords
    _ = words name := List.flatMap_singleton' _

/-! ## Texts in snake case -/

/-- A text of lower-case letters and digits, and of underscores that have a letter or a digit on
either side. -/
structure IsSnakeCase (text : List Char) : Prop where
  /-- It has no other characters. -/
  characters : ∀ c ∈ text, IsSnakeLetter c ∨ c = '_'
  /-- An underscore follows a letter or a digit. -/
  before_underscore : ∀ before after : List Char, text = before ++ '_' :: after →
    ∃ c, before.getLast? = some c ∧ IsSnakeLetter c
  /-- A letter or a digit follows an underscore. -/
  after_underscore : ∀ before after : List Char, text = before ++ '_' :: after →
    ∃ c, after.head? = some c ∧ IsSnakeLetter c

/-- A character of a name in `snake_case` is one of a word or an underscore. -/
lemma isSnakeLetter_or_of_mem_snakeCaseChars (hname : ∀ c ∈ name, isAscii c = true)
    (hc : c ∈ snakeCaseChars name) : IsSnakeLetter c ∨ c = '_' := by
  by_cases hmark : c = '_'
  · exact Or.inr hmark
  have hmem : c ∈ (words name).flatten := by
    rw [flatten_words, ← filter_snakeCaseChars]
    exact List.mem_filter.mpr ⟨hc, decide_eq_true hmark⟩
  obtain ⟨word, hword, hin⟩ := List.mem_flatten.mp hmem
  exact Or.inl (isSnakeLetter_of_mem_words hname hword hin)

/-- A name of ASCII is in snake case after it has been written so. -/
theorem isSnakeCase_snakeCaseChars (hname : ∀ c ∈ name, isAscii c = true) :
    IsSnakeCase (snakeCaseChars name) where
  characters _ := isSnakeLetter_or_of_mem_snakeCaseChars hname
  before_underscore before after h := by
    obtain ⟨c, hlast, hmark⟩ :=
      exists_getLast?_of_nil_not_mem_splitChars (nil_not_mem_splitChars_of_snakeCaseChars h).1
    refine ⟨c, hlast, (isSnakeLetter_or_of_mem_snakeCaseChars hname ?_).resolve_right hmark⟩
    rw [h]
    exact List.mem_append_left _ (List.mem_of_getLast? hlast)
  after_underscore before after h := by
    obtain ⟨c, hhead, hmark⟩ :=
      exists_head?_of_nil_not_mem_splitChars (nil_not_mem_splitChars_of_snakeCaseChars h).2
    refine ⟨c, hhead, (isSnakeLetter_or_of_mem_snakeCaseChars hname ?_).resolve_right hmark⟩
    rw [h]
    exact List.mem_append_right _ (List.mem_cons_of_mem _ (List.mem_of_head? hhead))

/-- What follows an underscore of a text in snake case is in snake case. -/
lemma IsSnakeCase.of_append (h : IsSnakeCase (before ++ '_' :: after)) : IsSnakeCase after where
  characters c hc := h.characters c (List.mem_append_right _ (List.mem_cons_of_mem _ hc))
  before_underscore front back hsplit := by
    obtain ⟨c, hlast, hletter⟩ := h.before_underscore (before ++ '_' :: front) back (by simp [hsplit])
    cases front with
    | nil =>
      obtain rfl : '_' = c := by simpa using hlast
      exact absurd hletter (by decide)
    | cons first front =>
      rw [List.getLast?_append_of_ne_nil _ (List.cons_ne_nil _ _), List.getLast?_cons_cons] at hlast
      exact ⟨c, hlast, hletter⟩
  after_underscore front back hsplit :=
    h.after_underscore (before ++ '_' :: front) back (by simp [hsplit])

/-- A text in snake case stays as it is when it is written so.

**Proof sketch.** Induction on the length. Without underscores the text is its only word. Otherwise
what is before the first underscore is a word, and what is after it is in snake case and has a
word. -/
theorem snakeCaseChars_of_isSnakeCase {text : List Char} (h : IsSnakeCase text) :
    snakeCaseChars text = text := by
  induction hn : text.length using Nat.strong_induction_on generalizing text with
  | _ n ih =>
    subst hn
    by_cases hmark : '_' ∈ text
    · obtain ⟨front, back, rfl, hfront⟩ := List.eq_append_cons_of_mem hmark
      obtain ⟨first, hlast, -⟩ := h.before_underscore front back rfl
      obtain ⟨next, hhead, -⟩ := h.after_underscore front back rfl
      have hword : words front = [front] := by
        refine words_of_isSnakeLetter ?_ fun c hc => ?_
        · rintro rfl
          simp at hlast
        · refine (h.characters c (List.mem_append_left _ hc)).resolve_right ?_
          rintro rfl
          exact hfront hc
      have hback : snakeCaseChars back = back := ih back.length (by simp; omega) h.of_append rfl
      have hne : words back ≠ [] := by
        rw [Ne, ← snakeCaseChars_eq_nil_iff, hback]
        rintro rfl
        simp at hhead
      rw [snakeCaseChars, words_append_underscore, hword, List.singleton_append,
        List.intercalate_cons_of_ne_nil hne, ← snakeCaseChars, hback]
      simp
    · by_cases hnil : text = []
      · rw [hnil]
        rfl
      · have hword : words text = [text] := words_of_isSnakeLetter hnil fun c hc =>
          (h.characters c hc).resolve_right fun he => hmark (he ▸ hc)
        rw [snakeCaseChars, hword, List.intercalate_singleton]

/-! ## Normalization -/

/-- A name of ASCII and the same name in `snake_case` have the same words, so they are the same in
each convention. The name in `snake_case` has no other characters than lower-case letters, digits,
and single underscores between them. -/
theorem snakeCase_normalizes {name : String} (hname : ∀ c ∈ name.toList, isAscii c = true) :
    words (snakeCase name).toList = words name.toList ∧
      snakeCase (snakeCase name) = snakeCase name ∧
      upperCamelCase (snakeCase name) = upperCamelCase name ∧
      lowerCamelCase (snakeCase name) = lowerCamelCase name ∧
      IsSnakeCase (snakeCase name).toList := by
  have hchars : (snakeCase name).toList = snakeCaseChars name.toList := by
    rw [snakeCase, String.toList_ofList]
  have hwords : words (snakeCase name).toList = words name.toList := by
    rw [hchars, words_snakeCaseChars hname]
  have hform : IsSnakeCase (snakeCase name).toList := by
    rw [hchars]
    exact isSnakeCase_snakeCaseChars hname
  refine ⟨hwords, ?_, ?_, ?_, hform⟩
  · rw [snakeCase, snakeCaseChars_of_isSnakeCase hform, String.ofList_toList]
  · rw [upperCamelCase, upperCamelCaseChars, hwords, ← upperCamelCaseChars, ← upperCamelCase]
  · rw [lowerCamelCase, lowerCamelCaseChars, hwords, ← lowerCamelCaseChars, ← lowerCamelCase]

/-- A name with acronyms, digits and several separators is normalized. -/
theorem snakeCase_normalizes_acronyms :
    (∀ c ∈ "--getHTTPResponse2Fa..v10 ".toList, isAscii c = true) ∧
      snakeCase "--getHTTPResponse2Fa..v10 " = "get_http_response2_fa_v10" ∧
      words "get_http_response2_fa_v10".toList =
        ["get".toList, "http".toList, "response2".toList, "fa".toList, "v10".toList] ∧
      IsSnakeCase "get_http_response2_fa_v10".toList := by
  have hname : ∀ c ∈ "--getHTTPResponse2Fa..v10 ".toList, isAscii c = true :=
    List.all_eq_true.mp (by decide +kernel)
  have hsnake : snakeCase "--getHTTPResponse2Fa..v10 " = "get_http_response2_fa_v10" := by
    decide +kernel
  obtain ⟨hwords, -, -, -, hform⟩ := snakeCase_normalizes hname
  rw [hsnake] at hwords hform
  refine ⟨hname, hsnake, ?_, hform⟩
  rw [hwords]
  decide +kernel

/-- Outside of ASCII the lower case of a letter may hold a mark that is no letter or digit, and the
mark splits the name when it is read again. -/
example : snakeCase (snakeCase "İb") = "i_b" ∧ snakeCase "İb" ≠ "i_b" := by decide +kernel

end ClientGen.Text
