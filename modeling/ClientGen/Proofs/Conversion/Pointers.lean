import ClientGen.Conversion
import ClientGen.Proofs.Separators

/-!
# The text of pointers

A name is escaped before it becomes a step of a pointer, so that it cannot be taken for two steps.
Where a name is not escaped it can: the member that declares an operation stands in the pointer to
the operation as it is.

## Main results

* `ClientGen.Json.Pointer.unescapeChars_escapeChars` — a step is the name that it is written for.
* `ClientGen.Conversion.steps?_operationPointer` — the steps of the pointer to an operation.
* `ClientGen.Json.Pointer.pieces_eq_singleton_iff` — a plain name is the only text for the one step
  of that name.
* `ClientGen.Conversion.pointer_selects_operation` — the pointer to an operation selects it.
-/

set_option autoImplicit false

namespace ClientGen

/-! ## Replacement -/

namespace Text

variable {pattern image text chars rest : List Char} {c d e : Char}

/-- Replacing a character goes through the text character by character. -/
lemma replaceChars_singleton :
    replaceChars [c] image (d :: rest) =
      (if d = c then image else [d]) ++ replaceChars [c] image rest := by
  rw [replaceChars, replaceFrom]
  by_cases h : d = c
  · subst h
    simp [replaceChars]
  · simp [replaceChars, h, Ne.symm h]

/-- A pair of characters is replaced where it stands. -/
lemma replaceChars_pair_self : replaceChars [c, d] image (c :: d :: rest) =
    image ++ replaceChars [c, d] image rest := by
  simp [replaceChars, replaceFrom]

/-- A pair of characters does not begin with another character. -/
lemma replaceChars_pair_of_ne (h : e ≠ c) : replaceChars [c, d] image (e :: rest) =
    e :: replaceChars [c, d] image rest := by
  simp [replaceChars, replaceFrom, Ne.symm h]

/-- A pair of characters does not go on with another character. -/
lemma replaceChars_pair_of_ne' (h : e ≠ d) : replaceChars [c, d] image (c :: e :: rest) =
    c :: replaceChars [c, d] image (e :: rest) := by
  simp [replaceChars, replaceFrom, Ne.symm h]

/-- Nothing is replaced in a text without the first character of what is replaced. -/
lemma replaceChars_of_not_mem (h : c ∉ text) : replaceChars (c :: pattern) image text = text := by
  induction text with
  | nil => simp
  | cons d rest ih =>
    obtain ⟨hne, hrest⟩ := not_or.mp (List.mem_cons.not.mp h)
    rw [replaceChars, replaceFrom, if_neg (by simp [hne])]
    exact congrArg (d :: ·) (ih hrest)

/-- What does not contain what has been written in place of something is the text itself. -/
lemma eq_of_replaceChars (hc : c ∉ text) (h : replaceChars pattern [c] chars = text) :
    chars = text := by
  induction chars generalizing text with
  | nil => simpa [replaceChars, replaceFrom] using h
  | cons first rest ih =>
    rw [replaceChars, replaceFrom] at h
    split at h
    next => exact absurd (h ▸ by simp) hc
    next =>
      subst h
      exact congrArg (first :: ·) (ih (fun hmem => hc (List.mem_cons_of_mem _ hmem)) rfl)

end Text

/-! ## Names -/

namespace Json.Pointer

open Text

variable {name : List Char}

/-- An escaped name contains no slash. -/
lemma slash_not_mem_escapeChars : '/' ∉ escapeChars name := by
  have h (text : List Char) : '/' ∉ replaceChars ['/'] ['~', '1'] text := by
    induction text with
    | nil => simp
    | cons c rest ih =>
      rw [replaceChars_singleton, List.mem_append, not_or]
      refine ⟨?_, ih⟩
      split
      next => decide
      next hc => simpa using Ne.symm hc
  exact h _

/-- Slashes are read back. -/
lemma replaceChars_slash_escapeChars :
    replaceChars ['~', '1'] ['/'] (escapeChars name) = replaceChars ['~'] ['~', '0'] name := by
  rw [escapeChars]
  induction name with
  | nil => simp
  | cons c rest ih =>
    rw [replaceChars_singleton]
    by_cases htilde : c = '~'
    · simp only [if_pos htilde, List.cons_append, List.nil_append, replaceChars_singleton,
        if_neg (show '~' ≠ '/' by decide), if_neg (show '0' ≠ '/' by decide)]
      rw [replaceChars_pair_of_ne' (by decide), replaceChars_pair_of_ne (by decide), ih]
    · simp only [if_neg htilde, List.cons_append, List.nil_append, replaceChars_singleton]
      split
      next hslash =>
        rw [List.cons_append, List.cons_append, List.nil_append, replaceChars_pair_self, ih, hslash]
        rfl
      next => rw [List.cons_append, List.nil_append, replaceChars_pair_of_ne htilde, ih]

/-- A step is the name that it is written for. -/
theorem unescapeChars_escapeChars : unescapeChars (escapeChars name) = name := by
  rw [unescapeChars, replaceChars_slash_escapeChars]
  induction name with
  | nil => simp
  | cons c rest ih =>
    rw [replaceChars_singleton]
    split
    next htilde =>
      rw [List.cons_append, List.cons_append, List.nil_append, replaceChars_pair_self, ih, htilde]
      rfl
    next htilde => rw [List.cons_append, List.nil_append, replaceChars_pair_of_ne htilde, ih]

/-- The steps that a text of several steps describes. -/
def pieces (text : String) : List String :=
  (splitChars '/' text.toList).map fun step => String.ofList (unescapeChars step)

/-- A text without slashes describes one step. -/
lemma length_pieces {text : String} (h : '/' ∉ text.toList) : (pieces text).length = 1 := by
  rw [pieces, List.length_map, splitChars_of_not_mem h, List.length_singleton]

/-- A plain name is the only text for the one step of that name. -/
theorem pieces_eq_singleton_iff {text plain : String} (hslash : '/' ∉ plain.toList)
    (htilde : '~' ∉ plain.toList) : pieces text = [plain] ↔ text = plain := by
  constructor
  · intro h
    have hlength : (splitChars '/' text.toList).length = 1 := by
      simpa [pieces] using congrArg List.length h
    rw [pieces, splitChars_of_not_mem (not_mem_of_length_splitChars hlength), List.map_singleton,
      List.singleton_inj] at h
    have hchars : unescapeChars text.toList = plain.toList := by simp [← h]
    exact String.toList_injective (eq_of_replaceChars hslash (eq_of_replaceChars htilde hchars))
  · rintro rfl
    have hplain : unescapeChars text.toList = text.toList := by
      rw [unescapeChars, replaceChars_of_not_mem htilde, replaceChars_of_not_mem htilde]
    rw [pieces, splitChars_of_not_mem hslash, List.map_singleton, hplain, String.ofList_toList]

end Json.Pointer

namespace Conversion

open Json

/-- The pointer to an operation leads to its path and, from there, wherever the text of the member
that declares it leads. -/
theorem steps?_operationPointer (operation : Operation) :
    Pointer.steps? (operationPointer operation) =
      some ("paths" :: operation.endpoint :: Pointer.pieces operation.key) := by
  have hpointer : (operationPointer operation).toList =
      '/' :: ("paths".toList ++ '/' :: (Pointer.escapeChars operation.endpoint.toList ++
        '/' :: operation.key.toList)) := by
    simp [operationPointer, Pointer.escape]
  rw [Pointer.steps?, hpointer]
  simp only [Text.splitChars_append_of_not_mem (show '/' ∉ "paths".toList by decide),
    Text.splitChars_append_of_not_mem Pointer.slash_not_mem_escapeChars, List.map_cons,
    Pointer.unescapeChars_escapeChars, String.ofList_toList, Pointer.pieces]
  rfl

/-- Of an object, a step leads to the member of that name. -/
lemma child?_of_isObject {value : Json} (h : value.asObject?.isSome = true) (step : String) :
    value.child? step = value.get? step := by
  cases value with
  | object members => rfl
  | _ => exact absurd h Bool.false_ne_true

/-- If the paths of a document are objects, the pointer to an operation selects the member of its
path that declares it, whatever characters there are in the path, as long as the name of the member
is plain. If there is no such member, it selects nothing. -/
theorem pointer_selects_operation {root : Json} {paths : List (String × Json)}
    (operation : Operation) (hpaths : root.get? "paths" = some (.object paths))
    (hobjects : ∀ path ∈ paths, path.2.asObject?.isSome = true)
    (hslash : '/' ∉ operation.key.toList) (htilde : '~' ∉ operation.key.toList) :
    Pointer.steps? (operationPointer operation) =
        some ["paths", operation.endpoint, operation.key] ∧
      (∀ value, root.pointer? (operationPointer operation) = some value ↔
        ∃ path, paths.lookup operation.endpoint = some path ∧
          path.get? operation.key = some value) ∧
      (root.pointer? (operationPointer operation) = none ↔
        ∀ path, paths.lookup operation.endpoint = some path → path.get? operation.key = none) := by
  have hsteps : Pointer.steps? (operationPointer operation) =
      some ["paths", operation.endpoint, operation.key] := by
    rw [steps?_operationPointer, (Pointer.pieces_eq_singleton_iff hslash htilde).mpr rfl]
  have hroot : root.child? "paths" = some (.object paths) := by
    cases root with
    | object members => exact hpaths
    | _ => exact absurd hpaths (Option.some_ne_none _).symm
  have hselected : root.pointer? (operationPointer operation) =
      (paths.lookup operation.endpoint).bind (·.get? operation.key) := by
    rw [pointer?, hsteps, Option.bind_some, at?, hroot, Option.bind_some, at?]
    show (paths.lookup operation.endpoint).bind _ = _
    cases hlookup : paths.lookup operation.endpoint with
    | none => rfl
    | some path =>
      obtain ⟨before, after, rfl, -⟩ := List.lookup_eq_some_iff.mp hlookup
      have hobject : path.asObject?.isSome = true :=
        hobjects (operation.endpoint, path) (List.mem_append_right _ List.mem_cons_self)
      rw [Option.bind_some, Option.bind_some, at?, child?_of_isObject hobject]
      cases path.get? operation.key <;> rfl
  refine ⟨hsteps, fun value => ?_, ?_⟩
  · rw [hselected, Option.bind_eq_some_iff]
  · rw [hselected, Option.bind_eq_none_iff]

/-- Two paths that look alike: in one there are slashes, in the other one what they are escaped
as. -/
def escapedPaths : List (String × Json) :=
  [("/users/~", .object [("get", .string "slashes")]),
    ("~1users~1~0", .object [("get", .string "escapes")])]

/-- The pointers to the operations of those paths are different and select each its own operation,
and the pointer to a missing operation selects nothing. -/
theorem pointer_selects_escaped :
    let root := Json.object [("paths", .object escapedPaths)]
    (∀ path ∈ escapedPaths, path.2.asObject?.isSome = true) ∧
    operationPointer ⟨"/users/~", "get", ""⟩ = "/paths/~1users~1~0/get" ∧
    root.pointer? (operationPointer ⟨"/users/~", "get", ""⟩) = some (.string "slashes") ∧
    operationPointer ⟨"~1users~1~0", "get", ""⟩ = "/paths/~01users~01~00/get" ∧
    root.pointer? (operationPointer ⟨"~1users~1~0", "get", ""⟩) = some (.string "escapes") ∧
    root.pointer? (operationPointer ⟨"/users/~", "put", ""⟩) = none := by
  intro root
  have hobjects : ∀ path ∈ escapedPaths, path.2.asObject?.isSome = true := by
    simp [escapedPaths, asObject?]
  have hroot : root.get? "paths" = some (.object escapedPaths) := rfl
  obtain ⟨-, hslashes, -⟩ := pointer_selects_operation ⟨"/users/~", "get", ""⟩ hroot hobjects
    (by decide) (by decide)
  obtain ⟨-, hescapes, -⟩ := pointer_selects_operation ⟨"~1users~1~0", "get", ""⟩ hroot hobjects
    (by decide) (by decide)
  obtain ⟨-, -, hmissing⟩ := pointer_selects_operation ⟨"/users/~", "put", ""⟩ hroot hobjects
    (by decide) (by decide)
  refine ⟨hobjects, by decide, (hslashes _).mpr ⟨_, rfl, rfl⟩, by decide,
    (hescapes _).mpr ⟨_, rfl, rfl⟩, hmissing.mpr fun path hpath => ?_⟩
  obtain rfl := Option.some.inj hpath
  rfl

end Conversion

end ClientGen
