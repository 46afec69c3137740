import Mathlib.Data.List.Basic
import ClientGen.Files.Basic
import ClientGen.Proofs.Separators

/-!
# The way along a path

Where a path leads does not depend on what is there: each segment leads to a place. What is there
decides whether one can go on: all places on the way but the last one must be directories.

## Main definitions

* `ClientGen.FilePath.follow`, `ClientGen.FilePath.way` — the place that segments lead to, and the
  places on the way.
* `ClientGen.FileTree.placeOf`, `ClientGen.FileTree.wayTo` — the same for a path.

## Main results

* `ClientGen.FileTree.walk_eq_ok_iff` — a walk goes on through directories.
* `ClientGen.FileTree.placeOf_join` — where a path leads that goes on from another one.
* `ClientGen.FileTree.wayTo_subset_of_mem_ancestors` — the paths around a path lead along its way.
-/

set_option autoImplicit false

namespace ClientGen

open FileTree (isDirectorySegment)

/-! ## Segments -/

namespace FilePath

variable {place : FilePlace} {segment : String} {before after : List String} {path next : String}

/-- The place that a segment leads to. -/
def stepTo (place : FilePlace) (segment : String) : FilePlace :=
  if segment = "" || segment = "." then place
  else if segment = ".." then place.dropLast
  else place ++ [segment]

/-- The place that segments lead to. -/
def follow (place : FilePlace) (segments : List String) : FilePlace := segments.foldl stepTo place

/-- The places of the entries that segments name, one after the other. -/
def way : FilePlace → List String → List FilePlace
  | _, [] => []
  | place, segment :: rest =>
    if isDirectorySegment segment then way (stepTo place segment) rest
    else (place ++ [segment]) :: way (place ++ [segment]) rest

lemma isDirectorySegment_eq_true_iff :
    isDirectorySegment segment = true ↔ segment = "" ∨ segment = "." ∨ segment = ".." := by
  simp [isDirectorySegment]

/-- Any other segment names an entry. -/
lemma stepTo_of_not (h : ¬isDirectorySegment segment = true) :
    stepTo place segment = place ++ [segment] := by
  simp only [isDirectorySegment_eq_true_iff, not_or] at h
  obtain ⟨hempty, hdot, hdots⟩ := h
  simp [stepTo, hempty, hdot, hdots]

@[simp] lemma follow_nil : follow place [] = place := rfl

@[simp] lemma follow_cons :
    follow place (segment :: after) = follow (stepTo place segment) after := rfl

lemma follow_append : follow place (before ++ after) = follow (follow place before) after :=
  List.foldl_append

lemma way_append :
    way place (before ++ after) = way place before ++ way (follow place before) after := by
  induction before generalizing place with
  | nil => rfl
  | cons segment rest ih =>
    rw [List.cons_append, way, way, follow_cons]
    split
    next => exact ih
    next h => rw [stepTo_of_not h, List.cons_append, ih]

/-- A path is split at a slash. -/
lemma segments_append {chars rest : List Char} (h : path.toList = chars ++ '/' :: rest) :
    segments path = segments (String.ofList chars) ++ segments (String.ofList rest) := by
  simp only [segments, Text.split, h, Text.splitChars_append, List.map_append, String.toList_ofList]

lemma segments_empty : segments "" = [""] := rfl

lemma segments_ne_nil : segments path ≠ [] := by
  simpa [segments, Text.split] using Text.splitChars_ne_nil

/-- A name without slashes is one segment. -/
lemma segments_of_not_mem (h : '/' ∉ path.toList) : segments path = [path] := by
  rw [segments, Text.split, Text.splitChars_of_not_mem h, List.map_singleton, String.ofList_toList]

lemma isAbsolute_iff : isAbsolute path = true ↔ ∃ rest, path.toList = '/' :: rest := by
  have hslash : isAbsolute path = ['/'].isPrefixOf path.toList := rfl
  rw [hslash, List.isPrefixOf_iff_prefix]
  constructor
  · rintro ⟨rest, hrest⟩
    exact ⟨rest, hrest.symm⟩
  · rintro ⟨rest, hrest⟩
    exact ⟨rest, hrest.symm⟩

/-- A path is absolute if its first segment is empty and not its only one. -/
lemma isAbsolute_iff_segments : isAbsolute path = true ↔
    (segments path).head? = some "" ∧ 1 < (segments path).length := by
  rw [isAbsolute_iff]
  constructor
  · rintro ⟨rest, hrest⟩
    have hsegments : segments path = segments (String.ofList []) ++ segments (String.ofList rest) :=
      segments_append hrest
    have hpos : 0 < (segments (String.ofList rest)).length :=
      List.length_pos_iff.mpr segments_ne_nil
    rw [hsegments, String.ofList_nil, segments_empty, List.singleton_append, List.length_cons]
    exact ⟨rfl, by omega⟩
  · rintro ⟨hhead, hlength⟩
    have hmem : '/' ∈ path.toList := by
      by_contra hnot
      rw [segments_of_not_mem hnot, List.length_singleton] at hlength
      omega
    obtain ⟨chars, rest, hpath, hchars⟩ := List.eq_append_cons_of_mem hmem
    rw [segments_append hpath, segments_of_not_mem (by simpa using hchars)] at hhead
    have hempty : String.ofList chars = "" := by simpa using hhead
    have hnil : chars = [] := by simpa using congrArg String.toList hempty
    exact ⟨rest, by rw [hpath, hnil, List.nil_append]⟩

/-- A name of an entry: one segment that is not empty and does not lead to a directory. -/
def IsName (name : String) : Prop :=
  '/' ∉ name.toList ∧ name ≠ "" ∧ name ≠ "." ∧ name ≠ ".."

instance (name : String) : Decidable (IsName name) := inferInstanceAs (Decidable (_ ∧ _))

namespace IsName

variable {name : String} (h : IsName name)

include h

lemma segments_eq : segments name = [name] := segments_of_not_mem h.1

lemma not_isDirectorySegment : ¬isDirectorySegment name = true := by
  rw [isDirectorySegment_eq_true_iff, not_or, not_or]
  exact h.2

lemma not_isAbsolute : ¬isAbsolute name = true := by
  rw [isAbsolute_iff]
  rintro ⟨rest, hrest⟩
  exact h.1 (hrest ▸ List.mem_cons_self)

end IsName

/-! ## Joined paths -/

/-- A path that goes on from another one leads along the way of that one first. -/
lemma exists_segments_join (path : String) (h : ¬isAbsolute next = true) :
    ∃ before, segments (join path next) = before ++ segments next ∧
      ∀ place, follow place before = follow place (segments path) ∧
        way place before = way place (segments path) := by
  rw [join, if_neg h]
  by_cases hempty : path = ""
  · subst hempty
    exact ⟨[], rfl, fun place => ⟨rfl, rfl⟩⟩
  by_cases hlast : path.toList.getLast? = some '/'
  · obtain ⟨chars, hchars⟩ := List.getLast?_eq_some_iff.mp hlast
    rw [if_pos (by simp [hlast])]
    have hpath : segments path = segments (String.ofList chars) ++ [""] := segments_append hchars
    have hjoin : (path ++ next).toList = chars ++ '/' :: next.toList := by simp [hchars]
    refine ⟨segments (String.ofList chars), ?_, fun place => ⟨?_, ?_⟩⟩
    · rw [segments_append hjoin, String.ofList_toList]
    · rw [hpath, follow_append]
      rfl
    · rw [hpath, way_append]
      exact (List.append_nil _).symm
  · rw [if_neg (by simp [hempty, hlast])]
    have hjoin : (path ++ "/" ++ next).toList = path.toList ++ '/' :: next.toList := by simp
    refine ⟨segments path, ?_, fun place => ⟨rfl, rfl⟩⟩
    rw [segments_append hjoin, String.ofList_toList, String.ofList_toList]

/-- A path that goes on from another one begins where that one does. -/
lemma isAbsolute_join (h : ¬isAbsolute next = true) :
    isAbsolute (join path next) = isAbsolute path := by
  rw [join, if_neg h]
  by_cases hempty : path = ""
  · subst hempty
    rw [if_pos (by simp), String.empty_append, Bool.eq_false_iff.mpr h]
    rfl
  have hne : path.toList ≠ [] := by simpa using hempty
  obtain ⟨c, rest, hpath⟩ := List.exists_cons_of_ne_nil hne
  rw [Bool.eq_iff_iff, isAbsolute_iff, isAbsolute_iff]
  split <;> simp [hpath]

/-! ## Paths around a path -/

lemma trimmed_suffix {segments : List String} : trimmed segments <:+ segments := by
  induction segments with
  | nil => exact List.suffix_refl _
  | cons last rest ih =>
    cases rest with
    | nil => exact List.suffix_refl _
    | cons next rest =>
      rw [trimmed]
      split
      next => exact ih.trans (List.suffix_cons _ _)
      next => exact List.suffix_refl _
      · simp

lemma trimmed_ne_nil {segments : List String} (h : segments ≠ []) : trimmed segments ≠ [] := by
  induction segments with
  | nil => exact absurd rfl h
  | cons last rest ih =>
    cases rest with
    | nil => exact h
    | cons next rest =>
      rw [trimmed]
      split
      next => exact ih (List.cons_ne_nil _ _)
      next => exact List.cons_ne_nil _ _
      · simp

/-- A segment contains no slash. -/
lemma slash_not_mem_of_mem_segments (h : segment ∈ segments path) : '/' ∉ segment.toList := by
  obtain ⟨chars, hchars, rfl⟩ := List.mem_map.mp h
  simpa using Text.not_mem_of_mem_splitChars hchars

/-- The segments of the path that is put together from some of the segments of a path. -/
lemma segments_ofSegments {found : List String} (h : ∀ segment ∈ found, '/' ∉ segment.toList)
    (hne : found ≠ []) (hroot : found ≠ [""]) : segments (ofSegments found) = found.reverse := by
  have htext : (ofSegments found).toList =
      ['/'].intercalate (found.reverse.map String.toList) := by
    rw [ofSegments, if_neg hroot, String.toList_intercalate]
    rfl
  rw [segments, Text.split, htext, Text.splitChars_intercalate (by simpa using hne)
    (by simpa using h), List.map_map]
  simp

/-- The path without its last segment is put together from segments before that one. -/
lemma exists_of_parent? {parent : String} (h : parent? path = some parent) :
    parent = "" ∨ ∃ found, parent = ofSegments found ∧ found ≠ [] ∧
      found.reverse <+: segments path ∧ found.length < (segments path).length := by
  rw [parent?] at h
  have hsuffix : trimmed (segments path).reverse <:+ (segments path).reverse := trimmed_suffix
  revert hsuffix
  cases htrimmed : trimmed (segments path).reverse with
  | nil => rw [htrimmed] at h; exact absurd h nofun
  | cons last rest =>
    intro hsuffix
    rw [htrimmed] at h
    cases rest with
    | nil =>
      obtain ⟨-, h⟩ := Option.ite_none_left_eq_some.mp h
      exact .inl (Option.some.inj h).symm
    | cons next rest =>
      refine .inr ⟨trimmed (next :: rest), (Option.some.inj h).symm,
        trimmed_ne_nil (List.cons_ne_nil _ _), ?_, ?_⟩
      · have hall : trimmed (next :: rest) <:+ (segments path).reverse :=
          trimmed_suffix.trans ((List.suffix_cons last _).trans hsuffix)
        simpa using List.reverse_prefix.mpr hall
      · have hshorter : trimmed (next :: rest) <:+ next :: rest := trimmed_suffix
        have hle := hshorter.length_le
        have hlength := hsuffix.length_le
        simp only [List.length_cons, List.length_reverse] at hle hlength
        omega

end FilePath

/-! ## Places of a tree -/

namespace FileTree

open FilePath

variable {tree : FileTree} {place found : FilePlace} {segment path next : String}
  {segments : List String}

/-- The place that a path leads to. -/
def placeOf (tree : FileTree) (path : String) : FilePlace :=
  follow (tree.start path) (FilePath.segments path)

/-- The places of the entries that a path names, one after the other. -/
def wayTo (tree : FileTree) (path : String) : List FilePlace :=
  way (tree.start path) (FilePath.segments path)

/-- A segment that names no entry leads on without a look at what is there. -/
lemma walk_cons_of_isDirectorySegment (h : isDirectorySegment segment = true) :
    tree.walk place (segment :: segments) = tree.walk (stepTo place segment) segments := by
  rw [isDirectorySegment_eq_true_iff] at h
  rw [walk, stepTo]
  rcases h with rfl | rfl | rfl <;> simp

/-- Any other segment must name a directory. -/
lemma walk_cons_of_not (h : ¬isDirectorySegment segment = true) :
    tree.walk place (segment :: segments) =
      match tree.get? (place ++ [segment]) with
      | none => .error .notFound
      | some (.file _) => .error .notDirectory
      | some .directory => tree.walk (place ++ [segment]) segments := by
  simp only [isDirectorySegment_eq_true_iff, not_or] at h
  obtain ⟨hempty, hdot, hdots⟩ := h
  rw [walk, if_neg (by simp [hempty, hdot])]
  exact if_neg hdots

/-- A walk goes on through directories, to the place that its segments lead to. -/
theorem walk_eq_ok_iff : tree.walk place segments = .ok found ↔
    found = follow place segments ∧ ∀ on ∈ way place segments, tree.get? on = some .directory := by
  induction segments generalizing place with
  | nil => simp [walk, way, eq_comm]
  | cons segment rest ih =>
    rw [follow_cons, way]
    by_cases h : isDirectorySegment segment = true
    · rw [walk_cons_of_isDirectorySegment h, ih, if_pos h]
    · rw [walk_cons_of_not h, if_neg h, stepTo_of_not h, List.forall_mem_cons]
      cases hget : tree.get? (place ++ [segment]) with
      | none => simp
      | some entry =>
        cases entry with
        | file text => simp
        | directory => simp [ih]

/-- Where a path leads that goes on from another one. -/
theorem placeOf_join (h : ¬isAbsolute next = true) :
    tree.placeOf (join path next) = follow (tree.placeOf path) (FilePath.segments next) := by
  obtain ⟨before, hsegments, hbefore⟩ := exists_segments_join path h
  rw [placeOf, placeOf, start, start, isAbsolute_join h, hsegments, follow_append,
    (hbefore _).1]

/-- The way along a path that goes on from another one. -/
theorem wayTo_join (h : ¬isAbsolute next = true) : tree.wayTo (join path next) =
    tree.wayTo path ++ way (tree.placeOf path) (FilePath.segments next) := by
  obtain ⟨before, hsegments, hbefore⟩ := exists_segments_join path h
  rw [wayTo, wayTo, placeOf, start, start, isAbsolute_join h, hsegments, way_append,
    (hbefore _).1, (hbefore _).2]

/-- A path that goes on with a name leads to the entry of that name. -/
lemma placeOf_join_name {name : String} (h : IsName name) :
    tree.placeOf (join path name) = tree.placeOf path ++ [name] := by
  rw [placeOf_join h.not_isAbsolute, h.segments_eq, follow_cons, follow_nil,
    stepTo_of_not h.not_isDirectorySegment]

lemma wayTo_join_name {name : String} (h : IsName name) :
    tree.wayTo (join path name) = tree.wayTo path ++ [tree.placeOf path ++ [name]] := by
  rw [wayTo_join h.not_isAbsolute, h.segments_eq, way, if_neg h.not_isDirectorySegment, way]

/-- The first segments of a path lead along its way. -/
lemma wayTo_subset_of_isPrefix (hpre : FilePath.segments next <+: FilePath.segments path)
    (habsolute : isAbsolute next = isAbsolute path) : tree.wayTo next ⊆ tree.wayTo path := by
  obtain ⟨rest, hrest⟩ := hpre
  rw [wayTo, wayTo, start, start, habsolute, ← hrest, way_append]
  exact List.subset_append_left _ _

/-- The path without its last segment leads along the way. -/
lemma wayTo_subset_of_parent? {parent : String} (h : parent? path = some parent) :
    tree.wayTo parent ⊆ tree.wayTo path := by
  rcases exists_of_parent? h with rfl | ⟨found, rfl, hne, hpre, hlength⟩
  · exact List.nil_subset _
  by_cases hroot : found = [""]
  · subst hroot
    exact List.nil_subset _
  have hsegments : FilePath.segments (ofSegments found) = found.reverse :=
    segments_ofSegments (fun segment hsegment => slash_not_mem_of_mem_segments
      (hpre.subset (List.mem_reverse.mpr hsegment))) hne hroot
  refine wayTo_subset_of_isPrefix (hsegments ▸ hpre) ?_
  obtain ⟨rest, hrest⟩ := hpre
  obtain ⟨first, others, hfound⟩ := List.exists_cons_of_ne_nil (List.reverse_ne_nil_iff.mpr hne)
  rw [Bool.eq_iff_iff, isAbsolute_iff_segments, isAbsolute_iff_segments, hsegments, ← hrest, hfound]
  constructor
  · rintro ⟨hhead, hmore⟩
    exact ⟨hhead, by simp at hmore ⊢; omega⟩
  · rintro ⟨hhead, -⟩
    refine ⟨hhead, ?_⟩
    obtain rfl : first = "" := by simpa using hhead
    have hothers : others ≠ [] := by
      rintro rfl
      exact hroot (by simpa using congrArg List.reverse hfound)
    simpa using List.length_pos_iff.mpr hothers

/-- The paths around a path lead along its way. -/
theorem wayTo_subset_of_mem_ancestors {around : String} (h : around ∈ ancestors path) :
    tree.wayTo around ⊆ tree.wayTo path := by
  have hfrom : ∀ (fuel : Nat) (path : String), around ∈ ancestorsFrom fuel path →
      tree.wayTo around ⊆ tree.wayTo path := by
    intro fuel
    induction fuel with
    | zero => exact fun path h => absurd h List.not_mem_nil
    | succ fuel ih =>
      intro path h
      rw [ancestorsFrom] at h
      cases hparent : parent? path with
      | none =>
        rw [hparent] at h
        exact absurd h List.not_mem_nil
      | some parent =>
        rw [hparent] at h
        rcases List.mem_cons.mp h with rfl | h
        · exact List.Subset.refl _
        · exact List.Subset.trans (ih parent h) (wayTo_subset_of_parent? hparent)
  exact hfrom _ path (List.mem_of_mem_filter h)

/-- A path may end with slashes that are left out. -/
lemma withoutSlashes_cases (path : String) : withoutSlashes path = path ∨
    ∃ chars slashes, chars ≠ [] ∧ withoutSlashes path = String.ofList chars ∧
      path.toList = chars ++ '/' :: slashes := by
  have hall : (path.toList.reverse.dropWhile (· = '/')).reverse ++
      (path.toList.reverse.takeWhile (· = '/')).reverse = path.toList := by
    rw [← List.reverse_append, List.takeWhile_append_dropWhile, List.reverse_reverse]
  have hslashes : ∀ slash ∈ (path.toList.reverse.takeWhile (· = '/')).reverse, slash = '/' := by
    intro slash hslash
    simpa using List.all_eq_true.mp List.all_takeWhile slash (List.mem_reverse.mp hslash)
  simp only [withoutSlashes, List.isEmpty_iff]
  generalize (path.toList.reverse.dropWhile (· = '/')).reverse = chars at *
  generalize (path.toList.reverse.takeWhile (· = '/')).reverse = slashes at *
  split
  next => exact .inl rfl
  next hne =>
    cases slashes with
    | nil =>
      rw [List.append_nil] at hall
      exact .inl (by rw [hall, String.ofList_toList])
    | cons slash slashes =>
      obtain rfl : slash = '/' := hslashes slash List.mem_cons_self
      exact .inr ⟨chars, slashes, hne, rfl, hall.symm⟩

/-- A path without the slashes that end it leads along the way. -/
lemma wayTo_withoutSlashes_subset : tree.wayTo (withoutSlashes path) ⊆ tree.wayTo path := by
  rcases withoutSlashes_cases path with hsame | ⟨chars, slashes, hne, hpath, hall⟩
  · rw [hsame]
    exact List.Subset.refl _
  · rw [hpath]
    refine wayTo_subset_of_isPrefix ?_ ?_
    · rw [segments_append hall]
      exact List.prefix_append _ _
    · obtain ⟨c, rest, rfl⟩ := List.exists_cons_of_ne_nil hne
      rw [Bool.eq_iff_iff, isAbsolute_iff, isAbsolute_iff, hall, String.toList_ofList]
      simp

end FileTree

end ClientGen
