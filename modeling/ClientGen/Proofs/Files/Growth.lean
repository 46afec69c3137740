import Mathlib.Data.List.Basic
import ClientGen.Proofs.Files.Ways
import ClientGen.Proofs.Traversal

/-!
# Trees that grow

Making directories and writing files adds to a tree: directories stay, new ones are made where
nothing was, and a place at which a file has been written holds the text that was written last. So
what is read elsewhere is what it was, unless the path leads through a directory that was missing.

## Main definitions

* `ClientGen.FileTree.GrowsTo` — that files have been written, and directories made for them.
* `ClientGen.FileTree.AddsFiles` — that a tree has some files besides those of an older one.
* `ClientGen.FileTree.LeadsThroughMissing` — that a path leads through something that is missing,
  but may be made.

## Main results

* `ClientGen.FileTree.growsTo_of_write`, `ClientGen.FileTree.growsTo_of_createDirectories` — what
  writing a file and making directories does.
* `ClientGen.FileTree.GrowsTo.read_eq` — what is outside is read as before, unless its path leads
  through something that was missing.
-/

set_option autoImplicit false

namespace ClientGen.FileTree

open FilePath

variable {tree old mid new : FileTree} {place found on : FilePlace} {path text name : String}
  {made : FilePlace → Prop} {files more : List (String × String)} {segments : List String}

/-! ## Growth -/

/-- The text of the file at a place. -/
def textAt? (tree : FileTree) (place : FilePlace) : Option String :=
  match tree.get? place with
  | some (.file text) => some text
  | _ => none

/-- The text that is written last at a place. -/
def lastText? (tree : FileTree) (files : List (String × String)) (place : FilePlace) :
    Option String :=
  ((files.filter fun file => tree.placeOf file.1 = place).getLast?).map (·.2)

/-- Files have been written to a tree, one after the other, and directories have been made at some
places where nothing was. -/
structure GrowsTo (made : FilePlace → Prop) (files : List (String × String))
    (old new : FileTree) : Prop where
  workingDirectory : new.workingDirectory = old.workingDirectory
  directory {place : FilePlace} (h : old.get? place = some .directory) :
    new.get? place = some .directory
  of_directory {place : FilePlace} (h : new.get? place = some .directory) :
    old.get? place = some .directory ∨ made place
  textAt? (place : FilePlace) :
    new.textAt? place = (old.lastText? files place).or (old.textAt? place)

/-- The files of a tree are some files, and at other places those of an older tree. -/
def AddsFiles (files : List (String × String)) (old new : FileTree) : Prop :=
  ∀ place text, new.get? place = some (.file text) ↔
    (∃ file ∈ files, old.placeOf file.1 = place ∧ file.2 = text) ∨
      (∀ file ∈ files, old.placeOf file.1 ≠ place) ∧ old.get? place = some (.file text)

lemma textAt?_eq_some_iff :
    tree.textAt? place = some text ↔ tree.get? place = some (.file text) := by
  rw [textAt?]
  split <;> simp_all

lemma textAt?_eq_none_iff : tree.textAt? place = none ↔
    tree.get? place = none ∨ tree.get? place = some .directory := by
  rw [textAt?]
  cases tree.get? place with
  | none => simp
  | some entry => cases entry <;> simp

/-- Where paths lead depends on the working directory only. -/
lemma placeOf_congr (h : new.workingDirectory = old.workingDirectory) :
    new.placeOf path = old.placeOf path := by
  rw [placeOf, placeOf, start, start, h]

lemma wayTo_congr (h : new.workingDirectory = old.workingDirectory) :
    new.wayTo path = old.wayTo path := by
  rw [wayTo, wayTo, start, start, h]

lemma lastText?_append : tree.lastText? (files ++ more) place =
    (tree.lastText? more place).or (tree.lastText? files place) := by
  rw [lastText?, lastText?, lastText?, List.filter_append, List.getLast?_append]
  cases (more.filter fun file => tree.placeOf file.1 = place).getLast? <;> rfl

/-- If no two files have different texts at one place, any of them there has the last text. -/
lemma lastText?_eq_some_iff
    (hsame : ∀ file ∈ files, ∀ file' ∈ files,
      tree.placeOf file.1 = tree.placeOf file'.1 → file.2 = file'.2) :
    tree.lastText? files place = some text ↔
      ∃ file ∈ files, tree.placeOf file.1 = place ∧ file.2 = text := by
  have hmem {file : String × String} :
      file ∈ (files.filter fun file => tree.placeOf file.1 = place) ↔
        file ∈ files ∧ tree.placeOf file.1 = place := by simp
  rw [lastText?, Option.map_eq_some_iff]
  constructor
  · rintro ⟨file, hlast, rfl⟩
    obtain ⟨hfile, hplace⟩ := hmem.mp (List.mem_of_getLast? hlast)
    exact ⟨file, hfile, hplace, rfl⟩
  · rintro ⟨file, hfile, rfl, rfl⟩
    have hne := List.ne_nil_of_mem (hmem.mpr ⟨hfile, rfl⟩)
    obtain ⟨hlast, hplace⟩ := hmem.mp (List.getLast_mem hne)
    exact ⟨_, List.getLast?_eq_some_getLast hne, hsame _ hlast _ hfile hplace⟩

lemma lastText?_eq_none_iff : tree.lastText? files place = none ↔
    ∀ file ∈ files, tree.placeOf file.1 ≠ place := by
  simp [lastText?]

namespace GrowsTo

lemma refl : GrowsTo made [] tree tree where
  workingDirectory := rfl
  directory h := h
  of_directory h := .inl h
  textAt? _ := rfl

lemma trans (h : GrowsTo made files old mid) (h' : GrowsTo made more mid new) :
    GrowsTo made (files ++ more) old new where
  workingDirectory := h'.workingDirectory.trans h.workingDirectory
  directory hd := h'.directory (h.directory hd)
  of_directory hd := (h'.of_directory hd).elim h.of_directory .inr
  textAt? place := by
    have hmore : mid.lastText? more place = old.lastText? more place := by
      simp only [lastText?, placeOf_congr h.workingDirectory]
    rw [h'.textAt?, h.textAt?, lastText?_append, hmore, Option.or_assoc]

/-- If no two files have different texts at one place, the files that are there afterwards are
those that have been written, and what has been there at other places. -/
theorem addsFiles (h : GrowsTo made files old new)
    (hsame : ∀ file ∈ files, ∀ file' ∈ files,
      old.placeOf file.1 = old.placeOf file'.1 → file.2 = file'.2) : AddsFiles files old new := by
  intro place text
  rw [← textAt?_eq_some_iff, ← textAt?_eq_some_iff, h.textAt?, ← lastText?_eq_some_iff hsame,
    ← lastText?_eq_none_iff]
  cases old.lastText? files place <;> simp

end GrowsTo

/-! ## Changes -/

/-- A path is located at its last segment, in the place that the segments before it lead to, through
directories. -/
lemma exists_of_locate (h : tree.locate path = .ok (place, name)) :
    ∃ before, FilePath.segments path = before ++ [name] ∧
      place = follow (tree.start path) before ∧
      ∀ on ∈ way (tree.start path) before, tree.get? on = some .directory := by
  rw [locate] at h
  split at h
  next => exact absurd h nofun
  next =>
    cases hwalk : tree.walk (tree.start path) (FilePath.segments path).dropLast with
    | error error => rw [hwalk] at h; exact absurd h nofun
    | ok found =>
      rw [hwalk] at h
      obtain ⟨rfl, rfl⟩ := Prod.mk.inj (Except.ok.inj h)
      refine ⟨(FilePath.segments path).dropLast, ?_, walk_eq_ok_iff.mp hwalk⟩
      rw [List.getLast?_eq_some_getLast segments_ne_nil, Option.getD_some,
        List.dropLast_append_getLast]

/-- An entry that a path is located at is the one that it leads to. -/
lemma placeOf_of_locate (h : tree.locate path = .ok (place, name))
    (hname : ¬isDirectorySegment name = true) :
    tree.placeOf path = place ++ [name] ∧ place ++ [name] ∈ tree.wayTo path := by
  obtain ⟨before, hsegments, rfl, -⟩ := exists_of_locate h
  constructor
  · rw [placeOf, hsegments, follow_append, follow_cons, follow_nil, stepTo_of_not hname]
  · rw [wayTo, hsegments, way_append, way, if_neg hname]
    simp

/-- A file that has been written is at the place that its path leads to, which is no directory. -/
lemma eq_set_of_write (h : tree.write path text = .ok new) :
    new = tree.set (tree.placeOf path) (.file text) ∧ tree.placeOf path ≠ [] ∧
      tree.get? (tree.placeOf path) ≠ some .directory := by
  rw [write] at h
  obtain ⟨⟨place, name⟩, hlocate, h⟩ := exists_of_bind h
  dsimp only at h
  split at h
  next => exact absurd h nofun
  next hplain =>
    obtain ⟨hname, hsame⟩ : ¬isDirectorySegment name = true ∧ path = withoutSlashes path := by
      simpa using hplain
    rw [← hsame] at hlocate
    rw [(placeOf_of_locate hlocate hname).1]
    split at h
    next => exact absurd h nofun
    next hentry => exact ⟨(Except.ok.inj h).symm, by simp, hentry⟩

/-- A directory that has been made is at a place on the way along its path where nothing was. -/
lemma exists_set_of_createDirectory (h : tree.createDirectory path = .ok new) :
    ∃ place ∈ tree.wayTo path, place ≠ [] ∧ tree.get? place = none ∧
      new = tree.set place .directory := by
  rw [createDirectory] at h
  obtain ⟨⟨place, name⟩, hlocate, h⟩ := exists_of_bind h
  dsimp only at h
  split at h
  next => exact absurd h nofun
  next hname =>
    split at h
    next => exact absurd h nofun
    next hentry =>
      exact ⟨place ++ [name], wayTo_withoutSlashes_subset (placeOf_of_locate hlocate hname).2,
        by simp, hentry, (Except.ok.inj h).symm⟩

/-- Writing a file adds the file. -/
theorem growsTo_of_write (h : tree.write path text = .ok new) :
    GrowsTo made [(path, text)] tree new := by
  obtain ⟨rfl, hne, hentry⟩ := eq_set_of_write h
  have hself := tree.get?_set_self (.file text) hne
  refine ⟨rfl, fun {place} hd => ?_, fun {place} hd => ?_, fun place => ?_⟩
  · have hplace : place ≠ tree.placeOf path := by
      rintro rfl
      exact hentry hd
    rw [get?_set_of_ne _ _ hplace, hd]
  · have hplace : place ≠ tree.placeOf path := by
      rintro rfl
      rw [hself] at hd
      exact absurd hd nofun
    rw [get?_set_of_ne _ _ hplace] at hd
    exact .inl hd
  · by_cases hplace : place = tree.placeOf path
    · subst hplace
      rw [textAt?, hself]
      simp [lastText?]
    · rw [textAt?, get?_set_of_ne _ _ hplace]
      simp [lastText?, textAt?, Ne.symm hplace]

/-- Making a directory where nothing was adds the directory. -/
lemma growsTo_set_directory (hmade : made place) (hne : place ≠ [])
    (hnone : tree.get? place = none) : GrowsTo made [] tree (tree.set place .directory) := by
  have hself := tree.get?_set_self .directory hne
  have hother {other : FilePlace} (h : other ≠ place) :
      (tree.set place .directory).get? other = tree.get? other := get?_set_of_ne _ _ h
  refine ⟨rfl, fun {other} hd => ?_, fun {other} hd => ?_, fun other => ?_⟩ <;>
    by_cases hplace : other = place
  · rw [hplace, hself]
  · rw [hother hplace, hd]
  · exact .inr (hplace ▸ hmade)
  · exact .inl ((hother hplace).symm.trans hd)
  · subst hplace
    rw [textAt?, textAt?, hself, hnone]
    rfl
  · rw [textAt?, textAt?, hother hplace]
    rfl

/-- Making a directory unless it is there adds directories at most. -/
lemma growsTo_of_ensureDirectory (hmade : ∀ place ∈ tree.wayTo path, made place)
    (h : tree.ensureDirectory path = .ok new) : GrowsTo made [] tree new := by
  rw [ensureDirectory] at h
  split at h
  next =>
    split at h
    next =>
      obtain rfl := Except.ok.inj h
      exact .refl
    next => exact absurd h nofun
  next hresult =>
    obtain ⟨place, hplace, hne, hnone, rfl⟩ := exists_set_of_createDirectory h
    exact growsTo_set_directory (hmade place hplace) hne hnone

/-- Making some directories adds directories at most. -/
lemma growsTo_of_ensureDirectories {paths : List String}
    (hmade : ∀ path ∈ paths, ∀ place ∈ tree.wayTo path, made place)
    (h : tree.ensureDirectories paths = .ok new) : GrowsTo made [] tree new := by
  induction paths generalizing tree new with
  | nil =>
    obtain rfl := Except.ok.inj h
    exact .refl
  | cons path around ih =>
    obtain ⟨hpath, haround⟩ := List.forall_mem_cons.mp hmade
    unfold ensureDirectories at h
    split at h
    next =>
      obtain ⟨mid, hmid, h⟩ := exists_of_bind h
      have hgrows := ih haround hmid
      refine hgrows.trans (growsTo_of_ensureDirectory (fun place hplace => hpath place ?_) h)
      rwa [wayTo_congr hgrows.workingDirectory] at hplace
    next => exact growsTo_of_ensureDirectory hpath h

/-- Making a directory and those around it adds directories on the way to it at most. -/
theorem growsTo_of_createDirectories (hmade : ∀ place ∈ tree.wayTo path, made place)
    (h : tree.createDirectories path = .ok new) : GrowsTo made [] tree new :=
  growsTo_of_ensureDirectories
    (fun _ haround place hplace => hmade place (wayTo_subset_of_mem_ancestors haround hplace)) h

/-! ## Reading -/

/-- If a file has been read, there is something at all places on the way to it. -/
lemma get?_ne_none_of_read (h : tree.read path = .ok text) :
    ∀ on ∈ tree.wayTo path, tree.get? on ≠ none := by
  rw [read] at h
  obtain ⟨⟨place, name⟩, hlocate, h⟩ := exists_of_bind h
  dsimp only at h
  split at h
  next => exact absurd h nofun
  next hname =>
    split at h
    next => exact absurd h nofun
    next => exact absurd h nofun
    next hentry =>
      intro on hon
      obtain ⟨before, hsegments, rfl, hdirectories⟩ := exists_of_locate hlocate
      rw [wayTo, hsegments, way_append, way, if_neg hname, way] at hon
      rcases List.mem_append.mp hon with hon | hon
      · rw [hdirectories on hon]
        exact Option.some_ne_none _
      · rw [List.mem_singleton.mp hon, hentry]
        exact Option.some_ne_none _

/-- Two trees have the same at a place, apart from the texts of files. -/
def SameKind (old new : FileTree) (place : FilePlace) : Prop :=
  (old.get? place = none ↔ new.get? place = none) ∧
    (old.get? place = some .directory ↔ new.get? place = some .directory)

/-- A walk only depends on what kinds of entries are on the way. -/
lemma walk_congr (h : ∀ on ∈ way place segments, SameKind old new on) :
    new.walk place segments = old.walk place segments := by
  induction segments generalizing place with
  | nil => rfl
  | cons segment rest ih =>
    rw [way] at h
    by_cases hname : isDirectorySegment segment = true
    · rw [if_pos hname] at h
      rw [walk_cons_of_isDirectorySegment hname, walk_cons_of_isDirectorySegment hname, ih h]
    · rw [if_neg hname] at h
      obtain ⟨⟨hnone, hdirectory⟩, hrest⟩ := List.forall_mem_cons.mp h
      rw [walk_cons_of_not hname, walk_cons_of_not hname]
      cases hold : old.get? (place ++ [segment]) with
      | none => rw [hnone.mp hold]
      | some entry =>
        cases entry with
        | directory => rw [hdirectory.mp hold]; exact ih hrest
        | file text =>
          cases hnew : new.get? (place ++ [segment]) with
          | none => exact absurd (hnone.mpr hnew) (by simp [hold])
          | some entry =>
            cases entry with
            | directory => exact absurd (hdirectory.mpr hnew) (by simp [hold])
            | file text' => rfl

/-- Reading only depends on the text at the end and on what kinds of entries are on the way. -/
lemma read_congr (hworking : new.workingDirectory = old.workingDirectory)
    (hway : ∀ on ∈ old.wayTo path, SameKind old new on)
    (htext : new.textAt? (old.placeOf path) = old.textAt? (old.placeOf path)) :
    new.read path = old.read path := by
  have hlocate : new.locate path = old.locate path := by
    have hbefore : ∀ on ∈ way (old.start path) (FilePath.segments path).dropLast,
        SameKind old new on := by
      intro on hon
      refine hway on ?_
      have hne : FilePath.segments path ≠ [] := segments_ne_nil
      rw [wayTo, ← List.dropLast_append_getLast hne, way_append]
      exact List.mem_append_left _ hon
    have hstart : new.start path = old.start path := by rw [start, start, hworking]
    rw [locate, locate, hstart, walk_congr hbefore]
  rw [read, read, hlocate]
  cases hlocated : old.locate path with
  | error error => rfl
  | ok located =>
    obtain ⟨place, name⟩ := located
    simp only [bind, Except.bind]
    split
    next => rfl
    next hname =>
      obtain ⟨hplace, hon⟩ := placeOf_of_locate hlocated hname
      obtain ⟨hnone, hdirectory⟩ := hway _ hon
      rw [hplace] at htext
      cases hold : old.get? (place ++ [name]) with
      | none => rw [hnone.mp hold]
      | some entry =>
        cases entry with
        | directory => rw [hdirectory.mp hold]
        | file text => rw [textAt?_eq_some_iff.mp (htext.trans (textAt?_eq_some_iff.mpr hold))]

/-- A place is within a directory, or on the way to it. -/
def IsAround (tree : FileTree) (directory : String) (place : FilePlace) : Prop :=
  tree.placeOf directory <+: place ∨ place ∈ tree.wayTo directory

/-- Whether a place is within a directory or on the way to it can be told. -/
instance (tree : FileTree) (directory : String) (place : FilePlace) :
    Decidable (tree.IsAround directory place) :=
  inferInstanceAs (Decidable (_ ∨ _))

/-- The path leads through something that is missing but may be made, since it is in the directory
or on the way to it. -/
def LeadsThroughMissing (tree : FileTree) (directory path : String) : Prop :=
  ∃ on ∈ tree.wayTo path, tree.IsAround directory on ∧ tree.get? on = none

/-- Whether a path leads through something that is missing can be told. -/
instance (tree : FileTree) (directory path : String) :
    Decidable (tree.LeadsThroughMissing directory path) :=
  inferInstanceAs (Decidable (∃ on ∈ tree.wayTo path, _))

/-- The path of a file that can be read leads through nothing that is missing. -/
lemma not_leadsThroughMissing_of_read {directory : String} (h : tree.read path = .ok text) :
    ¬tree.LeadsThroughMissing directory path :=
  fun ⟨on, hon, _, hnone⟩ => get?_ne_none_of_read h on hon hnone

/-- What is there stays of its kind. -/
lemma GrowsTo.sameKind (hgrows : GrowsTo made files old new) (h : old.get? place ≠ none) :
    SameKind old new place := by
  cases hold : old.get? place with
  | none => exact absurd hold h
  | some entry =>
    cases entry with
    | directory => simp [SameKind, hold, hgrows.directory hold]
    | file text =>
      have htext := hgrows.textAt? place
      rw [textAt?_eq_some_iff.mpr hold] at htext
      cases hlast : old.lastText? files place <;> rw [hlast] at htext <;>
        simp [SameKind, hold, textAt?_eq_some_iff.mp htext]

/-- Where nothing is written or made there is nothing still. -/
lemma GrowsTo.sameKind_of_not (hgrows : GrowsTo made files old new)
    (htext : new.textAt? place = old.textAt? place) (hmade : ¬made place) :
    SameKind old new place := by
  by_cases h : old.get? place = none
  · rw [textAt?_eq_none_iff.mpr (.inl h), textAt?_eq_none_iff] at htext
    rcases htext with hnone | hdirectory
    · simp [SameKind, h, hnone]
    · rcases hgrows.of_directory hdirectory with hold | hmade'
      · exact absurd (h.symm.trans hold) nofun
      · exact absurd hmade' hmade
  · exact hgrows.sameKind h

/-- What is outside of the directory that has been written to is read as before, unless its path
leads through something that was missing. -/
theorem GrowsTo.read_eq {directory : String}
    (hgrows : GrowsTo (old.IsAround directory) files old new)
    (hfiles : ∀ file ∈ files, old.placeOf directory <+: old.placeOf file.1)
    (houtside : ¬old.placeOf directory <+: old.placeOf path)
    (hthere : ¬old.LeadsThroughMissing directory path) : new.read path = old.read path := by
  have htext {place : FilePlace} (h : ¬old.placeOf directory <+: place) :
      new.textAt? place = old.textAt? place := by
    have hnone : old.lastText? files place = none :=
      lastText?_eq_none_iff.mpr fun file hfile hplace => h (hplace ▸ hfiles file hfile)
    rw [hgrows.textAt?, hnone, Option.none_or]
  refine read_congr hgrows.workingDirectory (fun on hon => ?_) (htext houtside)
  by_cases haround : old.IsAround directory on
  · exact hgrows.sameKind fun hnone => hthere ⟨on, hon, haround, hnone⟩
  · exact hgrows.sameKind_of_not (htext fun hwithin => haround (.inl hwithin)) haround

end ClientGen.FileTree
