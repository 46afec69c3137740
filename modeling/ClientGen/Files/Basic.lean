import ClientGen.Failure
import ClientGen.Files.Path

/-!
# Files

Commands read and write files by path. Where the files are is not their concern: they may be those
of the computer or those of a tree that is a value.

## Main definitions

* `FileAccess` — what a command does with files.
* `FileTree` — directories and files as a value.
* `FileTree.read`, `FileTree.write`, `FileTree.createDirectories` — the same on a value.

## Main results

* `FileTree.get?_set_self`, `FileTree.get?_set_of_ne` — what is there after a file has been set.
-/

set_option autoImplicit false

namespace ClientGen

/-- What a command does with files. -/
class FileAccess (m : Type → Type) where
  /-- The text of a file. -/
  read : String → m (Except FileError String)
  /-- Makes or replaces a file. -/
  write : String → String → m (Except FileError Unit)
  /-- Makes a directory and those around it, unless they are there. -/
  createDirectories : String → m (Except FileError Unit)

/-- What stands in a directory. -/
inductive FileEntry where
  /-- A directory. -/
  | directory
  /-- A file with its text. -/
  | file (text : String)
  deriving DecidableEq, Repr, Inhabited

/-- A place: the names on the way from the root. -/
abbrev FilePlace := List String

/-- Directories and files, by place. -/
structure FileTree where
  /-- What is there. A place that was set again counts by its first entry. -/
  entries : List (FilePlace × FileEntry) := []
  /-- The directory that paths go on from. -/
  workingDirectory : FilePlace := []
  deriving Inhabited

namespace FileTree

/-! ## Places -/

/-- What is at a place. The root is a directory. -/
def get? (tree : FileTree) (place : FilePlace) : Option FileEntry :=
  if place = [] then some .directory else tree.entries.lookup place

/-- The tree with an entry at a place. -/
def set (tree : FileTree) (place : FilePlace) (entry : FileEntry) : FileTree :=
  { tree with entries := (place, entry) :: tree.entries }

/-- What has been set is there. -/
theorem get?_set_self (tree : FileTree) {place : FilePlace} (entry : FileEntry)
    (h : place ≠ []) : (tree.set place entry).get? place = some entry := by
  simp [get?, set, h]

/-- Other places are as they were. -/
theorem get?_set_of_ne (tree : FileTree) {place other : FilePlace} (entry : FileEntry)
    (h : other ≠ place) : (tree.set place entry).get? other = tree.get? other := by
  have h' : (other == place) = false := by simpa using h
  simp [get?, set, List.lookup_cons, h']

/-- The directory that some segments lead to. -/
def walk (tree : FileTree) : FilePlace → List String → Except FileError FilePlace
  | place, [] => .ok place
  | place, segment :: rest =>
    if segment = "" || segment = "." then tree.walk place rest
    else if segment = ".." then tree.walk place.dropLast rest
    else
      let next := place ++ [segment]
      match tree.get? next with
      | none => .error .notFound
      | some (.file _) => .error .notDirectory
      | some .directory => tree.walk next rest

/-- The place that a path begins at. -/
def start (tree : FileTree) (path : String) : FilePlace :=
  if FilePath.isAbsolute path then [] else tree.workingDirectory

/-- The directory and the last segment that a path leads to. -/
def locate (tree : FileTree) (path : String) : Except FileError (FilePlace × String) :=
  let segments := FilePath.segments path
  if path.isEmpty then .error .notFound
  else (tree.walk (tree.start path) segments.dropLast).map fun place =>
    (place, segments.getLast?.getD "")

/-- Whether a last segment names no entry of its directory but a directory itself. -/
def isDirectorySegment (segment : String) : Bool := ["", ".", ".."].contains segment

/-! ## Access -/

/-- The text of a file. -/
def read (tree : FileTree) (path : String) : Except FileError String := do
  let (place, name) ← tree.locate path
  if isDirectorySegment name then throw .isDirectory
  match tree.get? (place ++ [name]) with
  | none => throw .notFound
  | some .directory => throw .isDirectory
  | some (.file text) => return text

/-- A path without the slashes that end it, unless it is the root. -/
def withoutSlashes (path : String) : String :=
  let trimmed := (path.toList.reverse.dropWhile (· = '/')).reverse
  if trimmed.isEmpty then path else String.ofList trimmed

/-- The tree with a file made or replaced. -/
def write (tree : FileTree) (path text : String) : Except FileError FileTree := do
  let (place, name) ← tree.locate (withoutSlashes path)
  if isDirectorySegment name || path ≠ withoutSlashes path then throw .isDirectory
  match tree.get? (place ++ [name]) with
  | some .directory => throw .isDirectory
  | _ => return tree.set (place ++ [name]) (.file text)

/-- The tree with a directory made. -/
def createDirectory (tree : FileTree) (path : String) : Except FileError FileTree := do
  let (place, name) ← tree.locate (withoutSlashes path)
  if isDirectorySegment name then throw .alreadyExists
  match tree.get? (place ++ [name]) with
  | some _ => throw .alreadyExists
  | none => return tree.set (place ++ [name]) .directory

/-- Whether a path leads to a directory. -/
def isDirectory (tree : FileTree) (path : String) : Bool :=
  match tree.walk (tree.start path) (FilePath.segments path) with
  | .ok _ => true
  | .error _ => false

/-- The tree with a directory made unless it is there. -/
def ensureDirectory (tree : FileTree) (path : String) : Except FileError FileTree :=
  match tree.createDirectory path with
  | .error .alreadyExists => if tree.isDirectory path then .ok tree else .error .alreadyExists
  | result => result

/-- The tree with the first of some directories made unless it is there; the others are those
around it, innermost first. -/
def ensureDirectories (tree : FileTree) : List String → Except FileError FileTree
  | [] => .ok tree
  | path :: around =>
    match tree.ensureDirectory path with
    | .error .notFound =>
      (tree.ensureDirectories around).bind fun tree => tree.ensureDirectory path
    | result => result

/-- The tree with a directory and those around it made, unless they are there. -/
def createDirectories (tree : FileTree) (path : String) : Except FileError FileTree :=
  tree.ensureDirectories (FilePath.ancestors path)

/-- A change of a tree as a step: the tree stays as it is if the change is refused. -/
def step (change : FileTree → Except FileError FileTree) :
    StateM FileTree (Except FileError Unit) :=
  fun tree =>
    match change tree with
    | .ok tree => (.ok (), tree)
    | .error error => (.error error, tree)

/-- Commands may run on trees. -/
instance : FileAccess (StateM FileTree) where
  read path tree := (tree.read path, tree)
  write path text := step (·.write path text)
  createDirectories path := step (·.createDirectories path)

end FileTree

end ClientGen
