import ClientGen.Text.Basic

/-!
# Paths of files

A path is a text whose segments slashes separate. Empty segments and single dots do not count,
apart from a dot at the beginning of a path that is not absolute.

## Main definitions

* `FilePath.extension?` — the extension of the name that a path ends with.
* `FilePath.join` — a path that goes on from another one.
* `FilePath.parent?` — the path without its last segment.
* `FilePath.ancestors` — a path and the paths around it.
-/

set_option autoImplicit false

namespace ClientGen.FilePath

/-- The segments of a path, those included that do not count. -/
def segments (path : String) : List String := Text.split '/' path

/-- Whether a path begins at the root of all files. -/
def isAbsolute (path : String) : Bool := Text.beginsWith "/" path

/-- The name that a path ends with. -/
def name? (path : String) : Option String :=
  ((segments path).filter fun segment => segment ≠ "" && segment ≠ ".").getLast?.filter
    (· ≠ "..")

/-- The extension of the name that a path ends with: what follows the last dot, unless only that
dot stands before it. -/
def extension? (path : String) : Option String := do
  let name ← name? path
  let parts := Text.split '.' name
  let before := parts.dropLast
  if before.isEmpty || before = [""] then none else parts.getLast?

/-- A path that goes on from another one. An absolute path replaces it. -/
def join (path next : String) : String :=
  if isAbsolute next then next
  else if path.isEmpty || path.toList.getLast? = some '/' then path ++ next
  else path ++ "/" ++ next

/-- The segments of a path, last one first, without those at the end that do not count. -/
def trimmed : List String → List String
  | [] => []
  | [first] => [first]
  | last :: rest => if last = "" || last = "." then trimmed rest else last :: rest

/-- The path with the given segments, last one first. A path with nothing but an empty segment
before its first slash begins at the root. -/
def ofSegments (segments : List String) : String :=
  if segments = [""] then "/" else "/".intercalate segments.reverse

/-- The path without its last segment that counts, if it has any. -/
def parent? (path : String) : Option String :=
  match trimmed (segments path).reverse with
  | [] => none
  | [first] => if first = "" then none else some ""
  | _ :: rest => some (ofSegments (trimmed rest))

/-- The paths around a path, innermost first; `fuel` bounds their number. -/
def ancestorsFrom : Nat → String → List String
  | 0, _ => []
  | fuel + 1, path =>
    match parent? path with
    | none => []
    | some parent => path :: ancestorsFrom fuel parent

/-- A path and the paths around it, innermost first, without the root and the empty path. -/
def ancestors (path : String) : List String :=
  (ancestorsFrom (segments path).length path).filter (!·.isEmpty)

end ClientGen.FilePath
