/-!
# TOML values

A document is a table of named values. It is written in pieces: a header opens a table, an entry
adds to the open table, and a name of several parts reaches into tables inside. A draft is a
document of which some pieces have been read.

## Main definitions

* `Value` — values.
* `Table.insert?` — a table with one more entry.
* `Draft.openTable?`, `Draft.openItem?` — a draft after a header.

## Implementation notes

What may be added to a table depends on how it came to be, which its origin remembers. No value
is ever replaced: every operation that would do so has no result.
-/

set_option autoImplicit false

namespace ClientGen.Toml

/-- A value. -/
inductive Value where
  /-- A text. -/
  | text (value : String)
  /-- A number, a truth value or a date, as it is written. -/
  | literal (spelling : List Char)
  /-- An array. -/
  | array (items : List Value)
  /-- A table, its members in the order of the document. -/
  | table (members : List (String × Value))
  deriving Inhabited

/-- How a table came to be. -/
inductive Origin where
  /-- By its own header or its own braces. -/
  | declared
  /-- By the header of a table inside. -/
  | implied
  /-- By a name of several parts. -/
  | dotted
  deriving DecidableEq, Repr, Inhabited

/-- What stands under a name while a document is read. -/
inductive Entry where
  /-- A finished value. -/
  | value (value : Value)
  /-- A table that may be added to. -/
  | table (origin : Origin) (entries : List (String × Entry))
  /-- The tables of an array that has a header for each. -/
  | tables (items : List (List (String × Entry)))
  deriving Inhabited

mutual

/-- The value of an entry. -/
def Entry.toValue : Entry → Value
  | .value value => value
  | .table _ entries => .table (valuesOf entries)
  | .tables items => .array (tablesOf items)

/-- The members that some entries stand for. -/
def valuesOf : List (String × Entry) → List (String × Value)
  | [] => []
  | (name, entry) :: rest => (name, entry.toValue) :: valuesOf rest

/-- The values of the tables of an array. -/
def tablesOf : List (List (String × Entry)) → List Value
  | [] => []
  | entries :: rest => .table (valuesOf entries) :: tablesOf rest

end

/-! ## Tables -/

/-- A table that may be added to. -/
structure Table where
  /-- How it came to be. -/
  origin : Origin
  /-- What stands under its names, in the order of the document. -/
  entries : List (String × Entry)
  deriving Inhabited

/-- The entries with a name given an entry: in the place of the one it has, or at the end. -/
def setEntry (name : String) (entry : Entry) : List (String × Entry) → List (String × Entry)
  | [] => [(name, entry)]
  | (other, old) :: rest =>
    if other = name then (name, entry) :: rest else (other, old) :: setEntry name entry rest

namespace Table

/-- The entry of a name. -/
def get? (table : Table) (name : String) : Option Entry := table.entries.lookup name

/-- The table with a name given an entry. -/
def set (table : Table) (name : String) (entry : Entry) : Table :=
  { table with entries := setEntry name entry table.entries }

/-- The table without a name. -/
def erase (table : Table) (name : String) : Table :=
  { table with entries := table.entries.filter (·.1 ≠ name) }

/-- The table with a change made to the table that a path leads to. Tables that are missing on
the way come to be by `origin`. A path leads to the last table of an array of tables. A name of
several parts does not lead into a table that is declared. -/
def update? (origin : Origin) (change : Table → Option Table) :
    List String → Table → Option Table
  | [], table => change table
  | name :: path, table =>
    match table.get? name with
    | none => do
      let child ← update? origin change path ⟨origin, []⟩
      return table.set name (.table child.origin child.entries)
    | some (.table kind entries) => do
      if origin = .dotted ∧ kind = .declared then none
      let child ← update? origin change path ⟨kind, entries⟩
      return table.set name (.table child.origin child.entries)
    | some (.tables items) => do
      let child ← update? origin change path ⟨.declared, ← items.getLast?⟩
      return table.set name (.tables (items.dropLast ++ [child.entries]))
    | some (.value _) => none

/-- The table with a value under a name that is reached by a path. A table that is reached by a
path must have come to be by one. -/
def insert? (table : Table) (path : List String) (name : String) (value : Value) :
    Option Table :=
  let add (table : Table) : Option Table :=
    if (table.origin = .dotted) = (path = []) then none
    else if (table.get? name).isSome then none
    else some (table.set name (.value value))
  update? .dotted add path table

/-- The value of a table. -/
def toValue (table : Table) : Value := .table (valuesOf table.entries)

end Table

/-! ## Drafts -/

/-- Where the open table belongs. -/
inductive Place where
  /-- It is the whole document. -/
  | top
  /-- It stands under a name that is reached by a path. -/
  | member (path : List String) (name : String)
  /-- It is the next table of an array under a name that is reached by a path. -/
  | item (path : List String) (name : String)

/-- A document of which some pieces have been read. -/
structure Draft where
  /-- The document without the open table. -/
  root : Table := ⟨.declared, []⟩
  /-- The open table. -/
  current : Table := ⟨.declared, []⟩
  /-- Where the open table belongs. -/
  place : Place := .top

namespace Draft

/-- The document with the open table in its place. -/
def close? (draft : Draft) : Option Table :=
  match draft.place with
  | .top => some draft.current
  | .member path name =>
    let add (parent : Table) : Option Table :=
      some (parent.set name (.table draft.current.origin draft.current.entries))
    draft.root.update? .implied add path
  | .item path name =>
    let add (parent : Table) : Option Table :=
      match parent.get? name with
      | some (.tables items) =>
        some (parent.set name (.tables (items ++ [draft.current.entries])))
      | _ => none
    draft.root.update? .implied add path

/-- The table at the end of a path, as it is found or would come to be. -/
def parent? (root : Table) : List String → Option Table
  | [] => some root
  | name :: path =>
    match root.get? name with
    | none => some ⟨.implied, []⟩
    | some (.table origin entries) => parent? ⟨origin, entries⟩ path
    | some (.tables items) => items.getLast?.bind fun entries => parent? ⟨.declared, entries⟩ path
    | some (.value _) => none

/-- The draft after the header of a table. The table may be there already if it came to be by the
header of a table inside; it then moves to the end of the table around it. -/
def openTable? (draft : Draft) (path : List String) (name : String) : Option Draft := do
  let root ← draft.close?
  let parent ← parent? root path
  let entries ← match parent.get? name with
    | none => some []
    | some (.table .implied entries) => some entries
    | some _ => none
  let root ← root.update? .implied (fun parent => some (parent.erase name)) path
  return { root, current := ⟨.declared, entries⟩, place := .member path name }

/-- The draft after the header of the next table of an array. -/
def openItem? (draft : Draft) (path : List String) (name : String) : Option Draft := do
  let root ← draft.close?
  let add (parent : Table) : Option Table :=
    match parent.get? name with
    | none => some (parent.set name (.tables []))
    | some (.tables _) => some parent
    | some _ => none
  let root ← root.update? .implied add path
  return { root, current := ⟨.declared, []⟩, place := .item path name }

/-- The draft with a value in the open table. -/
def insert? (draft : Draft) (path : List String) (name : String) (value : Value) :
    Option Draft := do
  return { draft with current := ← draft.current.insert? path name value }

end Draft

end ClientGen.Toml
