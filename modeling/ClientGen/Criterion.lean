import ClientGen.Failure
import ClientGen.Unicode.Case

/-!
# Search criteria

## Main definitions

* `Criterion` — what a search looks at.
* `Criterion.ofName?` — the criterion with a name, whatever its case.
* `Criterion.ofNames` — the criteria with the names of a list.
-/

set_option autoImplicit false

namespace ClientGen

/-- What a search looks at. -/
inductive Criterion where
  /-- Methods. -/
  | method
  /-- Types. -/
  | type
  /-- Names. -/
  | name
  /-- Descriptions. -/
  | description
  /-- The parameters of methods. -/
  | argument
  /-- The properties of types. -/
  | property
  /-- Titles. -/
  | title
  /-- The kinds of activity that calls are counted as. -/
  | activityType
  /-- The status and whether something is deprecated. -/
  | status
  /-- The responses of methods. -/
  | response
  deriving DecidableEq, Repr, Inhabited

namespace Criterion

/-- All criteria, in order. -/
def all : List Criterion :=
  [.method, .type, .name, .description, .argument, .property, .title, .activityType, .status,
    .response]

/-- The name of a criterion. -/
def label : Criterion → String
  | .method => "method"
  | .type => "type"
  | .name => "name"
  | .description => "description"
  | .argument => "argument"
  | .property => "property"
  | .title => "title"
  | .activityType => "activityType"
  | .status => "status"
  | .response => "response"

/-- The criterion with a name. The case of the name does not matter, and an underscore may
stand between two words. -/
def ofName? (text : String) : Option Criterion :=
  let name := Unicode.toLower text
  if name = "activity_type" then some .activityType
  else all.find? fun criterion => Unicode.toLower criterion.label = name

/-- The criteria with the names of a list, or the first of the names that is none. -/
def ofNames (names : List String) : Except UnknownName (List Criterion) :=
  names.mapM fun name =>
    match ofName? name with
    | some criterion => .ok criterion
    | none => .error (.criterion name)

/-- The names of some criteria, in order and without repetition. -/
def labels (criteria : List Criterion) : List String :=
  (all.filter criteria.contains).map label

end Criterion

end ClientGen
