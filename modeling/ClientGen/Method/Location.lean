import ClientGen.Unicode.Case

/-!
# Where a parameter travels

## Main definitions

* `Location` — the parts of a request that hold parameters.
* `Location.all` — the locations in the order in which parameters are listed.
* `Location.ofName?` — the location with a name, whatever its case.
-/

set_option autoImplicit false

namespace ClientGen

/-- The part of a request that holds a parameter. -/
inductive Location where
  /-- A segment of the path. -/
  | path
  /-- The body. -/
  | body
  /-- The query. -/
  | query
  /-- A header. -/
  | header
  /-- A cookie. -/
  | cookie
  deriving DecidableEq, Repr, Inhabited

namespace Location

/-- The locations in the order in which the parameters of a method are listed. -/
def all : List Location := [.path, .body, .query, .header, .cookie]

/-- The name of a location. -/
def name : Location → String
  | .path => "path"
  | .body => "body"
  | .query => "query"
  | .header => "header"
  | .cookie => "cookie"

/-- The location with a name. The case of the name does not matter. -/
def ofName? (text : String) : Option Location :=
  all.find? (·.name = Unicode.toLower text)

/-- Every location is listed. -/
theorem mem_all (location : Location) : location ∈ all := by cases location <;> simp [all]

/-- No location is listed twice. -/
theorem nodup_all : all.Nodup := by decide

end Location

end ClientGen
