import ClientGen.Unicode.Case

/-!
# How a parameter is serialized

## Main definitions

* `Style` — the serialization styles.
* `Style.isDelimited` — the styles that send a list as one delimited text.
* `Style.ofCollectionFormat?` — the style that an older document calls a collection format.
-/

set_option autoImplicit false

namespace ClientGen

/-- A style in which a parameter is serialized. -/
inductive Style where
  /-- Path parameters introduced by semicolons. -/
  | matrix
  /-- Path parameters introduced by dots. -/
  | label
  /-- Form fields. -/
  | form
  /-- Values separated by commas. -/
  | simple
  /-- Values separated by spaces. -/
  | spaceDelimited
  /-- Values separated by vertical bars. -/
  | pipeDelimited
  /-- Nested fields in brackets. -/
  | deepObject
  deriving DecidableEq, Repr, Inhabited

namespace Style

/-- All styles. -/
def all : List Style :=
  [.matrix, .label, .form, .simple, .spaceDelimited, .pipeDelimited, .deepObject]

/-- The name of a style. -/
def name : Style → String
  | .matrix => "matrix"
  | .label => "label"
  | .form => "form"
  | .simple => "simple"
  | .spaceDelimited => "spaceDelimited"
  | .pipeDelimited => "pipeDelimited"
  | .deepObject => "deepObject"

/-- The style with a name. The case of the name does not matter. -/
def ofName? (text : String) : Option Style :=
  all.find? fun style => Unicode.toLower style.name = Unicode.toLower text

/-- Whether the style sends a list as one delimited text. -/
def isDelimited : Style → Bool
  | .simple | .spaceDelimited | .pipeDelimited => true
  | _ => false

/-- The style that means the same as a collection format. The other formats have no style. -/
def ofCollectionFormat? : String → Option Style
  | "csv" => some .simple
  | "ssv" => some .spaceDelimited
  | "pipes" => some .pipeDelimited
  | _ => none

end Style

end ClientGen
