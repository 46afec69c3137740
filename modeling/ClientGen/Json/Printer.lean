import ClientGen.Decimal.Shortest
import ClientGen.Json.Basic

/-!
# The text of a JSON value

## Main definitions

* `Json.quote` — a string between quotation marks. A quotation mark, a backslash and every
  control character below U+0020 are escaped, all other characters stand as they are.
* `Json.render` — a value on one line, without spaces.
* `Json.renderPretty` — a value with two spaces of indentation for each level.
-/

set_option autoImplicit false

namespace ClientGen.Json

/-! ## Strings and numbers -/

/-- A hexadecimal digit, in lower case. -/
def hexDigit (n : Nat) : Char := Nat.digitChar (n % 16)

/-- One character of a string as it is written between the quotation marks. -/
def escapeChar (c : Char) : List Char :=
  match c with
  | '"' => ['\\', '"']
  | '\\' => ['\\', '\\']
  | '\n' => ['\\', 'n']
  | '\r' => ['\\', 'r']
  | '\t' => ['\\', 't']
  | '\x08' => ['\\', 'b']
  | '\x0c' => ['\\', 'f']
  | c =>
    if c.toNat < 0x20 then ['\\', 'u', '0', '0', hexDigit (c.toNat / 16), hexDigit c.toNat]
    else [c]

/-- A string between quotation marks. -/
def quote (text : String) : String :=
  String.ofList ('"' :: (text.toList.flatMap escapeChar ++ ['"']))

/-- A number. -/
def Number.render : Number → String
  | .integer value => toString value
  | .real value => value.toText

/-- The characters that every value but arrays and objects is written with. -/
def renderScalar : Json → String
  | .null => "null"
  | .bool true => "true"
  | .bool false => "false"
  | .number value => value.render
  | .string value => quote value
  | _ => ""

/-! ## One line -/

mutual

/-- A value on one line, without spaces. -/
def render : Json → String
  | .array items => "[" ++ renderItems items ++ "]"
  | .object members => "\x7b" ++ renderMembers members ++ "\x7d"
  | scalar => renderScalar scalar

/-- The items of an array, separated by commas. -/
def renderItems : List Json → String
  | [] => ""
  | [item] => render item
  | item :: rest => render item ++ "," ++ renderItems rest

/-- The members of an object, separated by commas. -/
def renderMembers : List (String × Json) → String
  | [] => ""
  | [(name, value)] => quote name ++ ":" ++ render value
  | (name, value) :: rest => quote name ++ ":" ++ render value ++ "," ++ renderMembers rest

end

/-! ## Indented -/

/-- A new line with the indentation of a level. -/
def newline (level : Nat) : String :=
  String.ofList ('\n' :: List.replicate (2 * level) ' ')

mutual

/-- A value whose items and members stand on lines of their own, `level` deep in other values. -/
def renderAt (level : Nat) : Json → String
  | .array [] => "[]"
  | .array items => "[" ++ renderItemsAt (level + 1) items ++ newline level ++ "]"
  | .object [] => "\x7b\x7d"
  | .object members =>
    "\x7b" ++ renderMembersAt (level + 1) members ++ newline level ++ "\x7d"
  | scalar => renderScalar scalar

/-- The items of an array, each on a line of its own. -/
def renderItemsAt (level : Nat) : List Json → String
  | [] => ""
  | [item] => newline level ++ renderAt level item
  | item :: rest => newline level ++ renderAt level item ++ "," ++ renderItemsAt level rest

/-- The members of an object, each on a line of its own. -/
def renderMembersAt (level : Nat) : List (String × Json) → String
  | [] => ""
  | [(name, value)] => newline level ++ quote name ++ ": " ++ renderAt level value
  | (name, value) :: rest =>
    newline level ++ quote name ++ ": " ++ renderAt level value ++ "," ++
      renderMembersAt level rest

end

/-- A value with two spaces of indentation for each level. -/
def renderPretty (value : Json) : String := renderAt 0 value

end ClientGen.Json
