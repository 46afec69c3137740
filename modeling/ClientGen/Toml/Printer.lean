import ClientGen.Json.Printer
import ClientGen.Toml.Parser

/-!
# Writing TOML

The lines of a table whose members are texts and lists of texts. A text is written in the first
of these forms that it fits without escapes: between double marks, between single marks, between
three double marks, between three single marks. If it fits none, it is escaped.

## Main definitions

* `Form`, `formOf` — how a text is written.
* `quoted` — a text between its quotation marks.
* `textEntry`, `listEntry` — the lines of a member of a table.
-/

set_option autoImplicit false

namespace ClientGen.Toml

/-! ## The form of a text -/

/-- How a text is written: between which marks, and whether between one or three of them. -/
inductive Form where
  /-- Between double quotation marks. -/
  | basic
  /-- Between single quotation marks. -/
  | literal
  /-- Between three double quotation marks. -/
  | multiBasic
  /-- Between three single quotation marks. -/
  | multiLiteral
  deriving DecidableEq, Repr

/-- The length of the longest row of a character in a text, when the text comes after `current`
of them and rows of `longest` have been seen. -/
def longestRow (mark : Char) : Nat → Nat → List Char → Nat
  | _, longest, [] => longest
  | current, longest, c :: rest =>
    if c = mark then longestRow mark (current + 1) (max longest (current + 1)) rest
    else longestRow mark 0 longest rest

/-- Whether a text holds a character that can only be written as an escape. -/
def needsEscapes (text : List Char) : Bool :=
  text.any fun c => c ≠ '\n' && !isPrintable c

/-- How a text is written. -/
def formOf (text : List Char) : Form :=
  let singles := longestRow '\'' 0 0 text
  let doubles := longestRow '"' 0 0 text
  let isLong := text.contains '\n'
  let hasBackslash := text.contains '\\'
  if needsEscapes text then if isLong then .multiBasic else .basic
  else if !hasBackslash && doubles = 0 && !isLong then .basic
  else if singles = 0 && !isLong then .literal
  else if !hasBackslash && doubles ≤ 2 then .multiBasic
  else if singles ≤ 2 then .multiLiteral
  else if isLong then .multiBasic
  else .basic

/-- The marks at both ends of a text. -/
def Form.mark : Form → String
  | .basic => "\""
  | .literal => "'"
  | .multiBasic => "\"\"\""
  | .multiLiteral => "'''"

/-! ## Texts -/

/-- The hexadecimal digits of a character below U+0080, four of them and in upper case. -/
def codeDigits (c : Char) : List Char :=
  ['0', '0', (Json.hexDigit (c.toNat / 16)).toUpper, (Json.hexDigit c.toNat).toUpper]

/-- The escape of a character that needs one. Line feeds need none in a text of several lines. -/
def escapeOf? (isLong : Bool) (c : Char) : Option (List Char) :=
  match c with
  | '\x08' => some ['\\', 'b']
  | '\t' => some ['\\', 't']
  | '\n' => if isLong then none else some ['\\', 'n']
  | '\x0c' => some ['\\', 'f']
  | '\r' => some ['\\', 'r']
  | '\\' => some ['\\', '\\']
  | c => if isPrintable c then none else some ('\\' :: 'u' :: codeDigits c)

/-- A text with its escapes, when `marks` double quotation marks stand before it. One mark in a
row has to be escaped in a text of one line, and every third one in a text of several. -/
def escaped (isLong : Bool) : Nat → List Char → List Char
  | _, [] => []
  | marks, c :: rest =>
    if c = '"' then
      if marks < (if isLong then 2 else 0) then c :: escaped isLong (marks + 1) rest
      else '\\' :: c :: escaped isLong 0 rest
    else match escapeOf? isLong c with
      | some image => image ++ escaped isLong 0 rest
      | none => c :: escaped isLong 0 rest

/-- A text between its quotation marks. A text with line feeds begins in a new line. -/
def quoted (text : String) : String :=
  let chars := text.toList
  let form := formOf chars
  let isLong := form = .multiBasic || form = .multiLiteral
  let body := if form = .basic || form = .multiBasic then escaped isLong 0 chars else chars
  form.mark ++ (if isLong && chars.contains '\n' then "\n" else "") ++ String.ofList body ++
    form.mark

/-! ## Members of a table -/

/-- The line of a member that is a text. -/
def textEntry (name text : String) : String := name ++ " = " ++ quoted text ++ "\n"

/-- The lines of a member that is a list of texts. Several texts stand on lines of their own. -/
def listEntry (name : String) (texts : List String) : String :=
  let items := match texts with
    | [] => "[]"
    | [text] => "[" ++ quoted text ++ "]"
    | texts => "[\n" ++ String.join (texts.map fun text => "    " ++ quoted text ++ ",\n") ++ "]"
  name ++ " = " ++ items ++ "\n"

end ClientGen.Toml
