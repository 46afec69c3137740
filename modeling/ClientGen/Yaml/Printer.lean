import ClientGen.Json.Printer
import ClientGen.Yaml.Tree

/-!
# Writing YAML

The lines of a mapping whose values are texts and lists of texts. A text is written plainly if it
then reads as the same text, and else between quotation marks or, if it has several lines, as a
block.

## Main definitions

* `Form`, `formOf` — how a text is written.
* `scalar` — a text as it stands after a colon or a dash.
* `textEntry`, `listEntry`, `nullEntry` — the lines of a member of a mapping.
-/

set_option autoImplicit false

namespace ClientGen.Yaml

/-! ## The form of a text -/

/-- The characters that may stand unescaped. -/
def isPrintable (c : Char) : Bool :=
  let n := c.toNat
  n = 0xA || (0x20 ≤ n && n ≤ 0x7E) || (0xA0 ≤ n && n ≤ 0xFFFD && n ≠ 0xFEFF) || 0x10000 ≤ n

/-- Whether the first character of a text has a meaning of its own there. -/
def beginsIndicator : List Char → Bool
  | [] => false
  | c :: rest =>
    "#,[]\x7b\x7d&*!|>'\"%@\x60".toList.contains c ||
      ("?:-".toList.contains c && endsWord rest) ||
      "---".toList.isPrefixOf (c :: rest) || "...".toList.isPrefixOf (c :: rest)

/-- Whether a text holds the end of a key or the beginning of a comment; the flag tells whether a
space stands before it. -/
def holdsIndicator : Bool → List Char → Bool
  | _, [] => false
  | afterSpace, c :: rest =>
    (c = ':' && endsWord rest) || (afterSpace && c = '#') || holdsIndicator (isSpace c) rest

/-- Whether two neighbours in a text satisfy two conditions. -/
def hasNeighbours (first second : Char → Bool) : List Char → Bool
  | a :: b :: rest => (first a && second b) || hasNeighbours first second (b :: rest)
  | _ => false

/-- Whether a text holds a character that has to be escaped, or a space before the end of a
line, which would be lost. -/
def needsEscapes (text : List Char) : Bool :=
  text.any (!isPrintable ·) || hasNeighbours (· = ' ') isBreak text

/-- Whether a text may stand between single quotation marks. -/
def allowsSingle (text : List Char) : Bool :=
  !needsEscapes text && !hasNeighbours isBreak (· = ' ') text

/-- Whether a text may be written as a block. -/
def allowsBlock (text : List Char) : Bool :=
  !needsEscapes text && text.getLast? ≠ some ' '

/-- Whether a text may be written plainly. -/
def allowsPlain (text : List Char) : Bool :=
  allowsSingle text && !text.any isBreak && text.head? ≠ some ' ' && text.getLast? ≠ some ' ' &&
    !beginsIndicator text && !holdsIndicator true text

/-- How a text is written. -/
inductive Form where
  /-- As it is. -/
  | plain
  /-- Between single quotation marks. -/
  | single
  /-- Between double quotation marks. -/
  | double
  /-- As a block of lines. -/
  | block
  deriving DecidableEq, Repr

/-- Whether a text would be read as something else, or might be taken for a number. -/
def isAmbiguous (text : String) : Bool :=
  plainValue? text ≠ some (.text text) || isPadded text.toList

/-- How a text is written. -/
def formOf (text : String) : Form :=
  let chars := text.toList
  if chars.contains '\n' then if allowsBlock chars then .block else .double
  else if !isAmbiguous text && allowsPlain chars then .plain
  else if allowsSingle chars then .single
  else .double

/-! ## Texts -/

/-- The indentation of what belongs to a member or an item. -/
def indentation : List Char := [' ', ' ']

/-- The characters of a text between single quotation marks; the flag tells whether a line
begins. -/
def singleQuoted : Bool → List Char → List Char
  | newLine, [] => if newLine then indentation else []
  | newLine, c :: rest =>
    if isBreak c then c :: singleQuoted true rest
    else
      (if newLine then indentation else []) ++ (if c = '\'' then [c, c] else [c]) ++
        singleQuoted false rest

/-- The hexadecimal digits of a number, `count` of them and in upper case. -/
def hexDigits : Nat → Nat → List Char
  | 0, _ => []
  | count + 1, n => hexDigits count (n / 16) ++ [(Json.hexDigit n).toUpper]

/-- The letter of the escape that a character has for itself. -/
def escapeLetter? : Char → Option Char
  | '\x00' => some '0'
  | '\x07' => some 'a'
  | '\x08' => some 'b'
  | '\t' => some 't'
  | '\n' => some 'n'
  | '\x0b' => some 'v'
  | '\x0c' => some 'f'
  | '\r' => some 'r'
  | '\x1b' => some 'e'
  | '"' => some '"'
  | '\\' => some '\\'
  | '\x85' => some 'N'
  | '\u2028' => some 'L'
  | '\u2029' => some 'P'
  | _ => none

/-- A character as it stands between double quotation marks. -/
def escaped (c : Char) : List Char :=
  match escapeLetter? c with
  | some letter => ['\\', letter]
  | none =>
    if isPrintable c then [c]
    else if c.toNat ≤ 0xFF then '\\' :: 'x' :: hexDigits 2 c.toNat
    else '\\' :: 'u' :: hexDigits 4 c.toNat

/-- The indicator of a block: its indentation, if that cannot be told from the first line, and
what becomes of the ends of lines after it. -/
def blockIndicator (text : List Char) : List Char :=
  let indent := if text.head?.any (fun c => c = ' ' || isBreak c) then ['2'] else []
  let chomping := match text.reverse with
    | [] => ['-']
    | [last] => if isBreak last then ['+'] else ['-']
    | last :: previous :: _ =>
      if !isBreak last then ['-'] else if isBreak previous then ['+'] else []
  '|' :: indent ++ chomping

/-- The lines of a block; the flag tells whether a line begins. -/
def blockLines : Bool → List Char → List Char
  | _, [] => []
  | newLine, c :: rest =>
    if isBreak c then c :: blockLines true rest
    else (if newLine then indentation else []) ++ c :: blockLines false rest

/-- A text as it stands after a colon or a dash, up to the end of its last line. -/
def scalar (text : String) : String :=
  let chars := text.toList
  match formOf text with
  | .plain => text ++ "\n"
  | .single => String.ofList ('\'' :: singleQuoted false chars) ++ "'\n"
  | .double => String.ofList ('"' :: chars.flatMap escaped) ++ "\"\n"
  | .block =>
    String.ofList (blockIndicator chars ++ '\n' :: blockLines true chars) ++
      if chars.getLast?.any isBreak then "" else "\n"

/-! ## Members of a mapping -/

/-- The lines of a member that is a text. -/
def textEntry (name text : String) : String := name ++ ": " ++ scalar text

/-- The line of a member that is missing. -/
def nullEntry (name : String) : String := name ++ ": null\n"

/-- The lines of a member that is a list of texts. -/
def listEntry (name : String) (texts : List String) : String :=
  if texts.isEmpty then name ++ ": []\n"
  else name ++ ":\n" ++ String.join (texts.map fun text => "- " ++ scalar text)

end ClientGen.Yaml
