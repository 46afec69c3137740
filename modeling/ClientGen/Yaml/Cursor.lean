/-!
# Places in a YAML text

A cursor is a place in a text: the characters that follow, and the line and column that the place
has. Lines end in a line feed, a carriage return, both together, or one of three further
characters.

## Main definitions

* `Cursor` — places.
* `isBreak`, `isBlank`, `isWordChar` — the characters that decide where things end.
* `Cursor.readBreak` — the end of a line, as it counts for the text of a scalar.
* `Cursor.skipSpace` — what follows the white space and the comments of a line.
-/

set_option autoImplicit false

namespace ClientGen.Yaml

/-! ## Characters -/

/-- The characters that end a line. -/
def isBreak (c : Char) : Bool :=
  c = '\n' || c = '\r' || c = '\x85' || c = '\u2028' || c = '\u2029'

/-- The characters that separate words in a line. -/
def isBlank (c : Char) : Bool := c = ' ' || c = '\t'

/-- The characters that separate words. -/
def isSpace (c : Char) : Bool := isBlank c || isBreak c

/-- The characters of names: ASCII letters and digits, `-` and `_`. -/
def isWordChar (c : Char) : Bool := c.isAlphanum || c = '-' || c = '_'

/-- The characters that a text may hold. -/
def isAllowed (c : Char) : Bool :=
  let n := c.toNat
  n = 0x9 || n = 0xA || n = 0xD || n = 0x85 || (0x20 ≤ n && n ≤ 0x7E) ||
    (0xA0 ≤ n && n ≤ 0xD7FF) || (0xE000 ≤ n && n ≤ 0xFFFD) || 0x10000 ≤ n

/-- Whether a word ends before the given text. -/
def endsWord (text : List Char) : Bool := text.head?.all isSpace

/-- Whether a line ends before the given text. -/
def endsLine (text : List Char) : Bool := text.head?.all isBreak

/-! ## Cursors -/

/-- A place in a text. -/
structure Cursor where
  /-- The characters that follow. -/
  rest : List Char
  /-- The number of characters before the place. -/
  index : Nat := 0
  /-- The number of lines before the place. -/
  line : Nat := 0
  /-- The number of characters before the place in its line. -/
  column : Nat := 0
  deriving Inhabited

namespace Cursor

/-- The place after some characters of the line. -/
def advance (cursor : Cursor) (count : Nat) : Cursor :=
  { cursor with
    rest := cursor.rest.drop count
    index := cursor.index + count
    column := cursor.column + count }

/-- The place at the beginning of the next line, when `count` characters end this one. -/
def nextLine (cursor : Cursor) (count : Nat) : Cursor :=
  { rest := cursor.rest.drop count
    index := cursor.index + count
    line := cursor.line + 1
    column := 0 }

/-- The characters that stand for the end of a line, and the place after it. Nothing is read if
the line does not end. -/
def readBreak (cursor : Cursor) : List Char × Cursor :=
  match cursor.rest with
  | '\r' :: '\n' :: _ => (['\n'], cursor.nextLine 2)
  | c :: _ =>
    if c = '\u2028' || c = '\u2029' then ([c], cursor.nextLine 1)
    else if isBreak c then (['\n'], cursor.nextLine 1)
    else ([], cursor)
  | [] => ([], cursor)

/-- The characters up to the first one that a condition does not hold of, none of which ends a
line, and the place after them. -/
def readWhile (cursor : Cursor) (condition : Char → Bool) : List Char × Cursor :=
  let word := cursor.rest.takeWhile condition
  (word, cursor.advance word.length)

/-- The place after the characters up to the first one that a condition does not hold of. -/
def skipWhile (cursor : Cursor) (condition : Char → Bool) : Cursor :=
  (cursor.readWhile condition).2

/-- The place at the end of the line. -/
def skipLine (cursor : Cursor) : Cursor := cursor.skipWhile (!isBreak ·)

/-- The place after a comment, if there is one. -/
def skipComment (cursor : Cursor) : Cursor :=
  if cursor.rest.head? = some '#' then cursor.skipLine else cursor

/-- Whether the line begins with a mark of three of the given characters. -/
def atMark (cursor : Cursor) (c : Char) : Bool :=
  cursor.column = 0 && [c, c, c].isPrefixOf cursor.rest && endsWord (cursor.rest.drop 3)

/-- Whether the line begins with a mark that begins or ends a document. -/
def atDocumentMark (cursor : Cursor) : Bool := cursor.atMark '-' || cursor.atMark '.'

end Cursor

end ClientGen.Yaml
