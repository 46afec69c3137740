import ClientGen.Json.Parser
import ClientGen.Yaml.Cursor

/-!
# The text of a YAML scalar

A scalar is written plainly, between quotation marks, or as a block of lines. Within a scalar the
end of a line counts as a space, unless blank lines follow, which then count as line feeds, or
the lines of a block are kept as they are.

## Main definitions

* `Gap` — the white space between two words of a scalar, and the text it stands for.
* `readPlain`, `readQuoted`, `readBlock` — the text of a scalar and the place after it.

## Implementation notes

Each reader goes through the words of a scalar, of which there are no more than characters. It
gives nothing if the scalar is not well formed.
-/

set_option autoImplicit false

namespace ClientGen.Yaml

/-! ## Gaps -/

/-- The white space between two words of a scalar. -/
structure Gap where
  /-- The blanks before the end of the first line. -/
  blanks : List Char := []
  /-- Whether a line ends. -/
  hasBreak : Bool := false
  /-- The end of the first line; empty if it is escaped. -/
  firstBreak : List Char := []
  /-- The ends of the blank lines after it. -/
  moreBreaks : List Char := []
  deriving Inhabited

namespace Gap

/-- The text that a gap stands for. -/
def text (gap : Gap) : List Char :=
  if !gap.hasBreak then gap.blanks
  else if gap.firstBreak = ['\n'] then
    if gap.moreBreaks.isEmpty then [' '] else gap.moreBreaks
  else gap.firstBreak ++ gap.moreBreaks

/-- The gap at a place that begins with the given one. In a new line no tab may stand before the
column `indent`. -/
def readFrom (indent : Int) : Nat → Gap → Cursor → Option (Gap × Cursor)
  | 0, gap, cursor => some (gap, cursor)
  | fuel + 1, gap, cursor =>
    match cursor.rest with
    | [] => some (gap, cursor)
    | c :: _ =>
      if isBlank c then
        if gap.hasBreak then
          if c = '\t' && cursor.column < indent then none
          else readFrom indent fuel gap (cursor.advance 1)
        else readFrom indent fuel { gap with blanks := gap.blanks ++ [c] } (cursor.advance 1)
      else if isBreak c then
        let (lineEnd, next) := cursor.readBreak
        let gap :=
          if gap.hasBreak then { gap with moreBreaks := gap.moreBreaks ++ lineEnd }
          else { blanks := [], hasBreak := true, firstBreak := lineEnd }
        readFrom indent fuel gap next
      else some (gap, cursor)

/-- The gap at a place that begins with the given one. -/
def read (indent : Int) (gap : Gap) (cursor : Cursor) : Option (Gap × Cursor) :=
  readFrom indent cursor.rest.length gap cursor

end Gap

/-! ## Plain scalars -/

/-- The brackets and the comma that end a plain scalar between brackets. -/
def isFlowIndicator (c : Char) : Bool :=
  c = ',' || c = '[' || c = ']' || c = '\x7b' || c = '\x7d'

/-- The word of a plain scalar that a text begins with. Between brackets a colon may not stand
before another indicator. -/
def plainWord? (inFlow : Bool) : List Char → Option (List Char)
  | [] => some []
  | c :: rest =>
    if isSpace c then some []
    else if inFlow && c = ':' && rest.head?.any (fun d => isFlowIndicator d || d = '?') then none
    else if (c = ':' && endsWord rest) || (inFlow && isFlowIndicator c) then some []
    else (plainWord? inFlow rest).map (c :: ·)

/-- The text of a plain scalar and the place after it; the last component tells whether the
place is in another line than the last word. -/
def readPlainFrom (inFlow : Bool) (indent : Int) : Nat → List Char → Gap → Cursor →
    Option (List Char × Cursor × Bool)
  | 0, _, _, _ => none
  | fuel + 1, text, gap, cursor => do
    if cursor.atDocumentMark || cursor.rest.head? = some '#' then
      return (text, cursor, gap.hasBreak)
    let word ← plainWord? inFlow cursor.rest
    let cursor := cursor.advance word.length
    let (text, gap) := if word.isEmpty then (text, gap) else (text ++ gap.text ++ word, {})
    if !cursor.rest.head?.any isSpace then return (text, cursor, gap.hasBreak)
    let (gap, cursor) ← gap.read indent cursor
    if !inFlow && cursor.column < indent then return (text, cursor, gap.hasBreak)
    readPlainFrom inFlow indent fuel text gap cursor

/-- The text of a plain scalar and the place after it; the last component tells whether the
place is in another line than the last word. Outside of brackets the scalar ends with a line that
begins before the column `indent`. -/
def readPlain (inFlow : Bool) (indent : Int) (cursor : Cursor) :
    Option (List Char × Cursor × Bool) :=
  readPlainFrom inFlow indent (cursor.rest.length + 1) [] {} cursor

/-! ## Quoted scalars -/

/-- The character that an escape of one character stands for. -/
def simpleEscape? : Char → Option Char
  | '0' => some '\x00'
  | 'a' => some '\x07'
  | 'b' => some '\x08'
  | 't' | '\t' => some '\t'
  | 'n' => some '\n'
  | 'v' => some '\x0b'
  | 'f' => some '\x0c'
  | 'r' => some '\r'
  | 'e' => some '\x1b'
  | ' ' => some ' '
  | '"' => some '"'
  | '/' => some '/'
  | '\\' => some '\\'
  | 'N' => some '\x85'
  | '_' => some '\xa0'
  | 'L' => some '\u2028'
  | 'P' => some '\u2029'
  | _ => none

/-- The number of hexadecimal digits of an escape. -/
def escapeDigits? : Char → Option Nat
  | 'x' => some 2
  | 'u' => some 4
  | 'U' => some 8
  | _ => none

/-- The number that hexadecimal digits write. -/
def hexNumber? (digits : List Char) : Option Nat :=
  digits.foldlM (fun n c => (Json.hexValue? c).map (16 * n + ·)) 0

/-- The character that the escape after a backslash stands for, and the number of its
characters. -/
def escape? (text : List Char) : Option (Char × Nat) := do
  let c :: rest := text | none
  match simpleEscape? c with
  | some image => return (image, 1)
  | none =>
    let count ← escapeDigits? c
    let digits := rest.take count
    if digits.length ≠ count then none
    let n ← hexNumber? digits
    if (0xD800 ≤ n && n ≤ 0xDFFF) || 0x10FFFF < n then none
    return (Char.ofNat n, count + 1)

/-- A word of a quoted scalar. -/
structure QuotedWord where
  /-- The text of the word. -/
  text : List Char := []
  /-- The number of characters that it is written with. -/
  count : Nat := 0
  /-- Whether an escaped end of a line follows. -/
  escapedBreak : Bool := false

/-- The word with one more character before it, written with `count` characters. -/
def QuotedWord.cons (c : Char) (count : Nat) (word : QuotedWord) : QuotedWord :=
  { word with text := c :: word.text, count := count + word.count }

/-- The word between double quotation marks that a text begins with; `skip` characters are passed
over first. -/
def doubleWord? : Nat → List Char → Option QuotedWord
  | _, [] => some {}
  | skip + 1, _ :: rest => doubleWord? skip rest
  | 0, c :: rest =>
    if isSpace c || c = '"' then some {}
    else if c = '\\' then
      if rest.head?.any isBreak then some { count := 1, escapedBreak := true }
      else do
        let (image, count) ← escape? rest
        return (← doubleWord? count rest).cons image (count + 1)
    else (doubleWord? 0 rest).map (·.cons c 1)

/-- The word between single quotation marks that a text begins with. Two marks stand for one. -/
def singleWord : List Char → QuotedWord
  | '\'' :: '\'' :: rest => (singleWord rest).cons '\'' 2
  | '\'' :: _ => {}
  | c :: rest => if isSpace c then {} else (singleWord rest).cons c 1
  | [] => {}

/-- The word between quotation marks that a text begins with. -/
def quotedWord? (isSingle : Bool) (text : List Char) : Option QuotedWord :=
  if isSingle then some (singleWord text) else doubleWord? 0 text

/-- The text of a quoted scalar after its opening mark, and the place after its closing mark. -/
def readQuotedFrom (isSingle : Bool) : Nat → List Char → Cursor → Option (List Char × Cursor)
  | 0, _, _ => none
  | fuel + 1, text, cursor => do
    if cursor.atDocumentMark || cursor.rest.isEmpty then none
    let word ← quotedWord? isSingle cursor.rest
    let cursor := cursor.advance word.count
    let text := text ++ word.text
    let mark := if isSingle then '\'' else '"'
    if !word.escapedBreak && cursor.rest.head? = some mark then
      return (text, cursor.advance 1)
    let (gap, cursor) :=
      if word.escapedBreak then
        (({ hasBreak := true } : Gap), cursor.readBreak.2)
      else ({}, cursor)
    if word.escapedBreak && cursor.rest.head? = some mark then
      return (text, cursor.advance 1)
    let (gap, cursor) ← gap.read 0 cursor
    readQuotedFrom isSingle fuel (text ++ gap.text) cursor

/-- The text of a quoted scalar at its opening mark, and the place after its closing mark. -/
def readQuoted (isSingle : Bool) (cursor : Cursor) : Option (List Char × Cursor) :=
  readQuotedFrom isSingle (cursor.rest.length + 1) [] (cursor.advance 1)

/-! ## Blocks -/

/-- What becomes of the line feeds that end a block. -/
inductive Chomping where
  /-- All but the first one are dropped. -/
  | clip
  /-- All are dropped. -/
  | strip
  /-- All are kept. -/
  | keep
  deriving DecidableEq, Repr

/-- The chomping that an indicator asks for. -/
def chomping? : Char → Option Chomping
  | '+' => some .keep
  | '-' => some .strip
  | _ => none

/-- The digit of an indentation indicator, which is not zero. -/
def indentDigit? (c : Char) : Option Nat :=
  if '1' ≤ c && c ≤ '9' then some (c.toNat - '0'.toNat) else none

/-- The indicators of a block, in either order, and the number of their characters. A zero is no
indicator. -/
def blockHeader? (text : List Char) : Option (Chomping × Nat × Nat) :=
  match text with
  | c :: d :: _ =>
    match chomping? c, chomping? d with
    | some chomping, _ =>
      if d = '0' then none
      else match indentDigit? d with
        | some n => some (chomping, n, 2)
        | none => some (chomping, 0, 1)
    | none, after =>
      if c = '0' then none
      else match indentDigit? c, after with
        | some n, some chomping => some (chomping, n, 2)
        | some n, none => some (.clip, n, 1)
        | none, _ => some (.clip, 0, 0)
  | [c] =>
    match chomping? c with
    | some chomping => some (chomping, 0, 1)
    | none =>
      if c = '0' then none
      else match indentDigit? c with
        | some n => some (.clip, n, 1)
        | none => some (.clip, 0, 0)
  | [] => some (.clip, 0, 0)

/-- The ends of the blank lines at a place, the place after them, and the greatest column
reached; `indent` is the indentation of the block, or zero if it is not known. -/
def readBlankLines (indent : Nat) : Nat → List Char → Nat → Cursor →
    Option (List Char × Nat × Cursor)
  | 0, _, _, _ => none
  | fuel + 1, breaks, widest, cursor =>
    let spaces := cursor.rest.takeWhile (· = ' ')
    let count :=
      if indent = 0 then spaces.length else min spaces.length (indent - cursor.column)
    let cursor := cursor.advance count
    let widest := max widest cursor.column
    match cursor.rest with
    | c :: _ =>
      if c = '\t' && (indent = 0 || cursor.column < indent) then none
      else if isBreak c then
        let (lineEnd, next) := cursor.readBreak
        readBlankLines indent fuel (breaks ++ lineEnd) widest next
      else some (breaks, widest, cursor)
    | [] => some (breaks, widest, cursor)

/-- What has been read of a block. -/
structure BlockText where
  /-- The text without the end of its last line. -/
  text : List Char := []
  /-- The end of the last line. -/
  lastBreak : List Char := []
  /-- The ends of the blank lines after it. -/
  moreBreaks : List Char := []
  /-- Whether the last line begins with a blank. -/
  startsBlank : Bool := false

/-- The text of a block with the ends of lines before its next line. -/
def BlockText.joined (block : BlockText) (isLiteral nextStartsBlank : Bool) : List Char :=
  if !isLiteral && block.lastBreak = ['\n'] && !block.startsBlank && !nextStartsBlank then
    block.text ++ (if block.moreBreaks.isEmpty then [' '] else []) ++ block.moreBreaks
  else block.text ++ block.lastBreak ++ block.moreBreaks

/-- The block with all lines at a place that have its indentation. -/
def readBlockLines (isLiteral : Bool) (indent : Nat) : Nat → BlockText → Cursor →
    Option (BlockText × Cursor)
  | 0, _, _ => none
  | fuel + 1, block, cursor => do
    if cursor.column ≠ indent || cursor.rest.isEmpty then return (block, cursor)
    let startsBlank := cursor.rest.head?.any isBlank
    let (line, cursor) := cursor.readWhile (!isBreak ·)
    let (lastBreak, cursor) := cursor.readBreak
    let (moreBreaks, _, cursor) ←
      readBlankLines indent (cursor.rest.length + 1) [] 0 cursor
    let text := block.joined isLiteral startsBlank ++ line
    readBlockLines isLiteral indent fuel { text, lastBreak, moreBreaks, startsBlank } cursor

/-- The text of a block, without the line feeds that are dropped. -/
def BlockText.chomped (block : BlockText) : Chomping → List Char
  | .strip => block.text
  | .clip => block.text ++ block.lastBreak
  | .keep => block.text ++ block.lastBreak ++ block.moreBreaks

/-- The text of a block at its indicator, and the place after it. The block is part of a
collection with the given indentation, `-1` if there is none. -/
def readBlock (isLiteral : Bool) (parent : Int) (cursor : Cursor) :
    Option (List Char × Cursor) := do
  let cursor := cursor.advance 1
  let (chomping, increment, count) ← blockHeader? cursor.rest
  let cursor := ((cursor.advance count).skipWhile isBlank).skipComment
  if !endsLine cursor.rest then none
  let cursor := cursor.readBreak.2
  let known := if increment = 0 then 0 else (max parent 0).toNat + increment
  let (moreBreaks, widest, cursor) ←
    readBlankLines known (cursor.rest.length + 1) [] 0 cursor
  let indent := if known = 0 then max widest (max (parent + 1).toNat 1) else known
  let (block, cursor) ←
    readBlockLines isLiteral indent (cursor.rest.length + 1) { moreBreaks } cursor
  return (block.chomped chomping, cursor)

end ClientGen.Yaml
