import ClientGen.Yaml.Scalar

/-!
# YAML tokens

A text is read as a row of tokens: scalars, marks and brackets, and the begin and end of
collections that indentation shows. That something is a key is known only when the colon after it
has been found, so tokens wait in a queue until nothing can be put before them any more.

## Main definitions

* `Token` — tokens.
* `Scanner` — the place that has been reached, the tokens that wait, the indentation of the open
  collections and the places that may turn out to be keys.
* `Scanner.peek?` — the next token, without taking it.
* `Scanner.take` — the scanner without the next token.
-/

set_option autoImplicit false

namespace ClientGen.Yaml

/-- A token of a text. -/
inductive Token where
  /-- The end of the text. -/
  | streamEnd
  /-- A directive that states the version of the format. -/
  | versionDirective (major minor : Nat)
  /-- A directive that states what a handle stands for. -/
  | tagDirective (handle meaning : String)
  /-- The mark that begins a document. -/
  | documentStart
  /-- The mark that ends a document. -/
  | documentEnd
  /-- The beginning of a list of indented entries. -/
  | blockSequenceStart
  /-- The beginning of indented pairs. -/
  | blockMappingStart
  /-- The end of an indented collection. -/
  | blockEnd
  /-- An opening bracket. -/
  | flowSequenceStart
  /-- A closing bracket. -/
  | flowSequenceEnd
  /-- An opening brace. -/
  | flowMappingStart
  /-- A closing brace. -/
  | flowMappingEnd
  /-- A dash before an entry. -/
  | blockEntry
  /-- A comma between brackets. -/
  | flowEntry
  /-- The place before a key. -/
  | key
  /-- The colon before a value. -/
  | value
  /-- A reference to a node. -/
  | alias (name : String)
  /-- The name of a node. -/
  | anchor (name : String)
  /-- The tag of a node, by its handle. -/
  | tag (handle suffix : String)
  /-- A scalar. -/
  | scalar (text : String) (isPlain : Bool)
  deriving DecidableEq, Repr, Inhabited

/-- A place that may turn out to be a key. -/
structure PendingKey where
  /-- The number of the token at the place. -/
  number : Nat
  /-- Whether nothing else than a key can stand there. -/
  required : Bool
  /-- The number of characters before the place. -/
  index : Nat
  /-- The line of the place. -/
  line : Nat
  /-- The column of the place. -/
  column : Nat

/-- The state of reading tokens. -/
structure Scanner where
  /-- The place that has been reached. -/
  cursor : Cursor
  /-- The number of characters of the whole text. -/
  size : Nat := 0
  /-- The tokens that wait. -/
  queue : List Token := []
  /-- The number of tokens that have been taken. -/
  taken : Nat := 0
  /-- The column of the innermost indented collection, `-1` outside of all. -/
  indent : Int := -1
  /-- The columns of the collections around it. -/
  indents : List Int := []
  /-- Whether a key may begin here. -/
  keyAllowed : Bool := true
  /-- The place that may turn out to be a key, outside of brackets and in each pair of brackets,
  innermost first. -/
  keys : List (Option PendingKey) := [none]

namespace Scanner

/-- The scanner at the beginning of a text. -/
def ofChars (text : List Char) : Scanner where
  cursor := { rest := text }
  size := text.length

/-- Whether the place is between brackets. -/
def inFlow (scanner : Scanner) : Bool := 1 < scanner.keys.length

/-- The scanner with one more token that waits. -/
def push (scanner : Scanner) (token : Token) : Scanner :=
  { scanner with queue := scanner.queue ++ [token] }

/-- The scanner at a place that `count` characters of the line further, with one more token. -/
def pushAfter (scanner : Scanner) (count : Nat) (token : Token) : Scanner :=
  { scanner with cursor := scanner.cursor.advance count }.push token

/-- The scanner with a token put before the token with a number. -/
def insert (scanner : Scanner) (number : Nat) (token : Token) : Scanner :=
  { scanner with queue := scanner.queue.insertIdx (number - scanner.taken) token }

/-- The scanner where a key may or may not begin. -/
def allowKey (scanner : Scanner) (allowed : Bool) : Scanner :=
  { scanner with keyAllowed := allowed }

/-! ## Pending keys -/

/-- A pending key, unless it is out of reach: a key is followed by its colon in the same line and
within 1024 characters. -/
def freshKey? (cursor : Cursor) : Option PendingKey → Option (Option PendingKey)
  | none => some none
  | some key =>
    if key.line < cursor.line || key.index + 1024 < cursor.index then
      if key.required then none else some none
    else some (some key)

/-- The scanner without the pending keys that are out of reach. -/
def dropStaleKeys? (scanner : Scanner) : Option Scanner := do
  let keys ← scanner.keys.mapM (freshKey? scanner.cursor)
  return { scanner with keys }

/-- The scanner without the innermost pending key. -/
def dropKey? (scanner : Scanner) : Option Scanner :=
  match scanner.keys with
  | some key :: rest => if key.required then none else some { scanner with keys := none :: rest }
  | _ => some scanner

/-- The scanner with this place as the innermost pending key, if a key may begin here. -/
def saveKey? (scanner : Scanner) : Option Scanner :=
  if !scanner.keyAllowed then some scanner
  else do
    let scanner ← scanner.dropKey?
    let cursor := scanner.cursor
    let key : PendingKey := {
      number := scanner.taken + scanner.queue.length
      required := !scanner.inFlow && scanner.indent = cursor.column
      index := cursor.index
      line := cursor.line
      column := cursor.column }
    return { scanner with keys := some key :: scanner.keys.tail }

/-! ## Indentation -/

/-- The scanner with the collections ended that are indented further than a column. -/
def unrollFrom (column : Int) : Nat → Scanner → Scanner
  | 0, scanner => scanner
  | fuel + 1, scanner =>
    if column < scanner.indent then
      match scanner.indents with
      | outer :: rest =>
        unrollFrom column fuel ({ scanner with indent := outer, indents := rest }.push .blockEnd)
      | [] => scanner
    else scanner

/-- The scanner with the collections ended that are indented further than a column. Between
brackets indentation does not count. -/
def unroll (scanner : Scanner) (column : Int) : Scanner :=
  if scanner.inFlow then scanner else unrollFrom column scanner.indents.length scanner

/-- The scanner with a collection begun that is indented further than the innermost one, before
the token with a number or after all tokens. -/
def roll (scanner : Scanner) (column : Nat) (number : Option Nat) (token : Token) : Scanner :=
  if scanner.inFlow || column ≤ scanner.indent then scanner
  else
    let scanner :=
      { scanner with indent := column, indents := scanner.indent :: scanner.indents }
    match number with
    | some number => scanner.insert number token
    | none => scanner.push token

/-! ## White space -/

/-- The scanner after the white space, the comments and the ends of lines at this place. -/
def skipSpaceFrom : Nat → Scanner → Scanner
  | 0, scanner => scanner
  | fuel + 1, scanner =>
    let cursor := scanner.cursor
    let cursor :=
      if cursor.column = 0 && cursor.rest.head? = some '\ufeff' then cursor.advance 1
      else cursor
    let tabs := scanner.inFlow || !scanner.keyAllowed
    let cursor := (cursor.skipWhile fun c => c = ' ' || (tabs && c = '\t')).skipComment
    if cursor.rest.head?.any isBreak then
      skipSpaceFrom fuel { scanner with
        cursor := cursor.readBreak.2
        keyAllowed := scanner.keyAllowed || !scanner.inFlow }
    else { scanner with cursor }

/-- The scanner after the white space, the comments and the ends of lines at this place. -/
def skipSpace (scanner : Scanner) : Scanner :=
  skipSpaceFrom (scanner.size + 1) scanner

/-! ## Directives -/

/-- The number of a version, of at most nine digits. -/
def versionNumber? (cursor : Cursor) : Option (Nat × Cursor) :=
  let (digits, cursor) := cursor.readWhile (·.isDigit)
  if digits.isEmpty || 9 < digits.length then none
  else some (digits.foldl (fun n c => 10 * n + (c.toNat - '0'.toNat)) 0, cursor)

/-- A directive that states the version, after its name. -/
def versionDirective? (cursor : Cursor) : Option (Token × Cursor) := do
  let (major, cursor) ← versionNumber? (cursor.skipWhile isBlank)
  if cursor.rest.head? ≠ some '.' then none
  let (minor, cursor) ← versionNumber? (cursor.advance 1)
  return (.versionDirective major minor, cursor)

/-- The handle of a tag: an exclamation mark, or a name between two of them. -/
def tagHandle? (cursor : Cursor) : Option (List Char × Cursor) :=
  match cursor.rest with
  | '!' :: _ =>
    let (name, cursor) := (cursor.advance 1).readWhile isWordChar
    if cursor.rest.head? = some '!' then some ('!' :: name ++ ['!'], cursor.advance 1)
    else some ('!' :: name, cursor)
  | _ => none

/-- Whether a character may stand in a tag, and in a whole one also a comma or a bracket. -/
def isTagChar (whole : Bool) (c : Char) : Bool :=
  isWordChar c || ";/?:@&=+$.%!~*'()".toList.contains c || (whole && ",[]".toList.contains c)

/-- The bytes that escapes of a percent sign and two digits write. -/
def escapedBytes? : Nat → List Char → Option (List Nat)
  | 0, _ => some []
  | count + 1, '%' :: a :: b :: rest => do
    let byte := 16 * (← Json.hexValue? a) + (← Json.hexValue? b)
    return byte :: (← escapedBytes? count rest)
  | _ + 1, _ => none

/-- The number of bytes of a character that begins with a byte. -/
def byteCount? (byte : Nat) : Option Nat :=
  if byte < 0x80 then some 1
  else if 0xC0 ≤ byte && byte < 0xE0 then some 2
  else if 0xE0 ≤ byte && byte < 0xF0 then some 3
  else if 0xF0 ≤ byte && byte < 0xF8 then some 4
  else none

/-- The character at the beginning of a text whose bytes are escaped, and the number of its
escapes. -/
def escapedChar? (text : List Char) : Option (Char × Nat) := do
  let count ← byteCount? (← (← escapedBytes? 1 text).head?)
  let bytes := (← escapedBytes? count text).map UInt8.ofNat
  let decoded ← String.fromUTF8? ⟨bytes.toArray⟩
  return (← decoded.toList.head?, count)

/-- The characters of a tag at the beginning of a text, and how many characters they are written
with; `skip` characters are passed over first. -/
def tagChars? (whole : Bool) : Nat → List Char → Option (List Char × Nat)
  | _, [] => some ([], 0)
  | skip + 1, _ :: rest => tagChars? whole skip rest
  | 0, c :: rest =>
    if c = '%' then do
      let (image, count) ← escapedChar? (c :: rest)
      let (chars, more) ← tagChars? whole (3 * count - 1) rest
      return (image :: chars, 3 * count + more)
    else if isTagChar whole c then do
      let (chars, more) ← tagChars? whole 0 rest
      return (c :: chars, more + 1)
    else some ([], 0)

/-- The characters of a tag and the place after them. -/
def readTagChars? (whole : Bool) (cursor : Cursor) : Option (List Char × Cursor) := do
  let (chars, count) ← tagChars? whole 0 cursor.rest
  return (chars, cursor.advance count)

/-- A directive that states what a handle stands for, after its name. -/
def tagDirective? (cursor : Cursor) : Option (Token × Cursor) := do
  let (handle, cursor) ← tagHandle? (cursor.skipWhile isBlank)
  if handle.length ≠ 1 && handle.getLast? ≠ some '!' then none
  if !cursor.rest.head?.any isBlank then none
  let (meaning, cursor) ← readTagChars? true (cursor.skipWhile isBlank)
  if meaning.isEmpty || !endsWord cursor.rest then none
  return (.tagDirective (String.ofList handle) (String.ofList meaning), cursor)

/-- The directive at a percent sign, and the place in the next line. -/
def directive? (cursor : Cursor) : Option (Token × Cursor) := do
  let (name, cursor) := (cursor.advance 1).readWhile isWordChar
  if name.isEmpty || !endsWord cursor.rest then none
  let (token, cursor) ←
    if name = "YAML".toList then versionDirective? cursor
    else if name = "TAG".toList then tagDirective? cursor
    else none
  let cursor := (cursor.skipWhile isBlank).skipComment
  if !endsLine cursor.rest then none
  return (token, cursor.readBreak.2)

/-! ## Properties of nodes -/

/-- The name after an ampersand or an asterisk, and the place after it. -/
def nodeName? (cursor : Cursor) : Option (String × Cursor) :=
  let (name, cursor) := (cursor.advance 1).readWhile isWordChar
  let ends := match cursor.rest with
    | [] => true
    | c :: _ => isSpace c || "?:,]\x7d%@\x60".toList.contains c
  if name.isEmpty || !ends then none else some (String.ofList name, cursor)

/-- The tag between angle brackets. -/
def verbatimTag? (cursor : Cursor) : Option (Token × Cursor) := do
  let (suffix, cursor) ← readTagChars? true (cursor.advance 2)
  if suffix.isEmpty || cursor.rest.head? ≠ some '>' then none
  return (.tag "" (String.ofList suffix), cursor.advance 1)

/-- The tag that is written with a handle. The lone exclamation mark is a tag without one. -/
def shorthandTag? (cursor : Cursor) : Option (Token × Cursor) := do
  let (handle, cursor) ← tagHandle? cursor
  let named := 1 < handle.length && handle.getLast? = some '!'
  let (chars, cursor) ← readTagChars? false cursor
  if named then
    if chars.isEmpty then none
    return (.tag (String.ofList handle) (String.ofList chars), cursor)
  else
    let suffix := String.ofList (handle.tail ++ chars)
    return (if suffix.isEmpty then .tag "" "!" else .tag "!" suffix, cursor)

/-- The tag at an exclamation mark, and the place after it. -/
def tag? (inFlow : Bool) (cursor : Cursor) : Option (Token × Cursor) := do
  let (token, cursor) ←
    if cursor.rest[1]? = some '<' then verbatimTag? cursor else shorthandTag? cursor
  if endsWord cursor.rest || (inFlow && cursor.rest.head? = some ',') then
    return (token, cursor)
  else none

/-! ## Reading one token -/

/-- The scanner after a token that may be a key by itself, which `read` reads. -/
def fetchNode? (scanner : Scanner) (read : Cursor → Option (Token × Cursor)) :
    Option Scanner := do
  let scanner ← scanner.saveKey?
  let (token, cursor) ← read scanner.cursor
  return ({ scanner with cursor }.allowKey false).push token

/-- The scanner after a mark, between which and the next one no collection goes on. -/
def fetchMark? (scanner : Scanner) (read : Cursor → Option (Token × Cursor)) :
    Option Scanner := do
  let scanner ← (scanner.unroll (-1)).dropKey?
  let (token, cursor) ← read scanner.cursor
  return ({ scanner with cursor }.allowKey false).push token

/-- The scanner after an opening bracket. -/
def fetchOpening? (scanner : Scanner) (token : Token) : Option Scanner := do
  let scanner ← scanner.saveKey?
  return ({ scanner with keys := none :: scanner.keys }.allowKey true).pushAfter 1 token

/-- The scanner after a closing bracket. -/
def fetchClosing? (scanner : Scanner) (token : Token) : Option Scanner := do
  let scanner ← scanner.dropKey?
  let keys := if scanner.inFlow then scanner.keys.tail else scanner.keys
  return ({ scanner with keys }.allowKey false).pushAfter 1 token

/-- The scanner after a comma between brackets. -/
def fetchComma? (scanner : Scanner) : Option Scanner := do
  let scanner ← scanner.dropKey?
  return (scanner.allowKey true).pushAfter 1 .flowEntry

/-- The scanner after a dash before an entry. -/
def fetchDash? (scanner : Scanner) : Option Scanner := do
  if !scanner.inFlow && !scanner.keyAllowed then none
  let scanner ← (scanner.roll scanner.cursor.column none .blockSequenceStart).dropKey?
  return (scanner.allowKey true).pushAfter 1 .blockEntry

/-- The scanner after a question mark before a key. -/
def fetchQuestion? (scanner : Scanner) : Option Scanner := do
  if !scanner.inFlow && !scanner.keyAllowed then none
  let scanner ← (scanner.roll scanner.cursor.column none .blockMappingStart).dropKey?
  return (scanner.allowKey !scanner.inFlow).pushAfter 1 .key

/-- The scanner after a colon before a value. -/
def fetchColon? (scanner : Scanner) : Option Scanner :=
  match scanner.keys with
  | some key :: rest =>
    let scanner := scanner.insert key.number .key
    let scanner := scanner.roll key.column (some key.number) .blockMappingStart
    some (({ scanner with keys := none :: rest }.allowKey false).pushAfter 1 .value)
  | _ =>
    if !scanner.inFlow && !scanner.keyAllowed then none
    else
      let scanner := scanner.roll scanner.cursor.column none .blockMappingStart
      some ((scanner.allowKey !scanner.inFlow).pushAfter 1 .value)

/-- The scanner after a block scalar. -/
def fetchBlock? (scanner : Scanner) (isLiteral : Bool) : Option Scanner := do
  let scanner ← scanner.dropKey?
  let (text, cursor) ← readBlock isLiteral scanner.indent scanner.cursor
  return ({ scanner with cursor }.allowKey true).push (.scalar (String.ofList text) false)

/-- The scanner after a quoted scalar. -/
def fetchQuoted? (scanner : Scanner) (isSingle : Bool) : Option Scanner :=
  scanner.fetchNode? fun cursor => do
    let (text, cursor) ← readQuoted isSingle cursor
    return (.scalar (String.ofList text) false, cursor)

/-- The scanner after a plain scalar. A key may begin after it if a line has ended. -/
def fetchPlain? (scanner : Scanner) : Option Scanner := do
  let scanner ← scanner.saveKey?
  let (text, cursor, newLine) ← readPlain scanner.inFlow (scanner.indent + 1) scanner.cursor
  return ({ scanner with cursor }.allowKey newLine).push (.scalar (String.ofList text) true)

/-- Whether a plain scalar may begin with the first of some characters. -/
def beginsPlain (inFlow : Bool) (c : Char) (rest : List Char) : Bool :=
  !(isSpace c || "-?:,[]\x7b\x7d#&*!|>'\"%@\x60".toList.contains c) ||
    (c = '-' && !rest.head?.any isBlank) ||
    (!inFlow && (c = '?' || c = ':') && !endsWord rest)

/-- The scanner after the end of the text, which ends the last line too. -/
def fetchEnd? (scanner : Scanner) : Option Scanner := do
  let cursor := scanner.cursor
  let cursor := if cursor.column = 0 then cursor else cursor.nextLine 0
  let scanner ← ({ scanner with cursor }.unroll (-1)).dropKey?
  return (scanner.allowKey false).push .streamEnd

/-- The scanner after one more token. -/
def fetch? (scanner : Scanner) : Option Scanner := do
  let scanner ← scanner.skipSpace.dropStaleKeys?
  let scanner := scanner.unroll scanner.cursor.column
  let cursor := scanner.cursor
  match cursor.rest with
  | [] => scanner.fetchEnd?
  | c :: rest =>
    if cursor.column = 0 && c = '%' then scanner.fetchMark? directive?
    else if cursor.atMark '-' then
      scanner.fetchMark? fun cursor => some (.documentStart, cursor.advance 3)
    else if cursor.atMark '.' then
      scanner.fetchMark? fun cursor => some (.documentEnd, cursor.advance 3)
    else
      let indicated := scanner.inFlow || endsWord rest
      match c with
      | '[' => scanner.fetchOpening? .flowSequenceStart
      | '\x7b' => scanner.fetchOpening? .flowMappingStart
      | ']' => scanner.fetchClosing? .flowSequenceEnd
      | '\x7d' => scanner.fetchClosing? .flowMappingEnd
      | ',' => scanner.fetchComma?
      | '*' => scanner.fetchNode? fun cursor => do
          let (name, cursor) ← nodeName? cursor
          return (.alias name, cursor)
      | '&' => scanner.fetchNode? fun cursor => do
          let (name, cursor) ← nodeName? cursor
          return (.anchor name, cursor)
      | '!' => scanner.fetchNode? (tag? scanner.inFlow)
      | '\'' => scanner.fetchQuoted? true
      | '"' => scanner.fetchQuoted? false
      | c =>
        if c = '-' && endsWord rest then scanner.fetchDash?
        else if c = '?' && indicated then scanner.fetchQuestion?
        else if c = ':' && indicated then scanner.fetchColon?
        else if c = '|' && !scanner.inFlow then scanner.fetchBlock? true
        else if c = '>' && !scanner.inFlow then scanner.fetchBlock? false
        else if beginsPlain scanner.inFlow c rest then scanner.fetchPlain?
        else none

/-! ## The queue -/

/-- Whether the first token that waits may still turn out to be a key. -/
def isUndecided (scanner : Scanner) : Bool :=
  scanner.queue.isEmpty || scanner.keys.any fun key => key.any (·.number = scanner.taken)

/-- The scanner with its first token decided, if there is any. -/
def settleFrom? : Nat → Scanner → Option Scanner
  | 0, _ => none
  | fuel + 1, scanner =>
    if scanner.queue.isEmpty then scanner.fetch?.bind (settleFrom? fuel)
    else do
      let scanner ← scanner.dropStaleKeys?
      if scanner.isUndecided then scanner.fetch?.bind (settleFrom? fuel)
      else return scanner

/-- The next token and the scanner that still holds it. Each token that is read takes some
characters, so a step for each character of the text suffices. -/
def peek? (scanner : Scanner) : Option (Token × Scanner) := do
  let scanner ← settleFrom? (scanner.size + 3) scanner
  return (← scanner.queue.head?, scanner)

/-- The scanner without the next token. -/
def take (scanner : Scanner) : Scanner :=
  { scanner with queue := scanner.queue.tail, taken := scanner.taken + 1 }

end Scanner

end ClientGen.Yaml
