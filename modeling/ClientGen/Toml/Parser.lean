import ClientGen.Json.Parser
import ClientGen.Toml.Basic

/-!
# Reading TOML

A document is read line by line. Arrays and braces may go over several values, and arrays over
several lines.

## Main definitions

* `parse?` — the members of the table that a text holds.

## Implementation notes

Every reader takes a text and gives what it has read and the text after it, or nothing if there
is a mistake. Arrays and tables in braces are nested at most 79 deep, and a name has at most 79
parts.
-/

set_option autoImplicit false

namespace ClientGen.Toml

/-! ## White space -/

/-- The blanks inside a line. -/
def isBlank (c : Char) : Bool := c = ' ' || c = '\t'

/-- The characters that no control character is among, apart from the tab. -/
def isPrintable (c : Char) : Bool := c = '\t' || (0x20 ≤ c.toNat && c.toNat ≠ 0x7F)

/-- The text after its leading blanks. -/
def skipBlanks (text : List Char) : List Char := text.dropWhile isBlank

/-- The text after the end of a line. -/
def afterBreak? : List Char → Option (List Char)
  | '\n' :: rest => some rest
  | '\r' :: '\n' :: rest => some rest
  | _ => none

/-- The text after a comment, if there is one. -/
def skipComment : List Char → List Char
  | '#' :: rest => rest.dropWhile isPrintable
  | text => text

/-- The text after the rest of a line that holds nothing else. -/
def afterLine? (text : List Char) : Option (List Char) :=
  match skipComment (skipBlanks text) with
  | [] => some []
  | rest => afterBreak? rest

/-- The text after blanks, comments and ends of lines. A comment must be in a line that ends. -/
def skipSpaceFrom? : Nat → List Char → Option (List Char)
  | 0, text => some text
  | fuel + 1, text =>
    match skipBlanks text with
    | '#' :: rest => (afterBreak? (rest.dropWhile isPrintable)).bind (skipSpaceFrom? fuel)
    | '\n' :: rest => skipSpaceFrom? fuel rest
    | '\r' :: rest => (afterBreak? ('\r' :: rest)).bind (skipSpaceFrom? fuel)
    | rest => some rest

/-- The text after blanks, comments and ends of lines. -/
def skipSpace? (text : List Char) : Option (List Char) :=
  skipSpaceFrom? (text.length + 1) text

/-! ## Texts -/

/-- The character of an escape of one letter. -/
def unescape? : Char → Option Char
  | 'b' => some '\x08'
  | 't' => some '\t'
  | 'n' => some '\n'
  | 'f' => some '\x0c'
  | 'r' => some '\r'
  | '"' => some '"'
  | '\\' => some '\\'
  | _ => none

/-- The character with a number that hexadecimal digits write. -/
def codePoint? (digits : List Char) : Option Char := do
  let n ← digits.foldlM (fun n c => (Json.hexValue? c).map (16 * n + ·)) 0
  if (0xD800 ≤ n ∧ n ≤ 0xDFFF) ∨ 0x10FFFF < n then none else some (Char.ofNat n)

/-- The character that the escape after a backslash stands for, and the number of its
characters. -/
def escape? : List Char → Option (Char × Nat)
  | 'u' :: a :: b :: c :: d :: _ => (codePoint? [a, b, c, d]).map fun image => (image, 5)
  | 'U' :: a :: b :: c :: d :: e :: f :: g :: h :: _ =>
    (codePoint? [a, b, c, d, e, f, g, h]).map fun image => (image, 9)
  | c :: _ => (unescape? c).map fun image => (image, 1)
  | [] => none

/-- The rest of a text in one line up to its closing double quotation mark, and the text after
it; `skip` characters are passed over first. -/
def basicTail? (done : List Char) : Nat → List Char → Option (List Char × List Char)
  | _, [] => none
  | skip + 1, _ :: rest => basicTail? done skip rest
  | 0, c :: rest =>
    if c = '"' then some (done.reverse, rest)
    else if c = '\\' then
      match escape? rest with
      | some (image, count) => basicTail? (image :: done) count rest
      | none => none
    else if isPrintable c then basicTail? (c :: done) 0 rest
    else none

/-- The rest of a text in one line up to its closing single quotation mark, and the text after
it. -/
def literalTail? (done : List Char) : List Char → Option (List Char × List Char)
  | [] => none
  | c :: rest =>
    if c = '\'' then some (done.reverse, rest)
    else if isPrintable c then literalTail? (c :: done) rest
    else none

/-- What ends a text of several lines: the number of quotation marks that still belong to it, and
the text after the closing ones. -/
def closing? (mark : Char) (text : List Char) : Option (Nat × List Char) :=
  match (text.take 5).takeWhile (· = mark) with
  | [_, _, _] => some (0, text.drop 3)
  | [_, _, _, _] => some (1, text.drop 4)
  | [_, _, _, _, _] => some (2, text.drop 5)
  | _ => none

/-- Where the reading of a text of several lines stands. -/
inductive Stance where
  /-- Some characters are passed over. -/
  | skipping (count : Nat)
  /-- White space is passed over. -/
  | trimming

/-- The rest of a text of several lines up to its closing double quotation marks, and the text
after it. A backslash at the end of a line removes the white space up to the next character. -/
def multiBasicTail? (done : List Char) : Stance → List Char → Option (List Char × List Char)
  | _, [] => none
  | .skipping (count + 1), _ :: rest => multiBasicTail? done (.skipping count) rest
  | stance, c :: rest =>
    let isTrimming := match stance with
      | .trimming => true
      | .skipping _ => false
    if c = '\n' then multiBasicTail? (if isTrimming then done else c :: done) stance rest
    else if c = '\r' then
      if rest.head? = some '\n' then multiBasicTail? done stance rest else none
    else if isTrimming && isBlank c then multiBasicTail? done stance rest
    else if c = '\\' then
      if (afterBreak? (skipBlanks rest)).isSome then multiBasicTail? done .trimming rest
      else match escape? rest with
        | some (image, count) => multiBasicTail? (image :: done) (.skipping count) rest
        | none => none
    else match closing? '"' (c :: rest) with
      | some (count, rest) => some (done.reverse ++ List.replicate count '"', rest)
      | none =>
        if isPrintable c then multiBasicTail? (c :: done) (.skipping 0) rest else none

/-- The rest of a text of several lines up to its closing single quotation marks, and the text
after it. -/
def multiLiteralTail? (done : List Char) : List Char → Option (List Char × List Char)
  | [] => none
  | c :: rest =>
    if c = '\n' then multiLiteralTail? (c :: done) rest
    else if c = '\r' then
      if rest.head? = some '\n' then multiLiteralTail? done rest else none
    else match closing? '\'' (c :: rest) with
      | some (count, rest) => some (done.reverse ++ List.replicate count '\'', rest)
      | none => if isPrintable c then multiLiteralTail? (c :: done) rest else none

/-- The text after the end of a line, if it begins with one. -/
def skipBreak (text : List Char) : List Char := (afterBreak? text).getD text

/-- A text between quotation marks and the text after it. -/
def text? (text : List Char) : Option (String × List Char) :=
  let result := match text with
    | '"' :: '"' :: '"' :: rest => multiBasicTail? [] (.skipping 0) (skipBreak rest)
    | '"' :: rest => basicTail? [] 0 rest
    | '\'' :: '\'' :: '\'' :: rest => multiLiteralTail? [] (skipBreak rest)
    | '\'' :: rest => literalTail? [] rest
    | _ => none
  result.map fun (chars, rest) => (String.ofList chars, rest)

/-! ## Names -/

/-- The characters of names without quotation marks. -/
def isNameChar (c : Char) : Bool := c.isAlphanum || c = '-' || c = '_'

/-- One part of a name and the text after it. -/
def namePart? (text : List Char) : Option (String × List Char) :=
  match text with
  | '"' :: rest => (basicTail? [] 0 rest).map fun (chars, rest) => (String.ofList chars, rest)
  | '\'' :: rest => (literalTail? [] rest).map fun (chars, rest) => (String.ofList chars, rest)
  | _ =>
    let part := text.takeWhile isNameChar
    if part.isEmpty then none else some (String.ofList part, text.dropWhile isNameChar)

/-- How many parts a name may have. -/
def namePartLimit : Nat := 79

/-- The parts of a name that dots separate, at most `limit` of them, and the text after it. -/
def nameParts? : Nat → List Char → Option (List String × List Char)
  | 0, _ => none
  | limit + 1, text => do
    let (part, rest) ← namePart? (skipBlanks text)
    match skipBlanks rest with
    | '.' :: rest =>
      let (parts, rest) ← nameParts? limit rest
      return (part :: parts, rest)
    | rest => return ([part], rest)

/-- A name: the path to the table that it belongs to, its last part, and the text after it. -/
def name? (text : List Char) : Option (List String × String × List Char) := do
  let (parts, rest) ← nameParts? namePartLimit text
  return (parts.dropLast, ← parts.getLast?, rest)

/-! ## Numbers -/

/-- The text after one or more digits that satisfy a condition, between which single underscores
may stand. -/
def afterDigits? (isDigit : Char → Bool) : List Char → Option (List Char)
  | [] => none
  | [c] => if isDigit c then some [] else none
  | c :: d :: rest =>
    if !isDigit c then none
    else if d = '_' then afterDigits? isDigit rest
    else if isDigit d then afterDigits? isDigit (d :: rest)
    else some (d :: rest)

/-- The text after a sign, if there is one. -/
def skipSign : List Char → List Char
  | '+' :: rest => rest
  | '-' :: rest => rest
  | text => text

/-- The text after a whole number in decimal digits, which has no leading zero. -/
def afterDecimal? (text : List Char) : Option (List Char) :=
  match skipSign text with
  | '0' :: rest => some rest
  | rest => afterDigits? Char.isDigit rest

/-- The text after an exponent. -/
def afterExponent? : List Char → Option (List Char)
  | c :: rest =>
    if c = 'e' || c = 'E' then afterDigits? Char.isDigit (skipSign rest) else none
  | [] => none

/-- The text after a number with a point or an exponent. -/
def afterReal? (text : List Char) : Option (List Char) := do
  match ← afterDecimal? text with
  | '.' :: rest =>
    let rest ← afterDigits? Char.isDigit rest
    match rest with
    | 'e' :: _ | 'E' :: _ => afterExponent? rest
    | _ => some rest
  | rest => afterExponent? rest

/-- The value of digits in a base, underscores left out. -/
def digitsValue (base : Nat) (digits : List Char) : Nat :=
  digits.foldl (fun n c => ((Json.hexValue? c).map (base * n + ·)).getD n) 0

/-- What a text has before the rest of it. -/
def before (text rest : List Char) : List Char := text.take (text.length - rest.length)

/-- Whether a whole number has 64 bits. -/
def fitsWord (spelling : List Char) : Bool :=
  let value := digitsValue 10 (skipSign spelling)
  if spelling.head? = some '-' then value ≤ Nat.pow 2 63 else value < Nat.pow 2 63

/-- Whether a number with a point or an exponent is not too large. One below zero never is. -/
def fitsReal (spelling : List Char) : Bool :=
  let digits := (skipSign spelling).filter (· ≠ '_')
  let mantissa := digits.takeWhile fun c => c ≠ 'e' && c ≠ 'E'
  let fraction := (mantissa.dropWhile (· ≠ '.')).drop 1
  let exponent : Int := match (digits.dropWhile fun c => c ≠ 'e' && c ≠ 'E').drop 1 with
    | '-' :: rest => -(digitsValue 10 rest)
    | rest => digitsValue 10 (skipSign rest)
  spelling.head? = some '-' ||
    (Binary64.ofDecimal? false (digitsValue 10 (mantissa.filter (· ≠ '.')))
      (exponent - fraction.length)).isSome

/-- The base that the two characters at the beginning of a number name. -/
def base? : List Char → Option (Nat × List Char)
  | '0' :: 'x' :: rest => some (16, rest)
  | '0' :: 'o' :: rest => some (8, rest)
  | '0' :: 'b' :: rest => some (2, rest)
  | _ => none

/-- Whether a character is a digit in a base of at most 16. -/
def isDigitOf (base : Nat) (c : Char) : Bool := (Json.hexValue? c).any (· < base)

/-- The text after a whole number of 64 bits. -/
def afterInteger? (text : List Char) : Option (List Char) := do
  match base? text with
  | some (base, digits) =>
    let rest ← afterDigits? (isDigitOf base) digits
    if digitsValue base (before digits rest) < Nat.pow 2 63 then some rest else none
  | none =>
    let rest ← afterDecimal? text
    if fitsWord (before text rest) then some rest else none

/-- The text after an infinite number or no number. -/
def afterNotFinite? (text : List Char) : Option (List Char) :=
  (Json.afterWord? "inf".toList (skipSign text)).or
    (Json.afterWord? "nan".toList (skipSign text))

/-! ## Dates -/

/-- The number that some digits at the beginning of a text write, and the text after them. -/
def fixedDigits? (count : Nat) (text : List Char) : Option (Nat × List Char) :=
  let digits := text.take count
  if digits.length = count && digits.all Char.isDigit then
    some (digitsValue 10 digits, text.drop count)
  else none

/-- The text after a character. -/
def afterChar? (c : Char) : List Char → Option (List Char)
  | d :: rest => if d = c then some rest else none
  | [] => none

/-- The number of days of a month. -/
def daysOf (year month : Nat) : Nat :=
  if month = 2 then
    if year % 4 = 0 && (year % 100 ≠ 0 || year % 400 = 0) then 29 else 28
  else if [4, 6, 9, 11].contains month then 30
  else 31

/-- The text after a day of the calendar. -/
def afterDate? (text : List Char) : Option (List Char) := do
  let (year, rest) ← fixedDigits? 4 text
  let (month, rest) ← fixedDigits? 2 (← afterChar? '-' rest)
  let (day, rest) ← fixedDigits? 2 (← afterChar? '-' rest)
  if 1 ≤ month ∧ month ≤ 12 ∧ 1 ≤ day ∧ day ≤ daysOf year month then some rest else none

/-- The text after hours and minutes. -/
def afterMinutes? (text : List Char) : Option (List Char) := do
  let (hour, rest) ← fixedDigits? 2 text
  let (minute, rest) ← fixedDigits? 2 (← afterChar? ':' rest)
  if hour ≤ 23 ∧ minute ≤ 59 then some rest else none

/-- The text after a time of the day. -/
def afterTime? (text : List Char) : Option (List Char) := do
  let (second, rest) ← fixedDigits? 2 (← afterChar? ':' (← afterMinutes? text))
  if 60 < second then none
  match rest with
  | '.' :: digits =>
    if digits.head?.any Char.isDigit then some (digits.dropWhile Char.isDigit) else some rest
  | _ => some rest

/-- The text after the distance from universal time, if there is one. -/
def skipOffset (text : List Char) : List Char :=
  match text with
  | 'Z' :: rest | 'z' :: rest => rest
  | '+' :: rest | '-' :: rest => (afterMinutes? rest).getD text
  | _ => text

/-- The text after a date, a time or both. -/
def afterMoment? (text : List Char) : Option (List Char) :=
  match afterDate? text with
  | none => afterTime? text
  | some rest =>
    match rest with
    | c :: time =>
      if c = 'T' || c = 't' || c = ' ' then
        match afterTime? time with
        | some rest => some (skipOffset rest)
        | none => some (c :: time)
      else some (c :: time)
    | [] => some []

/-! ## Values -/

/-- The text after a number, a truth value or a date. -/
def afterLiteral? (text : List Char) : Option (List Char) := do
  let c ← text.head?
  if c.isDigit || c = '+' || c = '-' then
    match afterMoment? text, afterReal? text with
    | some rest, _ => return rest
    | none, some rest => if fitsReal (before text rest) then some rest else none
    | none, none => (afterNotFinite? text).or (afterInteger? text)
  else
    ((Json.afterWord? "true".toList text).or (Json.afterWord? "false".toList text)).or
      (afterNotFinite? text)

mutual

/-- A value and the text after it. Arrays and tables in it are nested at most `depth` deep; `fuel`
bounds the number of steps. -/
def value? (fuel depth : Nat) (text : List Char) : Option (Value × List Char) :=
  match fuel with
  | 0 => none
  | fuel + 1 =>
    match text, depth with
    | '[' :: rest, depth + 1 =>
      (items? fuel depth [] rest).map fun (items, rest) => (.array items, rest)
    | '\x7b' :: rest, depth + 1 =>
      (members? fuel depth true ⟨.declared, []⟩ rest).map fun (table, rest) =>
        (table.toValue, rest)
    | '"' :: _, _ | '\'' :: _, _ => (text? text).map fun (value, rest) => (.text value, rest)
    | _, _ => (afterLiteral? text).map fun rest => (.literal (before text rest), rest)

/-- The items of an array up to its closing bracket, and the text after it. -/
def items? (fuel depth : Nat) (done : List Value) (text : List Char) :
    Option (List Value × List Char) :=
  match fuel with
  | 0 => none
  | fuel + 1 =>
    match skipSpace? text with
    | none => none
    | some (']' :: rest) => some (done.reverse, rest)
    | some rest =>
      match value? fuel depth rest with
      | none => none
      | some (item, rest) =>
        match skipSpace? rest with
        | some (',' :: rest) => items? fuel depth (item :: done) rest
        | some (']' :: rest) => some ((item :: done).reverse, rest)
        | _ => none

/-- The table that stands in braces, whose members up to here are known, up to the closing brace,
and the text after it. -/
def members? (fuel depth : Nat) (isFirst : Bool) (table : Table) (text : List Char) :
    Option (Table × List Char) :=
  match fuel with
  | 0 => none
  | fuel + 1 =>
    match isFirst, skipBlanks text with
    | true, '\x7d' :: rest => some (table, rest)
    | _, rest =>
      match name? rest with
      | some (path, name, '=' :: rest) =>
        match value? fuel depth (skipBlanks rest) with
        | none => none
        | some (value, rest) =>
          match table.insert? path name value, skipBlanks rest with
          | some table, ',' :: rest => members? fuel depth false table rest
          | some table, '\x7d' :: rest => some (table, rest)
          | _, _ => none
      | _ => none

end

/-- How deep arrays and tables in braces may be nested. -/
def depthLimit : Nat := 79

/-! ## Documents -/

/-- The draft after a header, and the text of the next line. -/
def header? (draft : Draft) (text : List Char) : Option (Draft × List Char) := do
  match text with
  | '[' :: '[' :: rest =>
    let (path, name, rest) ← name? rest
    let rest ← afterLine? (← Json.afterWord? [']', ']'] rest)
    return (← draft.openItem? path name, rest)
  | '[' :: rest =>
    let (path, name, rest) ← name? rest
    let rest ← afterLine? (← afterChar? ']' rest)
    return (← draft.openTable? path name, rest)
  | _ => none

/-- The draft after an entry, and the text of the next line. -/
def entry? (draft : Draft) (text : List Char) : Option (Draft × List Char) := do
  let (path, name, rest) ← name? text
  let rest := skipBlanks (← afterChar? '=' rest)
  let (value, rest) ← value? (2 * rest.length + 2) depthLimit rest
  return (← draft.insert? path name value, ← afterLine? rest)

/-- The draft after all lines of a text. -/
def lines? : Nat → Draft → List Char → Option Draft
  | 0, _, _ => none
  | fuel + 1, draft, text =>
    match skipBlanks text with
    | [] => some draft
    | c :: rest =>
      if c = '#' || c = '\n' || c = '\r' then
        (afterLine? (c :: rest)).bind (lines? fuel draft)
      else
        let next := if c = '[' then header? draft (c :: rest) else entry? draft (c :: rest)
        next.bind fun (draft, rest) => lines? fuel draft rest

/-- The text without the mark of its byte order that it may begin with. -/
def skipByteOrderMark : List Char → List Char
  | '\ufeff' :: rest => rest
  | text => text

/-- The members of the table that a text holds, in the order of the text. -/
def parse? (text : String) : Option (List (String × Value)) := do
  let chars := skipByteOrderMark text.toList
  let draft ← lines? (chars.length + 1) {} chars
  return valuesOf (← draft.close?).entries

end ClientGen.Toml
