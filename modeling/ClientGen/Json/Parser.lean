import ClientGen.Json.Basic
import ClientGen.Unicode.Property

/-!
# Reading JSON

Reading is strict: only the four blanks of the format, no comments, no trailing commas, no
control characters in strings, no escapes of unpaired surrogates.

A number that does not fit an integer is read digit by digit into 64 bits; the digits that no
longer fit count as zeros before the decimal point and are dropped after it. The result is
rounded once when it becomes a binary64 number and once when it is scaled by a power of ten. A
number beyond the format is refused.

## Main definitions

* `Json.parse?` — the value that a text holds, nested no deeper than a limit.
-/

set_option autoImplicit false

namespace ClientGen.Json

open ClientGen.Unicode

/-! ## Blanks and words -/

/-- The four blanks of the format. -/
def isBlank (c : Char) : Bool := c = ' ' || c = '\n' || c = '\t' || c = '\r'

/-- The text after its leading blanks. -/
def skipBlanks (text : List Char) : List Char := text.dropWhile isBlank

/-- The text after `word`, if it begins with it. -/
def afterWord? (word text : List Char) : Option (List Char) :=
  if word.isPrefixOf text then some (text.drop word.length) else none

/-! ## Strings -/

/-- The value of a hexadecimal digit. -/
def hexValue? (c : Char) : Option Nat :=
  if '0' ≤ c ∧ c ≤ '9' then some (c.toNat - '0'.toNat)
  else if 'a' ≤ c ∧ c ≤ 'f' then some (c.toNat - 'a'.toNat + 10)
  else if 'A' ≤ c ∧ c ≤ 'F' then some (c.toNat - 'A'.toNat + 10)
  else none

/-- The value of four hexadecimal digits. -/
def hexValue4? (a b c d : Char) : Option Nat := do
  let a ← hexValue? a
  let b ← hexValue? b
  let c ← hexValue? c
  let d ← hexValue? d
  return ((a * 16 + b) * 16 + c) * 16 + d

/-- The character of an escape of one letter. -/
def unescape? : Char → Option Char
  | '"' => some '"'
  | '\\' => some '\\'
  | '/' => some '/'
  | 'b' => some '\x08'
  | 'f' => some '\x0c'
  | 'n' => some '\n'
  | 'r' => some '\r'
  | 't' => some '\t'
  | _ => none

/-- The rest of a string up to its closing quotation mark, and the text after it. -/
def stringTail? (done : List Char) : List Char → Option (List Char × List Char)
  | [] => none
  | '"' :: rest => some (done.reverse, rest)
  | '\\' :: 'u' :: a :: b :: c :: d :: rest =>
    match hexValue4? a b c d with
    | none => none
    | some unit =>
      if unit < 0xD800 ∨ 0xDFFF < unit then stringTail? (Char.ofNat unit :: done) rest
      else if 0xDC00 ≤ unit then none
      else match rest with
        | '\\' :: 'u' :: e :: f :: g :: h :: rest =>
          match hexValue4? e f g h with
          | none => none
          | some low =>
            if 0xDC00 ≤ low ∧ low ≤ 0xDFFF then
              let point := 0x10000 + (unit - 0xD800) * 0x400 + (low - 0xDC00)
              stringTail? (Char.ofNat point :: done) rest
            else none
        | _ => none
  | '\\' :: c :: rest =>
    match unescape? c with
    | some c => stringTail? (c :: done) rest
    | none => none
  | c :: rest => if c.toNat < 0x20 then none else stringTail? (c :: done) rest

/-- A string and the text after it. -/
def string? : List Char → Option (String × List Char)
  | '"' :: rest => (stringTail? [] rest).map fun (chars, rest) => (String.ofList chars, rest)
  | _ => none

/-! ## Numbers -/

/-- The value of a decimal digit. -/
def digitValue (c : Char) : Nat := c.toNat - '0'.toNat

/-- The greatest number that fits 64 bits. -/
def maxNatural : Nat := Nat.pow 2 64 - 1

/-- The digits that still fit 64 bits when they are appended to `significand`: the number they
make, how many they are, and the text after them. -/
def takeDigits (significand taken : Nat) : List Char → Nat × Nat × List Char
  | [] => (significand, taken, [])
  | c :: rest =>
    let next := significand * 10 + digitValue c
    if isAsciiDigit c ∧ next ≤ maxNatural then takeDigits next (taken + 1) rest
    else (significand, taken, c :: rest)

/-- The value of a row of decimal digits. -/
def digitsValue (digits : List Char) : Nat :=
  digits.foldl (fun n c => n * 10 + digitValue c) 0

/-- The powers of ten that a number can be scaled by at once. -/
def maxPower : Nat := 308

/-- The power of ten as a binary64 number. -/
def powerOfTen (n : Nat) : Binary64 :=
  (Binary64.ofDecimal? false 1 n).getD (Binary64.zero false)

/-- The number divided by a power of ten, in steps that each divide by a power within reach. -/
def scaleDown : Nat → Binary64 → Nat → Option Binary64
  | 0, x, _ => some x
  | steps + 1, x, power =>
    if power ≤ maxPower then x.div? (powerOfTen power)
    else if x.isZero then some x
    else (x.div? (powerOfTen maxPower)).bind fun x => scaleDown steps x (power - maxPower)

/-- The binary64 number `significand * 10 ^ scale`, refused if it is too large. -/
def scaled? (negative : Bool) (significand : Nat) (scale : Int) : Option Number :=
  let start := Binary64.ofNat negative significand
  let result :=
    if scale < 0 then scaleDown 5 start (-scale).toNat
    else if scale.toNat ≤ maxPower then start.mul? (powerOfTen scale.toNat)
    else if start.isZero then some start
    else none
  result.map .real

/-- An integer as a number of the format. A negative zero and everything below `-2 ^ 63` is a
binary64 number. -/
def integerNumber (negative : Bool) (value : Nat) : Number :=
  if !negative then .integer value
  else if 0 < value ∧ value ≤ Nat.pow 2 63 then .integer (-value)
  else .real (Binary64.ofNat true value)

/-- The exponent of a number, if one begins the text, and the text after it. -/
def exponent? (text : List Char) : Option (Int × List Char) :=
  match text with
  | c :: rest =>
    if c = 'e' ∨ c = 'E' then
      let (negative, rest) := match rest with
        | '+' :: rest => (false, rest)
        | '-' :: rest => (true, rest)
        | rest => (false, rest)
      let digits := rest.takeWhile isAsciiDigit
      if digits.isEmpty then none
      else
        let value : Int := digitsValue digits
        some (if negative then -value else value, rest.dropWhile isAsciiDigit)
    else some (0, text)
  | [] => some (0, [])

/-- Whether the text begins with a decimal digit. -/
def beginsWithDigit (text : List Char) : Bool := text.head?.any isAsciiDigit

/-- The rest of a number after its integer part, whose value is `significand * 10 ^ dropped`. -/
def numberTail? (negative : Bool) (significand dropped : Nat) (text : List Char) :
    Option (Number × List Char) :=
  match text with
  | '.' :: rest =>
    if !beginsWithDigit rest then none
    else
      let (significand, taken, rest) := takeDigits significand 0 rest
      (exponent? (rest.dropWhile isAsciiDigit)).bind fun (exponent, rest) =>
        (scaled? negative significand (dropped - taken + exponent)).map fun n => (n, rest)
  | _ =>
    let written := text.head?.any fun c => c = 'e' || c = 'E'
    (exponent? text).bind fun (exponent, rest) =>
      if written ∨ 0 < dropped then
        (scaled? negative significand (dropped + exponent)).map fun n => (n, rest)
      else some (integerNumber negative significand, rest)

/-- A number and the text after it. -/
def number? (text : List Char) : Option (Number × List Char) :=
  let (negative, text) := match text with
    | '-' :: rest => (true, rest)
    | text => (false, text)
  match text with
  | '0' :: rest => if beginsWithDigit rest then none else numberTail? negative 0 0 rest
  | c :: _ =>
    if !isAsciiDigit c then none
    else
      let (significand, _, rest) := takeDigits 0 0 text
      let dropped := (rest.takeWhile isAsciiDigit).length
      numberTail? negative significand dropped (rest.dropWhile isAsciiDigit)
  | [] => none

/-! ## Values -/

/-- A value that is neither array nor object, and the text after it. -/
def scalar? (text : List Char) : Option (Json × List Char) :=
  match text with
  | '"' :: _ => (string? text).map fun (value, rest) => (.string value, rest)
  | 'n' :: _ => (afterWord? "null".toList text).map fun rest => (.null, rest)
  | 't' :: _ => (afterWord? "true".toList text).map fun rest => (.bool true, rest)
  | 'f' :: _ => (afterWord? "false".toList text).map fun rest => (.bool false, rest)
  | _ => (number? text).map fun (value, rest) => (.number value, rest)

/-- The name of a member with its colon, and the text after them. -/
def memberName? (text : List Char) : Option (String × List Char) :=
  (string? text).bind fun (name, rest) =>
    match skipBlanks rest with
    | ':' :: rest => some (name, rest)
    | _ => none

mutual

/-- A value and the text after it. The value is nested at most `depth` deep; `fuel` bounds the
number of steps. -/
def value? (fuel depth : Nat) (text : List Char) : Option (Json × List Char) :=
  match fuel with
  | 0 => none
  | fuel + 1 =>
    match skipBlanks text with
    | '[' :: rest =>
      match depth with
      | 0 => none
      | depth + 1 =>
        match skipBlanks rest with
        | ']' :: rest => some (.array [], rest)
        | rest => (items? fuel depth [] rest).map fun (items, rest) => (.array items, rest)
    | '\x7b' :: rest =>
      match depth with
      | 0 => none
      | depth + 1 =>
        match skipBlanks rest with
        | '\x7d' :: rest => some (.object [], rest)
        | rest =>
          (members? fuel depth [] rest).map fun (members, rest) => (ofMembers members, rest)
    | rest => scalar? rest

/-- The items of an array up to its closing bracket, and the text after it. -/
def items? (fuel depth : Nat) (done : List Json) (text : List Char) :
    Option (List Json × List Char) :=
  match fuel with
  | 0 => none
  | fuel + 1 =>
    match value? fuel depth text with
    | none => none
    | some (item, rest) =>
      match skipBlanks rest with
      | ',' :: rest => items? fuel depth (item :: done) rest
      | ']' :: rest => some ((item :: done).reverse, rest)
      | _ => none

/-- The members of an object up to its closing brace, and the text after it. -/
def members? (fuel depth : Nat) (done : List (String × Json)) (text : List Char) :
    Option (List (String × Json) × List Char) :=
  match fuel with
  | 0 => none
  | fuel + 1 =>
    match memberName? (skipBlanks text) with
    | none => none
    | some (name, rest) =>
      match value? fuel depth rest with
      | none => none
      | some (value, rest) =>
        match skipBlanks rest with
        | ',' :: rest => members? fuel depth ((name, value) :: done) rest
        | '\x7d' :: rest => some (((name, value) :: done).reverse, rest)
        | _ => none

end

/-- A number of steps that suffices for a text: each step but every other one reads a
character. -/
def stepsFor (text : List Char) : Nat := 2 * text.length + 2

/-- How deep a document may be nested. -/
def documentDepth : Nat := 127

/-- The value that a text holds, nested at most `depth` deep. -/
def parse? (depth : Nat) (text : String) : Option Json :=
  let chars := text.toList
  (value? (stepsFor chars) depth chars).bind fun (value, rest) =>
    if (skipBlanks rest).isEmpty then some value else none

end ClientGen.Json
