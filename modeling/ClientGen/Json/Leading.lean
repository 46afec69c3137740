import ClientGen.Json.Parser

/-!
# Reading broken JSON

What can be read of an array or an object up to the first mistake. Members whose names are not
known are passed over, and there only the form of a value counts: a number may be out of range,
an escape may stand for half a character, and a value may be nested to any depth.

## Main definitions

* `Json.skipValue?` — the text after a value of any form.
* `Json.Leading` — the beginning of an array or an object.
* `Json.leading?` — the beginning of the array or object that a text begins with.
-/

set_option autoImplicit false

namespace ClientGen.Json

open ClientGen.Unicode

/-! ## Passing over values -/

/-- The text after the closing quotation mark of a string; `skip` characters are passed over
first. -/
def skipStringTail? : Nat → List Char → Option (List Char)
  | _, [] => none
  | skip + 1, _ :: rest => skipStringTail? skip rest
  | 0, c :: rest =>
    if c = '"' then some rest
    else if c = '\\' then
      match rest with
      | 'u' :: a :: b :: d :: e :: _ =>
        if (hexValue4? a b d e).isSome then skipStringTail? 5 rest else none
      | c :: _ => if (unescape? c).isSome then skipStringTail? 1 rest else none
      | [] => none
    else if c.toNat < 0x20 then none
    else skipStringTail? 0 rest

/-- The text after a string. -/
def skipString? : List Char → Option (List Char)
  | '"' :: rest => skipStringTail? 0 rest
  | _ => none

/-- The text after one or more digits. -/
def skipDigits? (text : List Char) : Option (List Char) :=
  if beginsWithDigit text then some (text.dropWhile isAsciiDigit) else none

/-- The text after a number. -/
def skipNumber? (text : List Char) : Option (List Char) := do
  let text := match text with
    | '-' :: rest => rest
    | text => text
  let text ← match text with
    | '0' :: rest => if beginsWithDigit rest then none else some rest
    | text => skipDigits? text
  let text ← match text with
    | '.' :: rest => skipDigits? rest
    | text => some text
  return (← exponent? text).2

/-- The text after a value that is neither array nor object. -/
def skipScalar? (text : List Char) : Option (List Char) :=
  match text with
  | '"' :: _ => skipString? text
  | 'n' :: _ => afterWord? "null".toList text
  | 't' :: _ => afterWord? "true".toList text
  | 'f' :: _ => afterWord? "false".toList text
  | _ => skipNumber? text

/-- The text after the name of a member and its colon. -/
def skipName? (text : List Char) : Option (List Char) :=
  (skipString? text).bind fun rest =>
    match skipBlanks rest with
    | ':' :: rest => some rest
    | _ => none

mutual

/-- The text after a value; `fuel` bounds the number of steps. -/
def skipValueFrom? (fuel : Nat) (text : List Char) : Option (List Char) :=
  match fuel with
  | 0 => none
  | fuel + 1 =>
    match skipBlanks text with
    | '[' :: rest =>
      match skipBlanks rest with
      | ']' :: rest => some rest
      | rest => skipItems? fuel rest
    | '\x7b' :: rest =>
      match skipBlanks rest with
      | '\x7d' :: rest => some rest
      | rest => skipMembers? fuel rest
    | rest => skipScalar? rest

/-- The text after the items of an array and its closing bracket. -/
def skipItems? (fuel : Nat) (text : List Char) : Option (List Char) :=
  match fuel with
  | 0 => none
  | fuel + 1 =>
    match (skipValueFrom? fuel text).map skipBlanks with
    | some (',' :: rest) => skipItems? fuel rest
    | some (']' :: rest) => some rest
    | _ => none

/-- The text after the members of an object and its closing brace. -/
def skipMembers? (fuel : Nat) (text : List Char) : Option (List Char) :=
  match fuel with
  | 0 => none
  | fuel + 1 =>
    match skipName? (skipBlanks text) with
    | none => none
    | some rest =>
      match (skipValueFrom? fuel rest).map skipBlanks with
      | some (',' :: rest) => skipMembers? fuel rest
      | some ('\x7d' :: rest) => some rest
      | _ => none

end

/-- The text after a value of any form. -/
def skipValue? (text : List Char) : Option (List Char) := skipValueFrom? (stepsFor text) text

/-! ## Beginnings -/

/-- How the reading of an array or an object ends. -/
inductive Ending where
  /-- With its closing bracket or brace, and nothing follows. -/
  | complete
  /-- With its closing bracket or brace, and something follows. -/
  | followed
  /-- With a mistake. -/
  | broken
  deriving DecidableEq, Repr, Inhabited

/-- How the reading ends when the given text comes after the closing bracket or brace. -/
def Ending.before (rest : List Char) : Ending :=
  if (skipBlanks rest).isEmpty then .complete else .followed

/-- What can be read of an array or an object. -/
inductive Leading where
  /-- The items of an array up to the end or the first mistake. -/
  | array (items : List Json) (ending : Ending)
  /-- The members of an object with known names, repeated names included, up to the end or the
  first mistake. -/
  | object (members : List (String × Json)) (ending : Ending)
  deriving Inhabited

/-- The members that an object begins with; only those with known names are kept. -/
def leadingMembers (isKnown : String → Bool) (depth : Nat) :
    Nat → List Char → List (String × Json) × Ending
  | 0, _ => ([], .broken)
  | fuel + 1, text =>
    match memberName? (skipBlanks text) with
    | none => ([], .broken)
    | some (name, rest) =>
      let member :=
        if isKnown name then
          (value? (stepsFor rest) depth rest).map fun (value, rest) => ([(name, value)], rest)
        else (skipValue? rest).map fun rest => ([], rest)
      match member with
      | none => ([], .broken)
      | some (first, rest) =>
        match skipBlanks rest with
        | ',' :: rest =>
          let (others, ending) := leadingMembers isKnown depth fuel rest
          (first ++ others, ending)
        | '\x7d' :: rest => (first, .before rest)
        | _ => (first, .broken)

/-- The items that an array begins with. -/
def leadingItems (depth : Nat) : Nat → List Char → List Json × Ending
  | 0, _ => ([], .broken)
  | fuel + 1, text =>
    match value? (stepsFor text) depth text with
    | none => ([], .broken)
    | some (item, rest) =>
      match skipBlanks rest with
      | ',' :: rest =>
        let (others, ending) := leadingItems depth fuel rest
        (item :: others, ending)
      | ']' :: rest => ([item], .before rest)
      | _ => ([item], .broken)

/-- The beginning of the array or object that a text begins with, if it begins with one. Values in
it are nested at most `depth` deep. -/
def leading? (isKnown : String → Bool) (depth : Nat) (text : String) : Option Leading :=
  match skipBlanks text.toList with
  | '[' :: rest =>
    match skipBlanks rest with
    | ']' :: rest => some (.array [] (.before rest))
    | rest =>
      let (items, ending) := leadingItems depth rest.length rest
      some (.array items ending)
  | '\x7b' :: rest =>
    match skipBlanks rest with
    | '\x7d' :: rest => some (.object [] (.before rest))
    | rest =>
      let (members, ending) := leadingMembers isKnown depth rest.length rest
      some (.object members ending)
  | _ => none

end ClientGen.Json
