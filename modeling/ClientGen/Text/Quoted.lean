import ClientGen.Unicode.Property

/-!
# Quoted texts in messages

A text that a message quotes stands between quotation marks. Characters that would not be seen
are written as escapes.

## Main definitions

* `quoted` — a text between quotation marks.
* `quotedList` — the quoted texts of a list between brackets.
-/

set_option autoImplicit false

namespace ClientGen.Text

open ClientGen.Unicode

/-- The hexadecimal digits of a number, in lower case. -/
def hexDigits (n : Nat) : List Char := Nat.toDigits 16 n

/-- A character of a quoted text. -/
def quotedChar (c : Char) : List Char :=
  match c with
  | '\x00' => ['\\', '0']
  | '\t' => ['\\', 't']
  | '\r' => ['\\', 'r']
  | '\n' => ['\\', 'n']
  | '"' => ['\\', '"']
  | '\\' => ['\\', '\\']
  | c =>
    if extendsGrapheme c || !isPrintable c then
      ['\\', 'u', '\x7b'] ++ hexDigits c.toNat ++ ['\x7d']
    else [c]

/-- A text between quotation marks. -/
def quoted (text : String) : String :=
  String.ofList ('"' :: (text.toList.flatMap quotedChar ++ ['"']))

/-- The quoted texts of a list, between brackets. -/
def quotedList (texts : List String) : String :=
  "[" ++ ", ".intercalate (texts.map quoted) ++ "]"

end ClientGen.Text
