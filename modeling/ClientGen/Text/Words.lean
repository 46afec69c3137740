import ClientGen.Text.Basic
import ClientGen.Unicode.Case

/-!
# Words of a name

Names in an API description come in every case convention. To spell a name in another one it is
split into lower-case words first.

A word ends at a character that is neither letter nor digit, before a capital that follows a
lower-case letter or an ASCII digit, and before the last capital of a row of capitals when a
lower-case letter follows it, so `HTTPResponse` has the words `http` and `response`.

## Main definitions

* `words` — the words of a name.
* `snakeCase`, `upperCamelCase`, `lowerCamelCase` — a name in the three conventions.
* `isIdentifier` — whether a name can be used as it is.
-/

set_option autoImplicit false

namespace ClientGen.Text

open ClientGen.Unicode

/-! ## Splitting -/

/-- Whether a capital begins a word of its own when `previous` stands before it and `rest` after
it. -/
def beginsWord (previous : Char) (rest : List Char) : Bool :=
  isLowercase previous || isAsciiDigit previous ||
    (isUppercase previous && rest.head?.any isLowercase)

/-- The word read so far, if there is one. -/
def pendingWord (current : List Char) : List (List Char) :=
  if current.isEmpty then [] else [current]

/-- The words of the rest of a name, when `previous` is the character before it and `current` the
word that has begun. -/
def wordsFrom (previous : Char) (current : List Char) : List Char → List (List Char)
  | [] => pendingWord current
  | c :: rest =>
    if !isAlphanumeric c then pendingWord current ++ wordsFrom c [] rest
    else if isUppercase c && !current.isEmpty && beginsWord previous rest then
      current :: wordsFrom c (toLowerChars c) rest
    else wordsFrom c (current ++ toLowerChars c) rest

/-- The words of a name, in lower case. -/
def words (name : List Char) : List (List Char) :=
  wordsFrom ' ' [] name

/-! ## Case conventions -/

/-- A word with its first character in upper case. -/
def capitalize : List Char → List Char
  | [] => []
  | first :: rest => toUpperChars first ++ rest

/-- The words of a name in lower case, joined by underscores. -/
def snakeCaseChars (name : List Char) : List Char :=
  List.intercalate ['_'] (words name)

/-- The words of a name, each capitalized. -/
def upperCamelCaseChars (name : List Char) : List Char :=
  (words name).flatMap capitalize

/-- The words of a name, each but the first one capitalized. -/
def lowerCamelCaseChars (name : List Char) : List Char :=
  match words name with
  | [] => []
  | first :: rest => first ++ rest.flatMap capitalize

/-- The name in `snake_case`. -/
def snakeCase (name : String) : String :=
  String.ofList (snakeCaseChars name.toList)

/-- The name in `UpperCamelCase`. -/
def upperCamelCase (name : String) : String :=
  String.ofList (upperCamelCaseChars name.toList)

/-- The name in `lowerCamelCase`. -/
def lowerCamelCase (name : String) : String :=
  String.ofList (lowerCamelCaseChars name.toList)

/-! ## Identifiers -/

/-- The characters that may stand anywhere in an identifier but not only letters and digits. -/
def isIdentifierSymbol (c : Char) : Bool := c = '_' || c = '$'

/-- Whether a name is an identifier: letters, digits, `_` and `$`, not beginning with a digit. -/
def isIdentifier (name : String) : Bool :=
  match name.toList with
  | [] => false
  | first :: rest =>
    (isAlphabetic first || isIdentifierSymbol first) &&
      rest.all fun c => isAlphanumeric c || isIdentifierSymbol c

end ClientGen.Text
