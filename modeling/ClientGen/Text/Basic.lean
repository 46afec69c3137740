import ClientGen.Unicode.Property

/-!
# Lines, trimming and replacement

The operations on texts that rendering is made of. A text is a `String`; the work is done on its
characters.

## Main definitions

* `replaceChars`, `replace` — every occurrence of one text replaced by another, left to right.
* `containsChars`, `contains` — whether one text occurs in another.
* `trimEnd`, `isBlank` — trailing white space.
* `lines` — the lines of a text without their terminators.
* `afterLast` — what follows the last occurrence of a character.

## Main results

* `replaceChars_nil` — nothing is replaced in the empty text.
-/

set_option autoImplicit false

namespace ClientGen.Text

open ClientGen.Unicode

/-! ## Replacement -/

/-- The text with `skip` characters dropped and, after them, every occurrence of `pattern` taken
from left to right and exchanged for `image`. -/
def replaceFrom (pattern image : List Char) : Nat → List Char → List Char
  | _, [] => []
  | skip + 1, _ :: rest => replaceFrom pattern image skip rest
  | 0, c :: rest =>
    if pattern.isPrefixOf (c :: rest) then
      image ++ replaceFrom pattern image (pattern.length - 1) rest
    else c :: replaceFrom pattern image 0 rest

/-- Every occurrence of the non-empty `pattern`, taken from left to right, exchanged for
`image`. -/
def replaceChars (pattern image text : List Char) : List Char :=
  replaceFrom pattern image 0 text

/-- Nothing occurs in the empty text. -/
@[simp] theorem replaceChars_nil (pattern image : List Char) :
    replaceChars pattern image [] = [] := by
  simp [replaceChars, replaceFrom]

/-- Every occurrence of the non-empty `pattern`, taken from left to right, exchanged for
`image`. -/
def replace (pattern image text : String) : String :=
  String.ofList (replaceChars pattern.toList image.toList text.toList)

/-- Whether `pattern` occurs in the text. -/
def containsChars (pattern : List Char) : List Char → Bool
  | [] => pattern.isEmpty
  | c :: rest => pattern.isPrefixOf (c :: rest) || containsChars pattern rest

/-- Whether `pattern` occurs in the text. -/
def contains (pattern text : String) : Bool :=
  containsChars pattern.toList text.toList

/-- Whether the text begins with `beginning`. -/
def beginsWith (beginning text : String) : Bool :=
  beginning.toList.isPrefixOf text.toList

/-! ## White space -/

/-- The characters without those white space characters that end them. -/
def trimEndChars (chars : List Char) : List Char :=
  (chars.reverse.dropWhile isWhiteSpace).reverse

/-- The text without the white space that ends it. -/
def trimEnd (text : String) : String :=
  String.ofList (trimEndChars text.toList)

/-- Whether the text holds white space only. -/
def isBlank (text : String) : Bool :=
  text.toList.all isWhiteSpace

/-! ## Lines -/

/-- A line that a line feed ends, read backwards: one carriage return before it goes with it. -/
def closeLine : List Char → List Char
  | '\r' :: rest => rest.reverse
  | line => line.reverse

/-- The lines of the characters when `current` is the beginning of the first one, backwards. -/
def lineCharsFrom : List Char → List Char → List (List Char)
  | current, [] => if current.isEmpty then [] else [current.reverse]
  | current, c :: rest =>
    if c = '\n' then closeLine current :: lineCharsFrom [] rest
    else lineCharsFrom (c :: current) rest

/-- The lines of the characters. A line feed ends a line, with a carriage return before it; the
last line may lack it. -/
def lineChars (chars : List Char) : List (List Char) :=
  lineCharsFrom [] chars

/-- The lines of a text. -/
def lines (text : String) : List String :=
  (lineChars text.toList).map String.ofList

/-! ## Separators -/

/-- What follows the last `separator` among the characters, or all of them. -/
def afterLastChars (separator : Char) (chars : List Char) : List Char :=
  (chars.reverse.takeWhile (· ≠ separator)).reverse

/-- What follows the last `separator` of a text, or the whole text. -/
def afterLast (separator : Char) (text : String) : String :=
  String.ofList (afterLastChars separator text.toList)

/-- The pieces of the characters between separators; `current` begins the first one, backwards. -/
def splitCharsFrom (separator : Char) : List Char → List Char → List (List Char)
  | current, [] => [current.reverse]
  | current, c :: rest =>
    if c = separator then current.reverse :: splitCharsFrom separator [] rest
    else splitCharsFrom separator (c :: current) rest

/-- The pieces of the characters between separators, one more than there are separators. -/
def splitChars (separator : Char) (chars : List Char) : List (List Char) :=
  splitCharsFrom separator [] chars

/-- The pieces of a text between separators. -/
def split (separator : Char) (text : String) : List String :=
  (splitChars separator text.toList).map String.ofList

/-- A text repeated. -/
def repeated (count : Nat) (text : String) : String :=
  String.join (List.replicate count text)

end ClientGen.Text
