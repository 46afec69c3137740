import ClientGen.Unicode.Category
import ClientGen.Unicode.PropertyTable

/-!
# Letters, digits, case and white space

The character properties that names, texts and patterns are read with. Each property of a
character outside ASCII is looked up in the tables; for an ASCII character it is a comparison of
code points, which makes statements about ASCII text easy to compute.

## Main definitions

* `isAlphabetic`, `isNumeric`, `isAlphanumeric` — the characters of names.
* `isUppercase`, `isLowercase` — the characters with case.
* `isWhiteSpace` — the characters that trimming removes.
* `isCased`, `isCaseIgnorable` — what decides the lower case of a final sigma.
* `extendsGrapheme`, `isPrintable` — what decides which characters a quoted text escapes.
-/

set_option autoImplicit false

namespace ClientGen.Unicode

/-- The code points below 128. -/
def isAscii (c : Char) : Bool := c.toNat < 128

/-- `A` to `Z`. -/
def isAsciiUpper (c : Char) : Bool := 'A' ≤ c && c ≤ 'Z'

/-- `a` to `z`. -/
def isAsciiLower (c : Char) : Bool := 'a' ≤ c && c ≤ 'z'

/-- `0` to `9`. -/
def isAsciiDigit (c : Char) : Bool := '0' ≤ c && c ≤ '9'

/-- The letters and digits of ASCII. -/
def isAsciiAlphanumeric (c : Char) : Bool := isAsciiUpper c || isAsciiLower c || isAsciiDigit c

/-- Whether the character belongs to one of the categories. -/
def inCategories (categories : List Category) (c : Char) : Bool :=
  categories.any (·.contains c)

/-- The alphabetic characters: letters, letter-like numbers and some marks and symbols. -/
def isAlphabetic (c : Char) : Bool :=
  if isAscii c then isAsciiUpper c || isAsciiLower c
  else
    inCategories [.lowercaseLetter, .otherLetter, .uppercaseLetter, .titlecaseLetter,
      .modifierLetter, .letterNumber] c ||
    inBounds PropertyTable.otherAlphabetic c.toNat

/-- The numeric characters: decimal digits, letter-like numbers and other numbers. -/
def isNumeric (c : Char) : Bool :=
  if isAscii c then isAsciiDigit c
  else inCategories [.decimalNumber, .letterNumber, .otherNumber] c

/-- The characters a word is made of: alphabetic or numeric ones. -/
def isAlphanumeric (c : Char) : Bool := isAlphabetic c || isNumeric c

/-- The characters in upper case. -/
def isUppercase (c : Char) : Bool :=
  if isAscii c then isAsciiUpper c
  else Category.uppercaseLetter.contains c || inBounds PropertyTable.otherUppercase c.toNat

/-- The characters in lower case. -/
def isLowercase (c : Char) : Bool :=
  if isAscii c then isAsciiLower c
  else Category.lowercaseLetter.contains c || inBounds PropertyTable.otherLowercase c.toNat

/-- The white space characters. -/
def isWhiteSpace (c : Char) : Bool := inBounds PropertyTable.whiteSpace c.toNat

/-- The characters with case: upper, lower and title case. -/
def isCased (c : Char) : Bool :=
  isUppercase c || isLowercase c || Category.titlecaseLetter.contains c

/-- The characters that the rule for a final sigma looks past. -/
def isCaseIgnorable (c : Char) : Bool :=
  inCategories [.nonspacingMark, .enclosingMark, .format, .modifierLetter, .modifierSymbol] c ||
  inBounds PropertyTable.otherCaseIgnorable c.toNat

/-- The characters that attach to the one before them. -/
def extendsGrapheme (c : Char) : Bool :=
  inCategories [.nonspacingMark, .enclosingMark] c ||
  inBounds PropertyTable.otherGraphemeExtend c.toNat

/-- The characters that a quoted text shows as they are: the space and every assigned character
that is neither a separator nor a control, format or private-use character. -/
def isPrintable (c : Char) : Bool :=
  if isAscii c then 0x20 ≤ c.toNat && c.toNat < 0x7F
  else !(isUnassigned c ||
    inCategories [.control, .format, .privateUse, .lineSeparator, .paragraphSeparator,
      .spaceSeparator] c)

end ClientGen.Unicode
