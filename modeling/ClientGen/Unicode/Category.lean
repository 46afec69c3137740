import ClientGen.Unicode.Bounds
import ClientGen.Unicode.LetterTable
import ClientGen.Unicode.MarkTable
import ClientGen.Unicode.SymbolTable

/-!
# General categories of characters

Every assigned character has one general category. The tables of the categories live in modules
of their own; this one names the categories and says which characters belong to each.

## Main definitions

* `Category` — the general categories of assigned characters.
* `Category.contains` — the characters of a category.
* `isUnassigned` — the characters without a category.
-/

set_option autoImplicit false

namespace ClientGen.Unicode

/-- The general category of an assigned character. -/
inductive Category where
  /-- An upper-case letter (`Lu`). -/
  | uppercaseLetter
  /-- A lower-case letter (`Ll`). -/
  | lowercaseLetter
  /-- A title-case letter (`Lt`). -/
  | titlecaseLetter
  /-- A modifier letter (`Lm`). -/
  | modifierLetter
  /-- A letter without case (`Lo`). -/
  | otherLetter
  /-- A non-spacing mark (`Mn`). -/
  | nonspacingMark
  /-- A spacing combining mark (`Mc`). -/
  | spacingMark
  /-- An enclosing mark (`Me`). -/
  | enclosingMark
  /-- A decimal digit (`Nd`). -/
  | decimalNumber
  /-- A letter-like number (`Nl`). -/
  | letterNumber
  /-- Another number (`No`). -/
  | otherNumber
  /-- Connector punctuation (`Pc`). -/
  | connectorPunctuation
  /-- A dash (`Pd`). -/
  | dashPunctuation
  /-- An opening bracket (`Ps`). -/
  | openPunctuation
  /-- A closing bracket (`Pe`). -/
  | closePunctuation
  /-- An opening quotation mark (`Pi`). -/
  | initialPunctuation
  /-- A closing quotation mark (`Pf`). -/
  | finalPunctuation
  /-- Other punctuation (`Po`). -/
  | otherPunctuation
  /-- A mathematical symbol (`Sm`). -/
  | mathSymbol
  /-- A currency symbol (`Sc`). -/
  | currencySymbol
  /-- A modifier symbol (`Sk`). -/
  | modifierSymbol
  /-- Another symbol (`So`). -/
  | otherSymbol
  /-- A space separator (`Zs`). -/
  | spaceSeparator
  /-- A line separator (`Zl`). -/
  | lineSeparator
  /-- A paragraph separator (`Zp`). -/
  | paragraphSeparator
  /-- A control character (`Cc`). -/
  | control
  /-- A format character (`Cf`). -/
  | format
  /-- A private-use character (`Co`). -/
  | privateUse
  deriving DecidableEq, Repr

namespace Category

/-- All categories, in the customary order. -/
def all : List Category :=
  [.uppercaseLetter, .lowercaseLetter, .titlecaseLetter, .modifierLetter, .otherLetter,
   .nonspacingMark, .spacingMark, .enclosingMark, .decimalNumber, .letterNumber, .otherNumber,
   .connectorPunctuation, .dashPunctuation, .openPunctuation, .closePunctuation,
   .initialPunctuation, .finalPunctuation, .otherPunctuation, .mathSymbol, .currencySymbol,
   .modifierSymbol, .otherSymbol, .spaceSeparator, .lineSeparator, .paragraphSeparator,
   .control, .format, .privateUse]

/-- The bounds of the code points of a category. -/
def bounds : Category → List Nat
  | .uppercaseLetter => LetterTable.uppercaseLetters
  | .lowercaseLetter => LetterTable.lowercaseLetters
  | .titlecaseLetter => LetterTable.titlecaseLetters
  | .modifierLetter => LetterTable.modifierLetters
  | .otherLetter => LetterTable.otherLetters
  | .nonspacingMark => MarkTable.nonspacingMarks
  | .spacingMark => MarkTable.spacingMarks
  | .enclosingMark => MarkTable.enclosingMarks
  | .decimalNumber => MarkTable.decimalNumbers
  | .letterNumber => MarkTable.letterNumbers
  | .otherNumber => MarkTable.otherNumbers
  | .connectorPunctuation => SymbolTable.connectorPunctuation
  | .dashPunctuation => SymbolTable.dashPunctuation
  | .openPunctuation => SymbolTable.openPunctuation
  | .closePunctuation => SymbolTable.closePunctuation
  | .initialPunctuation => SymbolTable.initialPunctuation
  | .finalPunctuation => SymbolTable.finalPunctuation
  | .otherPunctuation => SymbolTable.otherPunctuation
  | .mathSymbol => SymbolTable.mathSymbols
  | .currencySymbol => SymbolTable.currencySymbols
  | .modifierSymbol => SymbolTable.modifierSymbols
  | .otherSymbol => SymbolTable.otherSymbols
  | .spaceSeparator => SymbolTable.spaceSeparators
  | .lineSeparator => SymbolTable.lineSeparators
  | .paragraphSeparator => SymbolTable.paragraphSeparators
  | .control => SymbolTable.controls
  | .format => SymbolTable.formats
  | .privateUse => SymbolTable.privateUse

/-- The characters of a category. -/
def contains (category : Category) (c : Char) : Bool :=
  inBounds category.bounds c.toNat

end Category

/-- The characters that belong to no category. -/
def isUnassigned (c : Char) : Bool :=
  !Category.all.any (·.contains c)

end ClientGen.Unicode
