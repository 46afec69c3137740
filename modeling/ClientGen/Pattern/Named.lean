import ClientGen.Pattern.Regex
import ClientGen.Pattern.Syntax
import ClientGen.Unicode.Script

/-!
# Character classes with a name

The classes of characters that a pattern can name: the ASCII classes between brackets, and general
categories, properties and scripts behind `\p`. Names are compared without regard to case, blanks, hyphens
and underscores.

## Main definitions

* `Pattern.CharSet` — sets of characters.
* `Pattern.asciiClass` — the named ASCII classes.
* `Pattern.namedClass?` — the classes behind `\p`.
-/

set_option autoImplicit false

namespace ClientGen.Pattern

open ClientGen.Unicode

/-- A set of characters. -/
abbrev CharSet := Char → Bool

namespace CharSet

/-- The set of all characters. -/
def all : CharSet := fun _ => true

/-- The characters outside a set. -/
def compl (s : CharSet) : CharSet := fun c => !s c

/-- The characters between two others. -/
def range (first last : Char) : CharSet := fun c => first ≤ c && c ≤ last

/-- The members of a set or, if it is negated, the characters outside it. -/
def negateIf (negated : Bool) (s : CharSet) : CharSet := if negated then s.compl else s

end CharSet

/-! ## ASCII classes -/

/-- The characters of a named ASCII class. -/
def asciiClass (name : String) : CharSet := fun c =>
  match name with
  | "alnum" => isAsciiAlphanumeric c
  | "alpha" => isAsciiUpper c || isAsciiLower c
  | "ascii" => isAscii c
  | "blank" => c = '\t' || c = ' '
  | "cntrl" => c.toNat < 0x20 || c.toNat = 0x7F
  | "digit" => isAsciiDigit c
  | "graph" => '!' ≤ c && c ≤ '~'
  | "lower" => isAsciiLower c
  | "print" => ' ' ≤ c && c ≤ '~'
  | "punct" => '!' ≤ c && c ≤ '~' && !isAsciiAlphanumeric c
  | "space" => (9 ≤ c.toNat && c.toNat ≤ 13) || c = ' '
  | "upper" => isAsciiUpper c
  | "word" => isAsciiWord c
  | "xdigit" => isAsciiDigit c || ('a' ≤ c && c ≤ 'f') || ('A' ≤ c && c ≤ 'F')
  | _ => false

/-! ## Names -/

/-- A name without regard to case, blanks, hyphens, underscores and a leading `is`. -/
def normalizeName (name : String) : String :=
  let lower := name.toList.map fun c => if isAsciiUpper c then Char.ofNat (c.toNat + 32) else c
  let significant := fun chars : List Char =>
    chars.filter fun c => isAscii c && c ≠ ' ' && c ≠ '_' && c ≠ '-'
  match lower with
  | 'i' :: 's' :: rest =>
    if significant rest = ['c'] then "isc" else String.ofList (significant rest)
  | chars => String.ofList (significant chars)

/-- The general categories that a normalized name stands for. -/
def categoriesNamed? : String → Option (List Category)
  | "lu" => some [.uppercaseLetter]
  | "uppercaseletter" => some [.uppercaseLetter]
  | "ll" => some [.lowercaseLetter]
  | "lowercaseletter" => some [.lowercaseLetter]
  | "lt" => some [.titlecaseLetter]
  | "titlecaseletter" => some [.titlecaseLetter]
  | "lc" => some [.uppercaseLetter, .lowercaseLetter, .titlecaseLetter]
  | "casedletter" => some [.uppercaseLetter, .lowercaseLetter, .titlecaseLetter]
  | "lm" => some [.modifierLetter]
  | "modifierletter" => some [.modifierLetter]
  | "lo" => some [.otherLetter]
  | "otherletter" => some [.otherLetter]
  | "l" => some letters
  | "letter" => some letters
  | "mn" => some [.nonspacingMark]
  | "nonspacingmark" => some [.nonspacingMark]
  | "mc" => some [.spacingMark]
  | "spacingmark" => some [.spacingMark]
  | "me" => some [.enclosingMark]
  | "enclosingmark" => some [.enclosingMark]
  | "m" => some marks
  | "mark" => some marks
  | "combiningmark" => some marks
  | "nd" => some [.decimalNumber]
  | "decimalnumber" => some [.decimalNumber]
  | "digit" => some [.decimalNumber]
  | "nl" => some [.letterNumber]
  | "letternumber" => some [.letterNumber]
  | "no" => some [.otherNumber]
  | "othernumber" => some [.otherNumber]
  | "n" => some [.decimalNumber, .letterNumber, .otherNumber]
  | "number" => some [.decimalNumber, .letterNumber, .otherNumber]
  | "pc" => some [.connectorPunctuation]
  | "connectorpunctuation" => some [.connectorPunctuation]
  | "pd" => some [.dashPunctuation]
  | "dashpunctuation" => some [.dashPunctuation]
  | "ps" => some [.openPunctuation]
  | "openpunctuation" => some [.openPunctuation]
  | "pe" => some [.closePunctuation]
  | "closepunctuation" => some [.closePunctuation]
  | "pi" => some [.initialPunctuation]
  | "initialpunctuation" => some [.initialPunctuation]
  | "pf" => some [.finalPunctuation]
  | "finalpunctuation" => some [.finalPunctuation]
  | "po" => some [.otherPunctuation]
  | "otherpunctuation" => some [.otherPunctuation]
  | "p" => some punctuation
  | "punctuation" => some punctuation
  | "punct" => some punctuation
  | "sm" => some [.mathSymbol]
  | "mathsymbol" => some [.mathSymbol]
  | "sc" => some [.currencySymbol]
  | "currencysymbol" => some [.currencySymbol]
  | "sk" => some [.modifierSymbol]
  | "modifiersymbol" => some [.modifierSymbol]
  | "so" => some [.otherSymbol]
  | "othersymbol" => some [.otherSymbol]
  | "s" => some [.mathSymbol, .currencySymbol, .modifierSymbol, .otherSymbol]
  | "symbol" => some [.mathSymbol, .currencySymbol, .modifierSymbol, .otherSymbol]
  | "zs" => some [.spaceSeparator]
  | "spaceseparator" => some [.spaceSeparator]
  | "zl" => some [.lineSeparator]
  | "lineseparator" => some [.lineSeparator]
  | "zp" => some [.paragraphSeparator]
  | "paragraphseparator" => some [.paragraphSeparator]
  | "z" => some [.spaceSeparator, .lineSeparator, .paragraphSeparator]
  | "separator" => some [.spaceSeparator, .lineSeparator, .paragraphSeparator]
  | "cc" => some [.control]
  | "control" => some [.control]
  | "cntrl" => some [.control]
  | "cf" => some [.format]
  | "format" => some [.format]
  | "co" => some [.privateUse]
  | "privateuse" => some [.privateUse]
  | _ => none
where
  /-- The categories of letters. -/
  letters : List Category :=
    [.uppercaseLetter, .lowercaseLetter, .titlecaseLetter, .modifierLetter, .otherLetter]
  /-- The categories of marks. -/
  marks : List Category := [.nonspacingMark, .spacingMark, .enclosingMark]
  /-- The categories of punctuation. -/
  punctuation : List Category :=
    [.connectorPunctuation, .dashPunctuation, .openPunctuation, .closePunctuation,
      .initialPunctuation, .finalPunctuation, .otherPunctuation]

/-- The characters of the general categories that a normalized name stands for. -/
def categoryClass? (name : String) : Option CharSet :=
  match name with
  | "any" => some .all
  | "ascii" => some isAscii
  | "assigned" => some fun c => !isUnassigned c
  | "cn" => some isUnassigned
  | "unassigned" => some isUnassigned
  | "c" => some otherClass
  | "other" => some otherClass
  | name => (categoriesNamed? name).map inCategories
where
  /-- The characters that are neither letters, marks, numbers, punctuation, symbols nor
  separators. -/
  otherClass : CharSet := fun c =>
    inCategories [.control, .format, .privateUse] c || isUnassigned c

/-- The characters with the property that a normalized name stands for. -/
def propertyClass? : String → Option CharSet
  | "alphabetic" => some isAlphabetic
  | "alpha" => some isAlphabetic
  | "uppercase" => some isUppercase
  | "upper" => some isUppercase
  | "lowercase" => some isLowercase
  | "lower" => some isLowercase
  | "whitespace" => some isWhiteSpace
  | "wspace" => some isWhiteSpace
  | "space" => some isWhiteSpace
  | "cased" => some isCased
  | "caseignorable" => some isCaseIgnorable
  | "ci" => some isCaseIgnorable
  | "graphemeextend" => some extendsGrapheme
  | "grext" => some extendsGrapheme
  | "joincontrol" => some fun c => c = '\u200c' || c = '\u200d'
  | "joinc" => some fun c => c = '\u200c' || c = '\u200d'
  | "asciihexdigit" => some (asciiClass "xdigit")
  | "ahex" => some (asciiClass "xdigit")
  | "hexdigit" => some hexDigits
  | "hex" => some hexDigits
  | _ => none
where
  /-- The hexadecimal digits, in the full-width form too. -/
  hexDigits : CharSet := fun c =>
    asciiClass "xdigit" c || CharSet.range '\uff10' '\uff19' c ||
      CharSet.range '\uff21' '\uff26' c || CharSet.range '\uff41' '\uff46' c

/-- The characters that belong to the script that a normalized name stands for. -/
def scriptClass? (name : String) : Option CharSet :=
  (Script.ofName? name).map Script.contains

/-- The characters that the script uses that a normalized name stands for. -/
def scriptUseClass? (name : String) : Option CharSet :=
  (Script.ofName? name).map Script.isUsedWith

/-- The class behind `\p`: a property, a general category or a script, or a category or script
given by the name of the property and its value. -/
def namedClass? (name : String) (value : Option String) : Option CharSet :=
  let name := normalizeName name
  match value.map normalizeName with
  | none =>
    let property := if ["cf", "sc", "lc"].contains name then none else propertyClass? name
    (property.or (categoryClass? name)).or (scriptClass? name)
  | some value =>
    if ["generalcategory", "gc"].contains name then categoryClass? value
    else if ["script", "sc"].contains name then scriptClass? value
    else if ["scriptextensions", "scx"].contains name then scriptUseClass? value
    else none

end ClientGen.Pattern
