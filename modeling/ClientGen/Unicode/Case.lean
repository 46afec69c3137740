import ClientGen.Unicode.CaseTable
import ClientGen.Unicode.Property

/-!
# Upper and lower case

The case mappings of characters and texts. The mapping of a character may be a sequence of
characters, and the lower case of a capital sigma depends on its neighbours.

## Main definitions

* `toLowerChars`, `toUpperChars` — the case mappings of one character, wherever it stands.
* `toLower` — the lower case of a text, with the form of sigma that ends a word.
* `foldCase`, `caseVariants` — the comparison of characters without regard to case.
-/

set_option autoImplicit false

namespace ClientGen.Unicode

namespace CaseRun

/-- The image of a code point of the run. -/
def image? (run : CaseRun) (n : Nat) : Option Nat :=
  if run.first ≤ n ∧ n ≤ run.last ∧ (n - run.first) % run.step = 0 then
    some (run.image + (n - run.first))
  else none

/-- The code point of the run with the given image. -/
def preimage? (run : CaseRun) (n : Nat) : Option Nat :=
  if run.image ≤ n ∧ n - run.image ≤ run.last - run.first ∧ (n - run.image) % run.step = 0 then
    some (run.first + (n - run.image))
  else none

end CaseRun

/-- The image of a code point under the first run that holds it, or itself. -/
def mapRuns (runs : List CaseRun) (n : Nat) : Nat :=
  (runs.findSome? (·.image? n)).getD n

/-- The lower case of a character, regardless of its neighbours. -/
def toLowerChars (c : Char) : List Char :=
  if isAscii c then [if isAsciiUpper c then Char.ofNat (c.toNat + 32) else c]
  else match CaseTable.lowerSequences.lookup c.toNat with
    | some image => image.map Char.ofNat
    | none => [Char.ofNat (mapRuns CaseTable.lowerRuns c.toNat)]

/-- The upper case of a character. -/
def toUpperChars (c : Char) : List Char :=
  if isAscii c then [if isAsciiLower c then Char.ofNat (c.toNat - 32) else c]
  else match CaseTable.upperSequences.lookup c.toNat with
    | some image => image.map Char.ofNat
    | none => [Char.ofNat (mapRuns CaseTable.upperRuns c.toNat)]

/-- Whether the first character that the sigma rule does not look past has case. -/
def leadsWithCased (chars : List Char) : Bool :=
  (chars.find? fun c => !isCaseIgnorable c).any isCased

/-- The lower case of a text whose part `before` has been read, nearest character first. A
capital sigma after a letter and before none takes its final form. -/
def toLowerAfter (before : List Char) : List Char → List Char
  | [] => []
  | c :: rest =>
    let image :=
      if c = 'Σ' then
        [if leadsWithCased before && !leadsWithCased rest then 'ς' else 'σ']
      else toLowerChars c
    image ++ toLowerAfter (c :: before) rest

/-- The lower case of a text. -/
def toLower (text : String) : String :=
  String.ofList (toLowerAfter [] text.toList)

/-- The representative of the characters that differ from this one in case only. -/
def foldCase (c : Char) : Char :=
  if isAscii c then (if isAsciiUpper c then Char.ofNat (c.toNat + 32) else c)
  else Char.ofNat (mapRuns CaseTable.foldRuns c.toNat)

/-- All characters that differ from this one in case only, itself included. -/
def caseVariants (c : Char) : List Char :=
  let folded := foldCase c
  folded :: (CaseTable.foldRuns.filterMap (·.preimage? folded.toNat)).map Char.ofNat

end ClientGen.Unicode
