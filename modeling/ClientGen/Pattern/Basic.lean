import ClientGen.Pattern.Named
import ClientGen.Pattern.Parser
import ClientGen.Unicode.Case

/-!
# Patterns

A pattern is a regular expression as users write it. Its flags decide what its parts mean: under
`i` every set of characters is closed under case, under `m` the anchors look at lines, and without
`u` classes hold ASCII characters only, so a class that would hold anything else is refused.

## Main definitions

* `Pattern.Options` — the flags in force.
* `Pattern.Syntax.meaning?` — the expression that a pattern means.
* `Pattern` — a pattern that has been accepted.
* `Pattern.compile?`, `Pattern.isMatch` — the public interface.
-/

set_option autoImplicit false

namespace ClientGen

open Unicode

namespace Pattern

/-! ## Flags -/

/-- The flags in force at some place of a pattern. -/
structure Options where
  /-- Whether letters match in either case. -/
  caseInsensitive : Bool
  /-- Whether `^` and `$` match at lines. -/
  multiLine : Bool
  /-- Whether `.` matches line feeds. -/
  dotAll : Bool
  /-- Whether classes hold characters beyond ASCII. -/
  unicode : Bool
  /-- Whether a carriage return ends a line too. -/
  crlf : Bool
  deriving DecidableEq, Repr

/-- The flags after one of them has been switched. -/
def Options.switch (o : Options) (change : Flag × Bool) : Options :=
  match change.1 with
  | .caseInsensitive => { o with caseInsensitive := change.2 }
  | .multiLine => { o with multiLine := change.2 }
  | .dotAll => { o with dotAll := change.2 }
  | .unicode => { o with unicode := change.2 }
  | .crlf => { o with crlf := change.2 }
  | .swapGreed => o
  | .verbose => o

/-- The flags after some of them have been switched. -/
def Options.switchAll (o : Options) (changes : List (Flag × Bool)) : Options :=
  changes.foldl Options.switch o

/-! ## Sets of characters -/

/-- The set closed under case. -/
def CharSet.closeCase (s : CharSet) : CharSet := fun c => (caseVariants c).any s

/-- The other case of an ASCII letter. -/
def swapAsciiCase (c : Char) : Char :=
  if isAsciiUpper c then Char.ofNat (c.toNat + 32)
  else if isAsciiLower c then Char.ofNat (c.toNat - 32)
  else c

/-- The set closed under the case of ASCII letters. -/
def CharSet.closeAsciiCase (s : CharSet) : CharSet := fun c => s c || s (swapAsciiCase c)

/-- The set closed under case as far as the flags ask for it. -/
def CharSet.close (o : Options) (s : CharSet) : CharSet :=
  if o.caseInsensitive then (if o.unicode then s.closeCase else s.closeAsciiCase) else s

/-- The complement of a set, among bytes where classes are restricted to ASCII. -/
def CharSet.negate (o : Options) (negated : Bool) (s : CharSet) : CharSet :=
  if !negated then s
  else if o.unicode then s.compl
  else fun c => c.toNat ≤ 0xFF && !s c

/-- The set, which may hold no byte beyond ASCII where classes are restricted to ASCII. -/
def CharSet.restrict? (o : Options) (s : CharSet) : Option CharSet :=
  if o.unicode then some s
  else if (List.range 128).any fun i => s (Char.ofNat (i + 128)) then none
  else some s

/-- The character of a literal inside a class. -/
def Literal.inClass? (o : Options) (literal : Literal) : Option Char :=
  if o.unicode || literal.byte || isAscii literal.char then some literal.char else none

/-- The class with a letter of its own. -/
def LetterClass.meaning (o : Options) : LetterClass → CharSet
  | .digit => if o.unicode then Category.decimalNumber.contains else isAsciiDigit
  | .space => if o.unicode then isWhiteSpace else asciiClass "space"
  | .word => if o.unicode then isWord else isAsciiWord

/-- Two sets joined by an operator. -/
def ClassOperator.apply (operator : ClassOperator) (s t : CharSet) : CharSet := fun c =>
  match operator with
  | .intersection => s c && t c
  | .difference => s c && !t c
  | .symmetricDifference => s c != t c

mutual

/-- The set of characters that a class means, if the flags allow the class. -/
def ClassSet.meaning? (o : Options) : ClassSet → Option CharSet
  | .literal char => (char.inClass? o).map fun c d => d = c
  | .range first last => do
    return CharSet.range (← first.inClass? o) (← last.inClass? o)
  | .ascii name negated =>
    (((asciiClass name).close o).negate o negated).restrict? o
  | .letter kind negated => ((kind.meaning o).negate o negated).restrict? o
  | .named name value negated =>
    if o.unicode then
      (namedClass? name value).map fun s => (s.close o).negate o negated
    else none
  | .union items => ClassSet.unionMeaning? o items
  | .bracketed negated body =>
    (body.meaning? o).bind fun s => ((s.close o).negate o negated).restrict? o
  | .operation operator first second => do
    let s ← first.meaning? o
    let t ← second.meaning? o
    return operator.apply (s.close o) (t.close o)

/-- The set of characters that belong to any of the classes. -/
def ClassSet.unionMeaning? (o : Options) : List ClassSet → Option CharSet
  | [] => some fun _ => false
  | item :: rest => do
    let s ← item.meaning? o
    let t ← ClassSet.unionMeaning? o rest
    return fun c => s c || t c

end

/-! ## Patterns -/

/-- The expression that a character of a pattern means. -/
def Literal.meaning? (o : Options) (literal : Literal) : Option Regex :=
  let c := literal.char
  if o.unicode then
    if o.caseInsensitive then
      let variants := caseVariants c
      some (.set fun d => variants.contains d)
    else some (.set fun d => d = c)
  else if literal.byte && !isAscii c then none
  else if o.caseInsensitive && isAscii c then
    some (.set fun d => d = c || d = swapAsciiCase c)
  else some (.set fun d => d = c)

/-- The expression that the dot means. -/
def dotMeaning? (o : Options) : Option Regex :=
  if !o.unicode then none
  else if o.dotAll then some (.set CharSet.all)
  else if o.crlf then some (.set fun c => c ≠ '\n' && c ≠ '\r')
  else some (.set fun c => c ≠ '\n')

/-- The condition that an assertion means. -/
def Assertion.meaning (o : Options) : Assertion → Look
  | .lineStart =>
    if o.multiLine then (if o.crlf then .crlfStart else .lineStart) else .textStart
  | .lineEnd => if o.multiLine then (if o.crlf then .crlfEnd else .lineEnd) else .textEnd
  | .textStart => .textStart
  | .textEnd => .textEnd
  | .wordBoundary => .word .either o.unicode
  | .notWordBoundary => .word .neither o.unicode
  | .wordStart => .word .start o.unicode
  | .wordEnd => .word .stop o.unicode
  | .wordStartHalf => .word .startHalf o.unicode
  | .wordEndHalf => .word .stopHalf o.unicode

mutual

/-- The expression that a pattern means and the flags in force after it, if the flags allow every
part of it. -/
def Syntax.meaning? (o : Options) : Syntax → Option (Regex × Options)
  | .empty => some (.empty, o)
  | .flags changes => some (.empty, o.switchAll changes)
  | .literal char => (char.meaning? o).map fun regex => (regex, o)
  | .dot => (dotMeaning? o).map fun regex => (regex, o)
  | .assertion what => some (.look (what.meaning o), o)
  | .charClass body => (body.meaning? o).map fun s => (.set s, o)
  | .group changes body =>
    (body.meaning? (o.switchAll changes)).map fun (regex, _) => (regex, o)
  | .repeat body min max =>
    (body.meaning? o).map fun (regex, o) => (.repeat regex min max, o)
  | .sequence items =>
    (Syntax.meanings? o items).map fun (regexes, o) => (Regex.ofSequence regexes, o)
  | .alternatives items =>
    (Syntax.meanings? o items).map fun (regexes, o) => (Regex.ofAlternatives regexes, o)

/-- The expressions that some patterns mean, one after the other, and the flags in force after
them. -/
def Syntax.meanings? (o : Options) : List Syntax → Option (List Regex × Options)
  | [] => some ([], o)
  | item :: rest => do
    let (regex, o) ← item.meaning? o
    let (regexes, o) ← Syntax.meanings? o rest
    return (regex :: regexes, o)

end

/-! ## Size -/

mutual

/-- The bytes that the automaton of a class takes, roughly. -/
def ClassSet.weight : ClassSet → Nat
  | .letter .word _ => 50000
  | .letter _ _ => 3000
  | .named _ _ _ => 30000
  | .union items => ClassSet.weightList items
  | .bracketed _ body => body.weight
  | .operation _ first second => first.weight + second.weight
  | _ => 48

/-- The bytes that the automata of some classes take together, roughly. -/
def ClassSet.weightList : List ClassSet → Nat
  | [] => 0
  | item :: rest => item.weight + ClassSet.weightList rest

end

mutual

/-- The bytes that the automaton of a pattern takes, roughly: every repetition is written out as
often as it must match. -/
def Syntax.weight : Syntax → Nat
  | .literal written => 32 * written.char.utf8Size
  | .charClass body => body.weight
  | .group _ body => body.weight
  | .repeat body min max => (body.weight + 32) * Nat.max 1 (max.getD min)
  | .sequence items => Syntax.weightList items
  | .alternatives items => Syntax.weightList items
  | _ => 32

/-- The bytes that the automata of some patterns take together, roughly. -/
def Syntax.weightList : List Syntax → Nat
  | [] => 0
  | item :: rest => item.weight + Syntax.weightList rest

end

/-- How large the automaton of a pattern may be, in bytes. -/
def weightLimit : Nat := 10 * Nat.pow 2 20

/-- The flags that a search begins with. -/
def Options.search : Options := ⟨true, true, false, true, false⟩

end Pattern

/-- A pattern that has been accepted. -/
structure Pattern where
  /-- The expression that the pattern means. -/
  regex : Regex

namespace Pattern

/-- A pattern that is searched for without regard to case and line by line. A pattern is refused
if it has no syntax, if the flags forbid a part of it, or if it is too large. -/
def compile? (text : String) : Option Pattern := do
  let pattern ← parse? text
  if weightLimit < pattern.weight then none
  let (regex, _) ← pattern.meaning? .search
  return ⟨regex⟩

/-- Whether the pattern matches some part of a text. -/
def isMatch (pattern : Pattern) (text : String) : Bool := pattern.regex.matchesIn text

end Pattern

end ClientGen
