import ClientGen.Unicode.Category
import ClientGen.Unicode.Property

/-!
# Regular expressions and what they match

A regular expression is evaluated on sets of positions of a text: from the positions at which it
may begin to those at which it may end. Only the existence of a match matters here, so there is
no preference between alternatives.

## Main definitions

* `Regex` — regular expressions over sets of characters.
* `Regex.ends` — the positions at which a match may end.
* `Regex.matchesIn` — whether some part of a text matches.

## Implementation notes

A set of positions is an ascending list. An unbounded repetition is the closure of the positions
under one more pass, reached after at most as many passes as there are positions.
-/

set_option autoImplicit false

namespace ClientGen

open Unicode

/-- The characters that words consist of in a pattern: letters, marks, decimal digits, connectors
and joiners. -/
def Pattern.isWord (c : Char) : Bool :=
  if isAscii c then isAsciiAlphanumeric c || c = '_'
  else isAlphabetic c ||
    inCategories [.nonspacingMark, .spacingMark, .enclosingMark, .decimalNumber,
      .connectorPunctuation] c ||
    c = '\u200c' || c = '\u200d'

/-- The characters that words consist of when a pattern is restricted to ASCII. -/
def Pattern.isAsciiWord (c : Char) : Bool := isAsciiAlphanumeric c || c = '_'

/-- The side of a word that a boundary is on. -/
inductive WordSide where
  /-- The beginning or the end of a word. -/
  | either
  /-- Neither the beginning nor the end of a word. -/
  | neither
  /-- The beginning of a word. -/
  | start
  /-- The end of a word. -/
  | stop
  /-- No word character before. -/
  | startHalf
  /-- No word character after. -/
  | stopHalf
  deriving DecidableEq, Repr

/-- A condition on a position of a text. -/
inductive Look where
  /-- The beginning of the text. -/
  | textStart
  /-- The end of the text. -/
  | textEnd
  /-- The beginning of a line. -/
  | lineStart
  /-- The end of a line. -/
  | lineEnd
  /-- The beginning of a line, where lines may end in a carriage return too. -/
  | crlfStart
  /-- The end of a line, where lines may end in a carriage return too. -/
  | crlfEnd
  /-- A boundary of words over the given word characters. -/
  | word (side : WordSide) (unicode : Bool)
  deriving DecidableEq, Repr

/-- Whether words meet a boundary of this kind between two characters, of which the text says
whether they belong to words. -/
def WordSide.holds (side : WordSide) (before after : Bool) : Bool :=
  match side with
  | .either => before != after
  | .neither => before == after
  | .start => !before && after
  | .stop => before && !after
  | .startHalf => !before
  | .stopHalf => !after

/-- Whether a condition holds between the characters on both sides of a position. -/
def Look.holds (look : Look) (before after : Option Char) : Bool :=
  match look with
  | .textStart => before.isNone
  | .textEnd => after.isNone
  | .lineStart => before.all (· = '\n')
  | .lineEnd => after.all (· = '\n')
  | .crlfStart =>
    before.all fun b => b = '\n' || (b = '\r' && after ≠ some '\n')
  | .crlfEnd =>
    after.all fun a => a = '\r' || (a = '\n' && before ≠ some '\r')
  | .word side unicode =>
    let isWord := if unicode then Pattern.isWord else Pattern.isAsciiWord
    side.holds (before.any isWord) (after.any isWord)

/-- A regular expression. -/
inductive Regex where
  /-- Matches the empty text. -/
  | empty
  /-- Matches one character of a set. -/
  | set (mem : Char → Bool)
  /-- Matches the empty text where a condition holds. -/
  | look (condition : Look)
  /-- Matches one expression and then the other. -/
  | seq (first second : Regex)
  /-- Matches either expression. -/
  | alt (first second : Regex)
  /-- Matches the expression at least `min` times, and at most `max` times if that is given. -/
  | «repeat» (body : Regex) (min : Nat) (max : Option Nat)
  deriving Inhabited

namespace Regex

/-! ## Positions -/

/-- The union of two ascending lists. -/
def union : List Nat → List Nat → List Nat
  | [], bs => bs
  | as, [] => as
  | a :: as, b :: bs =>
    if a < b then a :: union as (b :: bs)
    else if b < a then b :: union (a :: as) bs
    else a :: union as bs
termination_by as bs => as.length + bs.length

/-- The members of the first ascending list that the second one lacks. -/
def difference : List Nat → List Nat → List Nat
  | [], _ => []
  | as, [] => as
  | a :: as, b :: bs =>
    if a < b then a :: difference as (b :: bs)
    else if b < a then difference (a :: as) bs
    else difference as bs
termination_by as bs => as.length + bs.length

/-- The positions reached by exactly `count` passes. -/
def iterate (pass : List Nat → List Nat) : Nat → List Nat → List Nat
  | 0, starts => starts
  | count + 1, starts => if starts.isEmpty then [] else iterate pass count (pass starts)

/-- The positions reached by at most `count` passes; `fresh` are those positions of `seen` from
which no pass has begun. -/
def reach (pass : List Nat → List Nat) : Nat → List Nat → List Nat → List Nat
  | 0, _, seen => seen
  | count + 1, fresh, seen =>
    let next := difference (pass fresh) seen
    if next.isEmpty then seen else reach pass count next (union seen next)

/-! ## Matching -/

/-- The positions at which a match may end that begins at one of the given positions. -/
def ends (text : Array Char) : Regex → List Nat → List Nat
  | .empty, starts => starts
  | .set mem, starts =>
    starts.filterMap fun i => if text[i]?.any mem then some (i + 1) else none
  | .look condition, starts =>
    starts.filter fun i => condition.holds (if i = 0 then none else text[i - 1]?) text[i]?
  | .seq first second, starts => second.ends text (first.ends text starts)
  | .alt first second, starts => union (first.ends text starts) (second.ends text starts)
  | .repeat body min max, starts =>
    let reached := iterate (body.ends text) min starts
    let more := match max with
      | some max => max - min
      | none => text.size + 1
    reach (body.ends text) (Nat.min more (text.size + 1)) reached reached

/-- Whether some part of the text matches. -/
def matchesIn (regex : Regex) (text : String) : Bool :=
  let chars := text.toList.toArray
  !(regex.ends chars (List.range (chars.size + 1))).isEmpty

/-! ## Building expressions -/

/-- Matches the expressions one after the other. -/
def ofSequence : List Regex → Regex
  | [] => .empty
  | [regex] => regex
  | first :: rest => .seq first (ofSequence rest)

/-- Matches one of the expressions, of which there is at least one. -/
def ofAlternatives : List Regex → Regex
  | [] => .set fun _ => false
  | [regex] => regex
  | first :: rest => .alt first (ofAlternatives rest)

end Regex

end ClientGen
