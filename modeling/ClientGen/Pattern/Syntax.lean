/-!
# The syntax of patterns

A pattern as it is written, before flags and names of character classes are given a meaning.

## Main definitions

* `Pattern.Flag`, `Pattern.Literal`, `Pattern.ClassSet` — the parts of a pattern.
* `Pattern.Syntax` — patterns.
* `Pattern.Syntax.depth` — how deep a pattern is nested.
-/

set_option autoImplicit false

namespace ClientGen.Pattern

/-- A flag that changes how a pattern is read. -/
inductive Flag where
  /-- Letters match in either case. -/
  | caseInsensitive
  /-- `^` and `$` match at lines. -/
  | multiLine
  /-- `.` matches line feeds. -/
  | dotAll
  /-- Repetitions prefer few matches. -/
  | swapGreed
  /-- Classes hold characters beyond ASCII. -/
  | unicode
  /-- A carriage return ends a line too. -/
  | crlf
  /-- White space and comments are skipped. -/
  | verbose
  deriving DecidableEq, Repr

/-- A character of a pattern. -/
structure Literal where
  /-- The character. -/
  char : Char
  /-- Whether it is written as two hexadecimal digits, which may name a byte. -/
  byte : Bool
  deriving DecidableEq, Repr

/-- The classes with a letter of their own. -/
inductive LetterClass where
  /-- `\d`: decimal digits. -/
  | digit
  /-- `\s`: white space. -/
  | space
  /-- `\w`: word characters. -/
  | word
  deriving DecidableEq, Repr

/-- The operators on classes. -/
inductive ClassOperator where
  /-- Members of both classes. -/
  | intersection
  /-- Members of the first class only. -/
  | difference
  /-- Members of one class only. -/
  | symmetricDifference
  deriving DecidableEq, Repr

/-- A class of characters as it is written. -/
inductive ClassSet where
  /-- One character. -/
  | literal (literal : Literal)
  /-- The characters between two others. -/
  | range (first last : Literal)
  /-- A named ASCII class such as `[:alpha:]`. -/
  | ascii (name : String) (negated : Bool)
  /-- A class with a letter of its own. -/
  | letter (letter : LetterClass) (negated : Bool)
  /-- A class with a name and, for some, a value. -/
  | named (name : String) (value : Option String) (negated : Bool)
  /-- The members of any of several classes. -/
  | union (items : List ClassSet)
  /-- A class between brackets. -/
  | bracketed (negated : Bool) (body : ClassSet)
  /-- Two classes joined by an operator. -/
  | operation (operator : ClassOperator) (first second : ClassSet)
  deriving Repr, Inhabited

/-- An assertion about a position. -/
inductive Assertion where
  /-- `^` -/
  | lineStart
  /-- `$` -/
  | lineEnd
  /-- `\A` -/
  | textStart
  /-- `\z` -/
  | textEnd
  /-- `\b` -/
  | wordBoundary
  /-- `\B` -/
  | notWordBoundary
  /-- The beginning of a word. -/
  | wordStart
  /-- The end of a word. -/
  | wordEnd
  /-- No word character before. -/
  | wordStartHalf
  /-- No word character after. -/
  | wordEndHalf
  deriving DecidableEq, Repr

/-- A pattern as it is written. -/
inductive Syntax where
  /-- Nothing. -/
  | empty
  /-- Flags for the rest of the group. -/
  | flags (changes : List (Flag × Bool))
  /-- One character. -/
  | literal (literal : Literal)
  /-- `.` -/
  | dot
  /-- An assertion about a position. -/
  | assertion (assertion : Assertion)
  /-- A class of characters. -/
  | charClass (body : ClassSet)
  /-- A group, with flags of its own. -/
  | group (changes : List (Flag × Bool)) (body : Syntax)
  /-- A repetition. -/
  | «repeat» (body : Syntax) (min : Nat) (max : Option Nat)
  /-- Patterns one after the other. -/
  | sequence (items : List Syntax)
  /-- Patterns of which one matches. -/
  | alternatives (items : List Syntax)
  deriving Repr, Inhabited

/-! ## Nesting -/

mutual

/-- How deep a class is nested. -/
def ClassSet.depth : ClassSet → Nat
  | .union items => ClassSet.depthList items + 1
  | .bracketed _ body => body.depth + 1
  | .operation _ first second => max first.depth second.depth + 1
  | _ => 0

/-- How deep the deepest of some classes is nested. -/
def ClassSet.depthList : List ClassSet → Nat
  | [] => 0
  | item :: rest => max item.depth (ClassSet.depthList rest)

end

mutual

/-- How deep a pattern is nested. -/
def Syntax.depth : Syntax → Nat
  | .charClass body => body.depth
  | .group _ body => body.depth + 1
  | .repeat body _ _ => body.depth + 1
  | .sequence items => Syntax.depthList items + 1
  | .alternatives items => Syntax.depthList items + 1
  | _ => 0

/-- How deep the deepest of some patterns is nested. -/
def Syntax.depthList : List Syntax → Nat
  | [] => 0
  | item :: rest => max item.depth (Syntax.depthList rest)

end

/-- The pattern of some items one after the other. -/
def Syntax.ofSequence : List Syntax → Syntax
  | [] => .empty
  | [item] => item
  | items => .sequence items

/-- The pattern of some items of which one matches. -/
def Syntax.ofAlternatives : List Syntax → Syntax
  | [] => .empty
  | [item] => item
  | items => .alternatives items

end ClientGen.Pattern
