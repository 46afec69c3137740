import ClientGen.Pattern.Syntax
import ClientGen.Unicode.Property
import ClientGen.Json.Parser

/-!
# Reading patterns

The syntax is that of finite automata: no look-around, no back-references. Every character but
the operators stands for itself, an escape of an ASCII character that is neither letter nor digit
does so too, and an unknown escape is refused.

## Main definitions

* `Pattern.Reader` — reading with the rest of the pattern as state.
* `Pattern.parse?` — the syntax of a pattern.
-/

set_option autoImplicit false

namespace ClientGen.Pattern

open ClientGen.Unicode

/-! ## Reading -/

/-- What is left to read, and what has been declared so far. -/
structure ReadState where
  /-- The rest of the pattern. -/
  rest : List Char
  /-- Whether white space and comments are skipped. -/
  verbose : Bool
  /-- The names of the groups so far. -/
  names : List String

/-- Reading of a pattern, which may fail. -/
abbrev Reader := StateT ReadState Option

namespace Reader

/-- Fails. -/
def refuse {α : Type} : Reader α := fun _ => none

/-- Fails unless the condition holds. -/
def require (condition : Bool) : Reader Unit := if condition then pure () else refuse

/-- The next character, if there is one. -/
def peek? : Reader (Option Char) := fun s => some (s.rest.head?, s)

/-- The next character, which must exist. -/
def peek : Reader Char := fun s => s.rest.head?.map fun c => (c, s)

/-- Passes over one character. -/
def advance : Reader Unit := modify fun s => { s with rest := s.rest.drop 1 }

/-- The text after a comment, which ends with its line. -/
def afterComment (text : List Char) : List Char :=
  (text.dropWhile (· ≠ '\n')).drop 1

/-- The text after white space and comments. -/
def afterSpace : Nat → List Char → List Char
  | 0, text => text
  | fuel + 1, text =>
    match text with
    | c :: rest =>
      if isWhiteSpace c then afterSpace fuel rest
      else if c = '#' then afterSpace fuel (afterComment rest)
      else text
    | [] => []

/-- The rest of the pattern after white space and comments, if these are skipped. -/
def ReadState.spaced (s : ReadState) : List Char :=
  if s.verbose then afterSpace s.rest.length s.rest else s.rest

/-- Passes over white space and comments, if these are skipped. -/
def skipSpace : Reader Unit := modify fun s => { s with rest := ReadState.spaced s }

/-- Passes over one character and the white space after it. -/
def advanceSpaced : Reader Unit := do advance; skipSpace

/-- Passes over one character and the white space after it, where the pattern must not end. -/
def advanceWithin : Reader Unit := do
  advanceSpaced
  require (← peek?).isSome

/-- Whether the rest begins with the text, which is then passed over. -/
def accept (text : String) : Reader Bool := fun s =>
  if text.toList.isPrefixOf s.rest then
    some (true, { s with rest := s.rest.drop text.length })
  else some (false, s)

/-- The character after the next one and the white space that follows it. -/
def peekSecond? : Reader (Option Char) := fun s =>
  some ((ReadState.spaced { s with rest := s.rest.drop 1 }).head?, s)

/-- A number that bounds the steps still to be taken. -/
def remaining : Reader Nat := fun s => some (s.rest.length + 1, s)

/-- The characters of a kind that come next, with the white space between them passed over. -/
def takeSpaced (isKind : Char → Bool) : Nat → Reader (List Char)
  | 0 => pure []
  | fuel + 1 => do
    match ← peek? with
    | some c =>
      if isKind c then
        advanceSpaced
        return c :: (← takeSpaced isKind fuel)
      else return []
    | none => return []

/-- Passes over white space, whether or not it is skipped elsewhere. -/
def skipWhiteSpace : Reader Unit :=
  modify fun s => { s with rest := s.rest.dropWhile isWhiteSpace }

end Reader

open Reader

/-! ## Escapes -/

/-- The characters with a meaning of their own somewhere in a pattern. -/
def isMeta (c : Char) : Bool := "\\.+*?()|[]{}^$#&-~".toList.contains c

/-- The characters that may follow a backslash to stand for themselves. -/
def isEscapable (c : Char) : Bool :=
  isMeta c || (isAscii c && !isAsciiAlphanumeric c && c ≠ '<' && c ≠ '>')

/-- The value of hexadecimal digits. -/
def hexNumber? (digits : List Char) : Option Nat :=
  digits.foldlM (fun n c => (Json.hexValue? c).map (n * 16 + ·)) 0

/-- The character with a number, unless the number is none of a character. -/
def charOfNumber? (n : Nat) : Option Char :=
  if h : n.isValidChar then some (Char.ofNatAux n h) else none

/-- The character that hexadecimal digits describe. -/
def hexChar (digits : List Char) : Reader Char :=
  match (hexNumber? digits).bind charOfNumber? with
  | some c => pure c
  | none => refuse

/-- Exactly `count` hexadecimal digits; white space may separate them. -/
def hexDigits : Nat → Reader (List Char)
  | 0 => pure []
  | count + 1 => do
    let c ← peek
    require (Json.hexValue? c).isSome
    if count = 0 then advanceSpaced else advanceWithin
    return c :: (← hexDigits count)

/-- The character after `\x`, `\u` or `\U`, whose letter comes next. -/
def hexEscape (count : Nat) : Reader Literal := do
  advanceWithin
  if (← peek) = '\x7b' then
    advanceSpaced
    let digits ← takeSpaced (· ≠ '\x7d') (← remaining)
    require ((← peek?) = some '\x7d' && !digits.isEmpty)
    advanceSpaced
    return ⟨← hexChar digits, false⟩
  else
    return ⟨← hexChar (← hexDigits count), count = 2⟩

/-- The parts of a text before and after the first occurrence of another one. -/
def splitAt? (separator : List Char) : List Char → List Char → Option (List Char × List Char)
  | _, [] => none
  | before, c :: rest =>
    if separator.isPrefixOf (c :: rest) then
      some (before.reverse, (c :: rest).drop separator.length)
    else splitAt? separator (c :: before) rest

/-- The class that a name between braces describes. -/
def namedClass (negated : Bool) (name : List Char) : ClassSet :=
  match splitAt? ['!', '='] [] name with
  | some (name, value) => .named (String.ofList name) (some (String.ofList value)) !negated
  | none =>
    match (splitAt? [':'] [] name).or (splitAt? ['='] [] name) with
    | some (name, value) => .named (String.ofList name) (some (String.ofList value)) negated
    | none => .named (String.ofList name) none negated

/-- The class after `\p` or `\P`, whose letter comes next. -/
def nameEscape : Reader ClassSet := do
  let negated := (← peek) = 'P'
  advanceWithin
  let c ← peek
  if c = '\x7b' then
    advanceSpaced
    let name ← takeSpaced (· ≠ '\x7d') (← remaining)
    require ((← peek?) = some '\x7d')
    advance
    return namedClass negated name
  else
    require (c ≠ '\\')
    advanceSpaced
    return .named (String.singleton c) none negated

/-- The boundary that a name between braces describes. -/
def boundaryNamed? : String → Option Assertion
  | "start" => some .wordStart
  | "end" => some .wordEnd
  | "start-half" => some .wordStartHalf
  | "end-half" => some .wordEndHalf
  | _ => none

/-- The boundary after `\b`: a name between braces, if there is one. A brace that no letter
follows begins a repetition. -/
def boundaryEscape : Reader Assertion := do
  if (← peek?) ≠ some '\x7b' then return .wordBoundary
  let start ← get
  advanceWithin
  let isNameChar := fun c => isAsciiUpper c || isAsciiLower c || c = '-'
  if !isNameChar (← peek) then
    set start
    return .wordBoundary
  let name ← takeSpaced isNameChar (← remaining)
  require ((← peek?) = some '\x7d')
  advance
  match boundaryNamed? (String.ofList name) with
  | some assertion => return assertion
  | none => refuse

/-- The part of a pattern that an escape describes; the backslash comes next. -/
def escape : Reader Syntax := do
  advance
  let c ← peek
  match c with
  | 'x' => return .literal (← hexEscape 2)
  | 'u' => return .literal (← hexEscape 4)
  | 'U' => return .literal (← hexEscape 8)
  | 'p' => return .charClass (← nameEscape)
  | 'P' => return .charClass (← nameEscape)
  | _ =>
    advance
    match c with
    | 'd' => return .charClass (.letter .digit false)
    | 'D' => return .charClass (.letter .digit true)
    | 's' => return .charClass (.letter .space false)
    | 'S' => return .charClass (.letter .space true)
    | 'w' => return .charClass (.letter .word false)
    | 'W' => return .charClass (.letter .word true)
    | 'a' => return .literal ⟨'\x07', false⟩
    | 'f' => return .literal ⟨'\x0c', false⟩
    | 't' => return .literal ⟨'\t', false⟩
    | 'n' => return .literal ⟨'\n', false⟩
    | 'r' => return .literal ⟨'\r', false⟩
    | 'v' => return .literal ⟨'\x0b', false⟩
    | 'A' => return .assertion .textStart
    | 'z' => return .assertion .textEnd
    | 'b' => return .assertion (← boundaryEscape)
    | 'B' => return .assertion .notWordBoundary
    | '<' => return .assertion .wordStart
    | '>' => return .assertion .wordEnd
    | c => do
      require (isEscapable c)
      return .literal ⟨c, false⟩

/-! ## Classes -/

/-- The names of the ASCII classes. -/
def asciiClassNames : List String :=
  ["alnum", "alpha", "ascii", "blank", "cntrl", "digit", "graph", "lower", "print", "punct",
    "space", "upper", "word", "xdigit"]

/-- A named ASCII class and the text after it, if one begins the text. -/
def asciiClass? : List Char → Option (ClassSet × List Char)
  | '[' :: ':' :: rest =>
    let (negated, rest) := match rest with
      | '^' :: rest => (true, rest)
      | rest => (false, rest)
    let name := String.ofList (rest.takeWhile (· ≠ ':'))
    match rest.dropWhile (· ≠ ':') with
    | ':' :: ']' :: rest =>
      if asciiClassNames.contains name then some (.ascii name negated, rest) else none
    | _ => none
  | _ => none

/-- One item of a class: a character or a class that an escape describes. -/
def classItem : Reader ClassSet := do
  let c ← peek
  if c = '\\' then
    match ← escape with
    | .literal literal => return .literal literal
    | .charClass body => return body
    | _ => refuse
  else
    advance
    return .literal ⟨c, false⟩

/-- An item of a class, or two characters with a hyphen between them. -/
def classRange : Reader ClassSet := do
  let first ← classItem
  skipSpace
  let next ← peek
  let second ← peekSecond?
  if next ≠ '-' || second = some ']' || second = some '-' then return first
  advanceWithin
  let last ← classItem
  match first, last with
  | .literal first, .literal last => do
    require (first.char ≤ last.char)
    return .range first last
  | _, _ => refuse

/-- The hyphens that begin a class, which stand for themselves. -/
def leadingHyphens : Nat → Reader (List ClassSet)
  | 0 => pure []
  | fuel + 1 => do
    if (← peek) = '-' then
      advanceWithin
      return .literal ⟨'-', false⟩ :: (← leadingHyphens fuel)
    else return []

/-- The beginning of a class: whether it is negated, and the items that may only stand there. The
opening bracket comes next. -/
def classOpening : Reader (Bool × List ClassSet) := do
  advanceWithin
  let negated := (← peek) = '^'
  if negated then advanceWithin
  let hyphens ← leadingHyphens (← remaining)
  if hyphens.isEmpty && (← peek) = ']' then
    advanceWithin
    return (negated, [.literal ⟨']', false⟩])
  return (negated, hyphens)

/-- The class of some items. -/
def ofItems : List ClassSet → ClassSet
  | [item] => item
  | items => .union items

/-- The class of the items read last, backwards, behind the operator that waits for it. -/
def closeOperand (waiting : Option (ClassOperator × ClassSet)) (items : List ClassSet) :
    ClassSet :=
  match waiting with
  | some (operator, first) => .operation operator first (ofItems items.reverse)
  | none => ofItems items.reverse

/-- The operator that comes next, which is then passed over. -/
def classOperator? : Reader (Option ClassOperator) := do
  if ← accept "&&" then return some .intersection
  if ← accept "--" then return some .difference
  if ← accept "~~" then return some .symmetricDifference
  return none

/-- The rest of a class up to its closing bracket. `items` are the items read since the last
operator, backwards, and `waiting` is that operator with what stands before it. -/
def classBody : Nat → Option (ClassOperator × ClassSet) → List ClassSet → Reader ClassSet
  | 0, _, _ => refuse
  | fuel + 1, waiting, items => do
    skipSpace
    match ← peek with
    | '[' =>
      match asciiClass? (← get).rest with
      | some (item, rest) =>
        modify fun s => { s with rest }
        classBody fuel waiting (item :: items)
      | none =>
        let (negated, opening) ← classOpening
        let body ← classBody fuel none opening.reverse
        classBody fuel waiting (.bracketed negated body :: items)
    | ']' =>
      advance
      return closeOperand waiting items
    | _ =>
      match ← classOperator? with
      | some operator => classBody fuel (some (operator, closeOperand waiting items)) []
      | none => classBody fuel waiting ((← classRange) :: items)

/-- A class between brackets; the opening one comes next. -/
def bracketClass : Reader ClassSet := do
  let (negated, opening) ← classOpening
  return .bracketed negated (← classBody (← remaining) none opening.reverse)

/-! ## Repetitions -/

/-- The body of a repetition and the items before it, from the items read so far, backwards. -/
def repeated : List Syntax → Reader (Syntax × List Syntax)
  | [] => refuse
  | .empty :: _ => refuse
  | .flags _ :: _ => refuse
  | body :: before => pure (body, before)

/-- A decimal number below `2 ^ 32`; white space may surround it. -/
def decimal? : Reader (Option Nat) := do
  skipWhiteSpace
  let digits ← takeSpaced isAsciiDigit (← remaining)
  skipWhiteSpace
  skipSpace
  if digits.isEmpty then return none
  let value := Json.digitsValue digits
  require (value < Nat.pow 2 32)
  return some value

/-- The bounds of a counted repetition; the opening brace comes next. -/
def repetitionBounds : Reader (Nat × Option Nat) := do
  advanceWithin
  let first ← decimal?
  let (min, max) ← (do
    if (← peek) = ',' then
      advanceWithin
      if (← peek) ≠ '\x7d' then
        match first, ← decimal? with
        | some min, some max => pure (min, some max)
        | _, _ => refuse
      else
        match first with
        | some min => pure (min, none)
        | none => refuse
    else
      match first with
      | some count => pure (count, some count)
      | none => refuse : Reader (Nat × Option Nat))
  require ((← peek) = '\x7d')
  advanceSpaced
  require (max.all (min ≤ ·))
  return (min, max)

/-- Passes over the mark that makes a repetition prefer few matches. -/
def skipLazyMark : Reader Unit := do
  let _ ← accept "?"

/-! ## Groups -/

/-- The flag of a letter. -/
def flag? : Char → Option Flag
  | 'i' => some .caseInsensitive
  | 'm' => some .multiLine
  | 's' => some .dotAll
  | 'U' => some .swapGreed
  | 'u' => some .unicode
  | 'R' => some .crlf
  | 'x' => some .verbose
  | _ => none

/-- The flags of a group up to the colon or parenthesis that ends them. `value` says whether flags
are switched on, and `dangling` whether a minus sign was read last. -/
def groupFlags : Nat → Bool → Bool → List (Flag × Bool) → Reader (List (Flag × Bool))
  | 0, _, _, _ => refuse
  | fuel + 1, value, dangling, done => do
    let c ← peek
    if c = ':' || c = ')' then
      require (!dangling)
      return done.reverse
    else if c = '-' then
      require value
      advance
      groupFlags fuel false true done
    else
      match flag? c with
      | none => refuse
      | some flag => do
        require (done.all (·.1 ≠ flag))
        advance
        groupFlags fuel value false ((flag, value) :: done)

/-- Whether a character may stand in the name of a group. -/
def isNameChar (first : Bool) (c : Char) : Bool :=
  if first then c = '_' || isAlphabetic c
  else c = '_' || c = '.' || c = '[' || c = ']' || isAlphanumeric c

/-- The name of a group, up to the bracket that ends it. -/
def groupName : Reader Unit := do
  let rest := (← get).rest
  let name := rest.takeWhile (· ≠ '>')
  require (name.length < rest.length && !name.isEmpty)
  require ((name.head?.all (isNameChar true)) && (name.drop 1).all (isNameChar false))
  let name := String.ofList name
  require (!(← get).names.contains name)
  modify fun s => { s with rest := s.rest.drop (name.length + 1), names := name :: s.names }

/-- What a parenthesis opens: flags for the rest of the group around it, or a group with flags of
its own. The parenthesis comes next. -/
def groupOpening : Reader (Sum (List (Flag × Bool)) (List (Flag × Bool))) := do
  advance
  skipSpace
  for look in ["?=", "?!", "?<=", "?<!"] do
    if ← accept look then refuse
  if (← accept "?P<") then
    groupName
    return .inr []
  if (← accept "?<") then
    groupName
    return .inr []
  if ← accept "?" then
    let changes ← groupFlags (← remaining) true false []
    if (← peek) = ')' then
      advance
      require !changes.isEmpty
      return .inl changes
    else
      advance
      return .inr changes
  return .inr []

/-- Whether white space is skipped after the changes of flags. -/
def verboseAfter (changes : List (Flag × Bool)) (verbose : Bool) : Bool :=
  (changes.lookup .verbose).getD verbose

/-! ## Patterns -/

/-- The rest of a pattern, or of a group up to its closing parenthesis. `items` are the items read
since the last bar and `done` the alternatives before it, both backwards. -/
def body : Nat → Bool → List Syntax → List Syntax → Reader Syntax
  | 0, _, _, _ => refuse
  | fuel + 1, grouped, done, items => do
    let finish := Syntax.ofAlternatives (Syntax.ofSequence items.reverse :: done).reverse
    skipSpace
    match ← peek? with
    | none => do
      require !grouped
      return finish
    | some '(' => do
      match ← groupOpening with
      | .inl changes =>
        modify fun s => { s with verbose := verboseAfter changes s.verbose }
        body fuel grouped done (.flags changes :: items)
      | .inr changes =>
        let verbose := (← get).verbose
        modify fun s => { s with verbose := verboseAfter changes verbose }
        let inner ← body fuel true [] []
        modify fun s => { s with verbose }
        body fuel grouped done (.group changes inner :: items)
    | some ')' => do
      require grouped
      advance
      return finish
    | some '|' => do
      advance
      body fuel grouped (Syntax.ofSequence items.reverse :: done) []
    | some '[' => do
      body fuel grouped done (.charClass (← bracketClass) :: items)
    | some '?' => do
      let (item, before) ← repeated items
      advance
      skipLazyMark
      body fuel grouped done (.repeat item 0 (some 1) :: before)
    | some '*' => do
      let (item, before) ← repeated items
      advance
      skipLazyMark
      body fuel grouped done (.repeat item 0 none :: before)
    | some '+' => do
      let (item, before) ← repeated items
      advance
      skipLazyMark
      body fuel grouped done (.repeat item 1 none :: before)
    | some '\x7b' => do
      let (item, before) ← repeated items
      let (min, max) ← repetitionBounds
      skipLazyMark
      body fuel grouped done (.repeat item min max :: before)
    | some '\\' => do
      body fuel grouped done ((← escape) :: items)
    | some '.' => do
      advance
      body fuel grouped done (.dot :: items)
    | some '^' => do
      advance
      body fuel grouped done (.assertion .lineStart :: items)
    | some '$' => do
      advance
      body fuel grouped done (.assertion .lineEnd :: items)
    | some c => do
      advance
      body fuel grouped done (.literal ⟨c, false⟩ :: items)

/-- How deep a pattern may be nested. -/
def nestingLimit : Nat := 250

/-- The syntax of a pattern, if the pattern has one. -/
def parse? (text : String) : Option Syntax :=
  let chars := text.toList
  match body (chars.length + 1) false [] [] ⟨chars, false, []⟩ with
  | some (pattern, _) => if pattern.depth ≤ nestingLimit then some pattern else none
  | none => none

end ClientGen.Pattern
