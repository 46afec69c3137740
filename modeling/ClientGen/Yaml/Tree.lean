import ClientGen.Yaml.Node

/-!
# YAML values

The tree of a document is what its nodes stand for: a complete tree in which every alias has been
replaced by the node that it names. A scalar of a tree is text, unless it is written plainly and
looks like a value of another kind, or its tag says of what kind it is.

## Main definitions

* `Tree` — trees.
* `Node.tree?` — the tree of a node.
* `scalarValue?` — the value of a scalar.
* `Tree.json?` — the JSON value of a tree.

## Implementation notes

Aliases may be nested in the nodes that they name, so a tree may be much larger than its nodes,
or endless. The number of aliases that are followed and the depth of a tree are therefore bounded.
-/

set_option autoImplicit false

namespace ClientGen.Yaml

/-- A node without aliases. -/
inductive Tree where
  /-- A scalar, with its tag, its text and whether it is written plainly. -/
  | scalar (tag : Option String) (text : String) (isPlain : Bool)
  /-- A sequence, with its tag. -/
  | sequence (tag : Option String) (items : List Tree)
  /-- A mapping, with its tag. -/
  | mapping (tag : Option String) (entries : List (Tree × Tree))
  deriving Inhabited

/-! ## Following aliases -/

/-- A reading that fails or follows some of the aliases that may still be followed. -/
abbrev Following (α : Type) := StateT Nat Option α

/-- The keys and values of a row of both in turn, which ends with a value. -/
def pairs? {α : Type} : List α → Option (List (α × α))
  | [] => some []
  | [_] => none
  | key :: value :: rest => (pairs? rest).map ((key, value) :: ·)

namespace Node

/-- The node that stands for itself or is named by an alias. -/
def target (root : Node) : Node → Following Node
  | .alias anchor => do
    match ← get with
    | 0 => failure
    | left + 1 =>
      set left
      match root.anchored? anchor with
      | some node => return node
      | none => failure
  | node => return node

/-- The tree of a node of the document `root`, with at most `depth` collections in each other. A
node that could not be read to its end has none. -/
def tree (root : Node) (depth : Nat) (node : Node) : Following Tree := do
  match depth, ← target root node with
  | _, .scalar properties text isPlain => return .scalar properties.tag text isPlain
  | depth + 1, .sequence properties items true =>
    return .sequence properties.tag (← items.mapM (tree root depth))
  | depth + 1, .mapping properties entries true =>
    match pairs? (← entries.mapM (tree root depth)) with
    | some pairs => return .mapping properties.tag pairs
    | none => failure
  | _, _ => failure

/-- How many collections may be in each other. -/
def depthLimit : Nat := 128

/-- How many aliases may be followed in a document. -/
def aliasLimit (root : Node) : Nat := 100 * root.events

/-- The tree of a document. -/
def tree? (root : Node) : Option Tree :=
  (tree root depthLimit root).run' (aliasLimit root)

end Node

/-! ## Scalars -/

/-- The value of a scalar. -/
inductive ScalarValue where
  /-- Nothing. -/
  | null
  /-- A truth value. -/
  | bool (value : Bool)
  /-- An integer of 64 bits. -/
  | integer (value : Int)
  /-- A finite number. -/
  | real (value : Binary64)
  /-- An infinite number or no number. -/
  | notFinite
  /-- A text. -/
  | text (value : String)
  deriving DecidableEq, Repr, Inhabited

/-- Whether a plain scalar spells the absence of a value. -/
def isNullWord (text : String) : Bool := ["null", "Null", "NULL", "~"].contains text

/-- The truth value that a plain scalar spells. -/
def boolWord? (text : String) : Option Bool :=
  if ["true", "True", "TRUE"].contains text then some true
  else if ["false", "False", "FALSE"].contains text then some false
  else none

/-- The value of a digit of base 16 or less. -/
def digitValue? (base : Nat) (c : Char) : Option Nat :=
  (Json.hexValue? c).filter (· < base)

/-- The number that one or more digits write. -/
def digitsValue? (base : Nat) (digits : List Char) : Option Nat :=
  if digits.isEmpty then none
  else digits.foldlM (fun n c => (digitValue? base c).map (base * n + ·)) 0

/-- The base and the digits of a natural number. -/
def baseOf : List Char → Nat × List Char
  | '0' :: 'x' :: digits => (16, digits)
  | '0' :: 'o' :: digits => (8, digits)
  | '0' :: 'b' :: digits => (2, digits)
  | digits => (10, digits)

/-- Whether a text is a row of digits with a leading zero, which is no number, after a sign or
not. -/
def isPadded (text : List Char) : Bool :=
  let digits := match text with
    | '-' :: rest => rest
    | '+' :: rest => rest
    | text => text
  match digits with
  | '0' :: rest => !rest.isEmpty && rest.all Char.isDigit
  | _ => false

/-- The integer that a plain scalar writes. -/
def integer? (text : List Char) : Option Int :=
  let (negative, magnitude) := match text with
    | '-' :: rest => (true, rest)
    | '+' :: rest => (false, rest)
    | text => (false, text)
  let (base, digits) := baseOf magnitude
  if isPadded text then none
  else (digitsValue? base digits).map fun (n : Nat) => if negative then -n else n

/-- The integers of 64 bits, with or without a sign. -/
def isWord (n : Int) : Bool := -(Int.pow 2 63) ≤ n && n < Int.pow 2 64

/-- The integers of 128 bits, with or without a sign. -/
def isDoubleWord (n : Int) : Bool := -(Int.pow 2 127) ≤ n && n < Int.pow 2 128

/-- The sign and the digits of a decimal after its sign. -/
def withoutSign : List Char → Bool × List Char
  | '-' :: rest => (true, rest)
  | '+' :: rest => (false, rest)
  | text => (false, text)

/-- The finite number that a decimal with a point or an exponent writes. -/
def decimal? (text : List Char) : Option Binary64 := do
  let (negative, text) := withoutSign text
  let whole := text.takeWhile Char.isDigit
  let text := text.dropWhile Char.isDigit
  let (fraction, text) := match text with
    | '.' :: rest => (rest.takeWhile Char.isDigit, rest.dropWhile Char.isDigit)
    | text => ([], text)
  if whole.isEmpty && fraction.isEmpty then none
  let (exponent, text) ← Json.exponent? text
  if !text.isEmpty then none
  Binary64.ofDecimal? negative (Json.digitsValue (whole ++ fraction))
    (exponent - fraction.length)

/-- Whether a plain scalar spells an infinite number or no number. -/
def isNotFinite (text : String) : Bool :=
  [".inf", ".Inf", ".INF", "+.inf", "+.Inf", "+.INF", "-.inf", "-.Inf", "-.INF",
    ".nan", ".NaN", ".NAN"].contains text

/-- The number that a plain scalar writes and that is no integer. -/
def real? (text : String) : Option ScalarValue :=
  if isNotFinite text then some .notFinite else (decimal? text.toList).map .real

/-- The value of a scalar by its form alone. An integer of more than 64 bits has none, unless it
has more than 128 bits and counts as a decimal. -/
def plainValue? (text : String) : Option ScalarValue :=
  let chars := text.toList
  if text.isEmpty || isNullWord text then some .null
  else match boolWord? text, (integer? chars).filter isDoubleWord with
    | some value, _ => some (.bool value)
    | none, some n => if isWord n then some (.integer n) else none
    | none, none =>
      if isPadded chars then some (.text text) else some ((real? text).getD (.text text))

/-- The value of a scalar that a tag calls an integer. -/
def taggedInteger? (text : String) : Option ScalarValue :=
  ((integer? text.toList).filter isWord).map .integer

/-- The beginning of the tags of the format itself. -/
def coreTag (name : String) : String := "tag:yaml.org,2002:" ++ name

/-- Whether a tag is one of the document's own, which no value is known for. -/
def isLocalTag (tag : Option String) : Bool := tag.any (·.startsWith "!")

/-- The value of a scalar. A scalar with a tag is text unless the tag says otherwise. -/
def scalarValue? (tag : Option String) (text : String) (isPlain : Bool) : Option ScalarValue :=
  match tag with
  | none => if isPlain then plainValue? text else some (.text text)
  | some name =>
    if isLocalTag tag then none
    else if name = coreTag "bool" then (boolWord? text).map .bool
    else if name = coreTag "int" then taggedInteger? text
    else if name = coreTag "float" then real? text
    else if name = coreTag "null" then if isNullWord text then some .null else none
    else some (.text text)

/-! ## JSON values -/

/-- The JSON value of the value of a scalar. -/
def ScalarValue.json : ScalarValue → Json
  | .null | .notFinite => .null
  | .bool value => .bool value
  | .integer value => .number (.integer value)
  | .real value => .number (.real value)
  | .text value => .string value

namespace Tree

/-- The text of a scalar as it is written. -/
def scalarText? : Tree → Option String
  | .scalar _ text _ => some text
  | _ => none

mutual

/-- The JSON value of a tree. Only scalars may be keys. -/
def json? : Tree → Option Json
  | .scalar tag text isPlain => (scalarValue? tag text isPlain).map ScalarValue.json
  | .sequence tag items =>
    if isLocalTag tag then none else (jsonItems? items).map .array
  | .mapping tag entries =>
    if isLocalTag tag then none else (jsonMembers? entries).map Json.ofMembers

/-- The JSON values of some trees. -/
def jsonItems? : List Tree → Option (List Json)
  | [] => some []
  | item :: rest => do return (← json? item) :: (← jsonItems? rest)

/-- The members that some keys and values stand for. -/
def jsonMembers? : List (Tree × Tree) → Option (List (String × Json))
  | [] => some []
  | (key, value) :: rest => do
    return (← key.scalarText?, ← json? value) :: (← jsonMembers? rest)

end

mutual

/-- Whether every scalar in a tree has a value, keys included. -/
def isReadable : Tree → Bool
  | .scalar tag text isPlain => (scalarValue? tag text isPlain).isSome
  | .sequence tag items => !isLocalTag tag && areReadable items
  | .mapping tag entries => !isLocalTag tag && areReadableEntries entries

/-- Whether every scalar in some trees has a value. -/
def areReadable : List Tree → Bool
  | [] => true
  | item :: rest => isReadable item && areReadable rest

/-- Whether every scalar in some keys and values has a value. -/
def areReadableEntries : List (Tree × Tree) → Bool
  | [] => true
  | (key, value) :: rest => isReadable key && isReadable value && areReadableEntries rest

end

end Tree

/-- The JSON value of the only document of a text. An empty text has the value `null`. -/
def Stream.json? (stream : Stream) : Option Json :=
  if stream.hasMistake || stream.hasMore then none
  else match stream.root with
    | none => some .null
    | some root => (Node.tree? root).bind Tree.json?

/-- The JSON value of a text. -/
def json? (text : String) : Option Json := (Stream.ofText text).json?

end ClientGen.Yaml
