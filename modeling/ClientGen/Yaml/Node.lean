import ClientGen.Yaml.Token

/-!
# YAML nodes

A document is a tree of scalars, sequences and mappings. A node may be anchored, and an alias
stands for an anchored node.

A text that has a mistake is read up to the mistake: the collections that were open there are
marked as incomplete.

## Main definitions

* `Node` — nodes.
* `Node.anchored?` — the node that an alias stands for.
* `Stream` — what a text holds: its first document, and whether there is anything else.
* `Stream.ofText` — what a text holds.
-/

set_option autoImplicit false

namespace ClientGen.Yaml

/-- What stands before a node: the number of its anchor and its tag. -/
structure Properties where
  /-- The number of the anchor. -/
  anchor : Option Nat := none
  /-- The tag. -/
  tag : Option String := none
  deriving DecidableEq, Repr, Inhabited

/-- A node of a document. -/
inductive Node where
  /-- A scalar, with its text and whether it is written plainly. -/
  | scalar (properties : Properties) (text : String) (isPlain : Bool)
  /-- A sequence, with its items and whether its end has been read. -/
  | sequence (properties : Properties) (items : List Node) (isComplete : Bool)
  /-- A mapping, with its keys and values in turn and whether its end has been read. -/
  | mapping (properties : Properties) (entries : List Node) (isComplete : Bool)
  /-- An alias, with the number of the anchor that it names. -/
  | alias (anchor : Nat)
  deriving Inhabited

namespace Node

/-- The scalar that stands where a node is missing. -/
def empty : Node := .scalar {} "" true

/-- What stands before a node. -/
def properties : Node → Properties
  | .scalar properties _ _ => properties
  | .sequence properties _ _ => properties
  | .mapping properties _ _ => properties
  | .alias _ => {}

mutual

/-- The last node of a tree with the given anchor. -/
def anchored? (anchor : Nat) : Node → Option Node
  | .scalar properties text isPlain =>
    if properties.anchor = some anchor then some (.scalar properties text isPlain) else none
  | .sequence properties items isComplete =>
    (anchoredIn? anchor items).or
      (if properties.anchor = some anchor then some (.sequence properties items isComplete)
        else none)
  | .mapping properties entries isComplete =>
    (anchoredIn? anchor entries).or
      (if properties.anchor = some anchor then some (.mapping properties entries isComplete)
        else none)
  | .alias _ => none

/-- The last node of some trees with the given anchor. -/
def anchoredIn? (anchor : Nat) : List Node → Option Node
  | [] => none
  | node :: rest => (anchoredIn? anchor rest).or (anchored? anchor node)

end

mutual

/-- The number of events that a tree is written with: the beginning and the end of a collection
are one each. -/
def events : Node → Nat
  | .scalar _ _ _ => 1
  | .sequence _ items isComplete => eventsOf items + if isComplete then 2 else 1
  | .mapping _ entries isComplete => eventsOf entries + if isComplete then 2 else 1
  | .alias _ => 1

/-- The number of events that some trees are written with. -/
def eventsOf : List Node → Nat
  | [] => 0
  | node :: rest => events node + eventsOf rest

end

end Node

/-! ## Reading nodes -/

/-- The state of reading nodes. -/
structure Reader where
  /-- The tokens that follow. -/
  scanner : Scanner
  /-- What the handles of tags stand for. -/
  handles : List (String × String) := []
  /-- The numbers of the names of anchors. -/
  anchors : List (String × Nat) := []

namespace Reader

/-- The next token, and the reader that still holds it. -/
def peek? (reader : Reader) : Option (Token × Reader) := do
  let (token, scanner) ← reader.scanner.peek?
  return (token, { reader with scanner })

/-- The reader without the next token. -/
def take (reader : Reader) : Reader := { reader with scanner := reader.scanner.take }

/-- What has been read, and the reader after it if there was no mistake. -/
abbrev Outcome (α : Type) := α × Option Reader

/-- The number of the anchor with a name that is set, and the reader that knows it. Names that
were set before are counted once. -/
def setAnchor (reader : Reader) (name : String) : Nat × Reader :=
  let number := reader.anchors.length
  let others := reader.anchors.filter (·.1 ≠ name)
  (number, { reader with anchors := (name, number) :: others })

/-- The whole tag that a handle and a suffix write. -/
def tagOf? (reader : Reader) (handle suffix : String) : Option String :=
  if handle.isEmpty then some suffix
  else (reader.handles.lookup handle).map (· ++ suffix)

/-- The name of an anchor and a tag, as they stand before a node. -/
structure Prelude where
  /-- The name of the anchor. -/
  anchor : Option String := none
  /-- The handle and the suffix of the tag. -/
  tag : Option (String × String) := none

/-- What stands before a node, in either order, and the token after it. -/
def prelude? (reader : Reader) : Option (Prelude × Token × Reader) := do
  let (token, reader) ← reader.peek?
  match token with
  | .anchor name =>
    let (token, reader) ← reader.take.peek?
    match token with
    | .tag handle suffix =>
      let (token, reader) ← reader.take.peek?
      return ({ anchor := some name, tag := some (handle, suffix) }, token, reader)
    | _ => return ({ anchor := some name }, token, reader)
  | .tag handle suffix =>
    let (token, reader) ← reader.take.peek?
    match token with
    | .anchor name =>
      let (token, reader) ← reader.take.peek?
      return ({ anchor := some name, tag := some (handle, suffix) }, token, reader)
    | _ => return ({ tag := some (handle, suffix) }, token, reader)
  | _ => return ({}, token, reader)

/-- The properties that a prelude gives to a node, and the reader that knows its anchor. -/
def properties (reader : Reader) (anchor : Option String) (tag : Option String) :
    Properties × Reader :=
  match anchor with
  | none => ({ tag }, reader)
  | some name =>
    let (number, reader) := reader.setAnchor name
    ({ anchor := some number, tag }, reader)

/-- Where a node stands. -/
structure Place where
  /-- Whether the node may be indented. -/
  isBlock : Bool
  /-- Whether the node may be a list whose dashes are not indented further. -/
  isIndentless : Bool := false

mutual

/-- The node at a place. Nothing is read of a node that has a mistake at its beginning. -/
def node (fuel : Nat) (place : Place) (reader : Reader) : Outcome (Option Node) :=
  match fuel with
  | 0 => (none, none)
  | fuel + 1 =>
    match reader.prelude? with
    | none => (none, none)
    | some (before, token, reader) =>
      let tag? := match before.tag with
        | none => some none
        | some (handle, suffix) => (reader.tagOf? handle suffix).map some
      match tag? with
      | none => (none, none)
      | some tag =>
        let bare := before.anchor.isNone && before.tag.isNone
        match bare, token with
        | true, .alias name =>
          match reader.anchors.lookup name with
          | some number => (some (.alias number), some reader.take)
          | none => (none, none)
        | _, .scalar text isPlain =>
          let plainTag := tag.any (· = "!")
          let tag := if plainTag then none else tag
          let (properties, reader) := reader.properties before.anchor tag
          (some (.scalar properties text isPlain), some reader.take)
        | _, token =>
          let (properties, inside) := reader.properties before.anchor tag
          match token, place.isBlock, place.isIndentless with
          | .blockEntry, _, true =>
            let (items, next) := indentlessItems fuel inside
            (some (.sequence properties items next.isSome), next)
          | .flowSequenceStart, _, _ =>
            let (items, next) := flowItems fuel true inside.take
            (some (.sequence properties items next.isSome), next)
          | .flowMappingStart, _, _ =>
            let (entries, next) := flowEntries fuel true inside.take
            (some (.mapping properties entries next.isSome), next)
          | .blockSequenceStart, true, _ =>
            let (items, next) := blockItems fuel inside.take
            (some (.sequence properties items next.isSome), next)
          | .blockMappingStart, true, _ =>
            let (entries, next) := blockEntries fuel inside.take
            (some (.mapping properties entries next.isSome), next)
          | _, _, _ =>
            if bare then (none, none) else (some (.scalar properties "" true), some inside)

/-- The items of an indented list, after its beginning or after an item. -/
def blockItems (fuel : Nat) (reader : Reader) : Outcome (List Node) :=
  match fuel with
  | 0 => ([], none)
  | fuel + 1 =>
    match reader.peek? with
    | some (.blockEntry, reader) =>
      match reader.take.peek? with
      | none => ([], none)
      | some (token, reader) =>
        if token = .blockEntry || token = .blockEnd then
          let (others, next) := blockItems fuel reader
          (.empty :: others, next)
        else
          match node fuel ⟨true, false⟩ reader with
          | (first, none) => (first.toList, none)
          | (first, some reader) =>
            let (others, next) := blockItems fuel reader
            (first.toList ++ others, next)
    | some (.blockEnd, reader) => ([], some reader.take)
    | _ => ([], none)

/-- The items of a list whose dashes are not indented further than the key before it. -/
def indentlessItems (fuel : Nat) (reader : Reader) : Outcome (List Node) :=
  match fuel with
  | 0 => ([], none)
  | fuel + 1 =>
    match reader.peek? with
    | some (.blockEntry, reader) =>
      match reader.take.peek? with
      | none => ([], none)
      | some (token, reader) =>
        if [Token.blockEntry, .key, .value, .blockEnd].contains token then
          let (others, next) := indentlessItems fuel reader
          (.empty :: others, next)
        else
          match node fuel ⟨true, false⟩ reader with
          | (first, none) => (first.toList, none)
          | (first, some reader) =>
            let (others, next) := indentlessItems fuel reader
            (first.toList ++ others, next)
    | some (_, reader) => ([], some reader)
    | none => ([], none)

/-- The keys and values of indented pairs, after their beginning or after a pair. -/
def blockEntries (fuel : Nat) (reader : Reader) : Outcome (List Node) :=
  match fuel with
  | 0 => ([], none)
  | fuel + 1 =>
    match reader.peek? with
    | some (.key, reader) =>
      match reader.take.peek? with
      | none => ([], none)
      | some (token, reader) =>
        if [Token.key, .value, .blockEnd].contains token then
          let (others, next) := blockValue fuel reader
          (.empty :: others, next)
        else
          match node fuel ⟨true, true⟩ reader with
          | (key, none) => (key.toList, none)
          | (key, some reader) =>
            let (others, next) := blockValue fuel reader
            (key.toList ++ others, next)
    | some (.blockEnd, reader) => ([], some reader.take)
    | _ => ([], none)

/-- The value of an indented pair, and the pairs after it. -/
def blockValue (fuel : Nat) (reader : Reader) : Outcome (List Node) :=
  match fuel with
  | 0 => ([], none)
  | fuel + 1 =>
    match reader.peek? with
    | none => ([], none)
    | some (.value, reader) =>
      match reader.take.peek? with
      | none => ([], none)
      | some (token, reader) =>
        if [Token.key, .value, .blockEnd].contains token then
          let (others, next) := blockEntries fuel reader
          (.empty :: others, next)
        else
          match node fuel ⟨true, true⟩ reader with
          | (value, none) => (value.toList, none)
          | (value, some reader) =>
            let (others, next) := blockEntries fuel reader
            (value.toList ++ others, next)
    | some (_, reader) =>
      let (others, next) := blockEntries fuel reader
      (.empty :: others, next)

/-- The items between brackets, after the opening one or after an item. -/
def flowItems (fuel : Nat) (isFirst : Bool) (reader : Reader) : Outcome (List Node) :=
  match fuel with
  | 0 => ([], none)
  | fuel + 1 =>
    match reader.peek? with
    | none => ([], none)
    | some (.flowSequenceEnd, reader) => ([], some reader.take)
    | some (token, reader) =>
      let separated :=
        if isFirst then some (token, reader)
        else if token = .flowEntry then reader.take.peek?
        else none
      match separated with
      | none => ([], none)
      | some (.flowSequenceEnd, reader) => ([], some reader.take)
      | some (.key, reader) =>
        let (pair, next) := flowPair fuel reader.take
        let item := Node.mapping {} pair next.isSome
        match next with
        | none => ([item], none)
        | some reader =>
          let (others, next) := flowItems fuel false reader
          (item :: others, next)
      | some (_, reader) =>
        match node fuel ⟨false, false⟩ reader with
        | (first, none) => (first.toList, none)
        | (first, some reader) =>
          let (others, next) := flowItems fuel false reader
          (first.toList ++ others, next)

/-- The key and the value of a pair that stands between brackets. A colon or comma or bracket
where the key should be is passed over. -/
def flowPair (fuel : Nat) (reader : Reader) : Outcome (List Node) :=
  match fuel with
  | 0 => ([], none)
  | fuel + 1 =>
    match reader.peek? with
    | none => ([], none)
    | some (token, reader) =>
      let (key, next) :=
        if [Token.value, .flowEntry, .flowSequenceEnd].contains token then
          (some .empty, some reader.take)
        else node fuel ⟨false, false⟩ reader
      match next with
      | none => (key.toList, none)
      | some reader =>
        let (value, next) := flowPairValue fuel reader
        (key.toList ++ value.toList, next)

/-- The value of a pair that stands between brackets. -/
def flowPairValue (fuel : Nat) (reader : Reader) : Outcome (Option Node) :=
  match fuel with
  | 0 => (none, none)
  | fuel + 1 =>
    match reader.peek? with
    | none => (none, none)
    | some (.value, reader) =>
      match reader.take.peek? with
      | none => (none, none)
      | some (token, reader) =>
        if [Token.flowEntry, .flowSequenceEnd].contains token then (some .empty, some reader)
        else node fuel ⟨false, false⟩ reader
    | some (_, reader) => (some .empty, some reader)

/-- The keys and values between braces, after the opening one or after a pair. -/
def flowEntries (fuel : Nat) (isFirst : Bool) (reader : Reader) : Outcome (List Node) :=
  match fuel with
  | 0 => ([], none)
  | fuel + 1 =>
    match reader.peek? with
    | none => ([], none)
    | some (.flowMappingEnd, reader) => ([], some reader.take)
    | some (token, reader) =>
      let separated :=
        if isFirst then some (token, reader)
        else if token = .flowEntry then reader.take.peek?
        else none
      match separated with
      | none => ([], none)
      | some (.flowMappingEnd, reader) => ([], some reader.take)
      | some (.key, reader) =>
        match reader.take.peek? with
        | none => ([], none)
        | some (token, reader) =>
          if [Token.value, .flowEntry, .flowMappingEnd].contains token then
            let (others, next) := flowValue fuel reader
            (.empty :: others, next)
          else
            match node fuel ⟨false, false⟩ reader with
            | (key, none) => (key.toList, none)
            | (key, some reader) =>
              let (others, next) := flowValue fuel reader
              (key.toList ++ others, next)
      | some (_, reader) =>
        match node fuel ⟨false, false⟩ reader with
        | (key, none) => (key.toList, none)
        | (key, some reader) =>
          match reader.peek? with
          | none => (key.toList, none)
          | some (_, reader) =>
            let (others, next) := flowEntries fuel false reader
            (key.toList ++ .empty :: others, next)

/-- The value of a pair between braces, and the pairs after it. -/
def flowValue (fuel : Nat) (reader : Reader) : Outcome (List Node) :=
  match fuel with
  | 0 => ([], none)
  | fuel + 1 =>
    match reader.peek? with
    | none => ([], none)
    | some (.value, reader) =>
      match reader.take.peek? with
      | none => ([], none)
      | some (token, reader) =>
        if [Token.flowEntry, .flowMappingEnd].contains token then
          let (others, next) := flowEntries fuel false reader
          (.empty :: others, next)
        else
          match node fuel ⟨false, false⟩ reader with
          | (value, none) => (value.toList, none)
          | (value, some reader) =>
            let (others, next) := flowEntries fuel false reader
            (value.toList ++ others, next)
    | some (_, reader) =>
      let (others, next) := flowEntries fuel false reader
      (.empty :: others, next)

end

/-! ## Documents -/

/-- The reader after some directives, of which none is given twice. -/
def directives : Nat → Bool → Reader → Option Reader
  | 0, _, _ => none
  | fuel + 1, versioned, reader => do
    let (token, reader) ← reader.peek?
    match token with
    | .versionDirective major minor =>
      if versioned || major ≠ 1 || (minor ≠ 1 && minor ≠ 2) then none
      directives fuel true reader.take
    | .tagDirective handle meaning =>
      if (reader.handles.lookup handle).isSome then none
      directives fuel versioned
        { reader with handles := (handle, meaning) :: reader.handles }.take
    | _ => return reader

/-- The handles that need not be declared. -/
def defaultHandles : List (String × String) := [("!", "!"), ("!!", "tag:yaml.org,2002:")]

/-- The reader with the handles that need not be declared. -/
def withDefaults (reader : Reader) : Reader :=
  { reader with handles := reader.handles ++ defaultHandles }

/-- Whether a token ends a document that has no content. -/
def endsDocument : Token → Bool
  | .versionDirective _ _ | .tagDirective _ _ | .documentStart | .documentEnd | .streamEnd => true
  | _ => false

/-- The reader after the marks that end a document. -/
def skipEnds : Nat → Reader → Option (Token × Reader)
  | 0, _ => none
  | fuel + 1, reader => do
    let (token, reader) ← reader.peek?
    if token = .documentEnd then skipEnds fuel reader.take else return (token, reader)

end Reader

/-- What a text holds. -/
structure Stream where
  /-- The node of the first document, as far as it could be read. There is none in an empty
  text. -/
  root : Option Node
  /-- Whether the first document has a mistake. -/
  hasMistake : Bool
  /-- Whether anything follows the first document. -/
  hasMore : Bool

namespace Stream

/-- What a text holds from the end of its first document on. -/
def afterRoot (fuel : Nat) (root : Option Node) (reader : Reader) : Stream :=
  match reader.peek? with
  | none => ⟨root, true, false⟩
  | some (token, reader) =>
    let reader := if token = .documentEnd then reader.take else reader
    match reader.skipEnds fuel with
    | some (.streamEnd, _) => ⟨root, false, false⟩
    | _ => ⟨root, false, true⟩

/-- What a text holds from its first node on. -/
def ofRoot (fuel : Nat) (reader : Reader) : Stream :=
  match reader.node fuel ⟨true, false⟩ with
  | (root, none) => ⟨root, true, false⟩
  | (root, some reader) => afterRoot fuel root reader

/-- What a text holds from its first token on. -/
def ofReader (fuel : Nat) (reader : Reader) : Stream :=
  match reader.peek? with
  | none => ⟨none, true, false⟩
  | some (.streamEnd, _) => ⟨none, false, false⟩
  | some (token, reader) =>
    let isExplicit := match token with
      | .versionDirective _ _ | .tagDirective _ _ | .documentStart => true
      | _ => false
    if !isExplicit then ofRoot fuel reader.withDefaults
    else
      match reader.directives fuel false with
      | none => ⟨none, true, false⟩
      | some reader =>
        match reader.peek? with
        | some (.documentStart, reader) =>
          let reader := reader.withDefaults.take
          match reader.peek? with
          | none => ⟨none, true, false⟩
          | some (token, reader) =>
            if Reader.endsDocument token then afterRoot fuel (some .empty) reader
            else ofRoot fuel reader
        | _ => ⟨none, true, false⟩

/-- What a text holds. Each step of reading takes a token or goes into a node, and no character
gives more than four tokens, so the steps are bounded by the characters. -/
def ofText (text : String) : Stream :=
  let chars := text.toList
  if chars.all isAllowed then
    ofReader (16 * (chars.length + 4)) { scanner := Scanner.ofChars chars }
  else ⟨none, true, false⟩

end Stream

end ClientGen.Yaml
