import ClientGen.Config.Draft
import ClientGen.Files.Path
import ClientGen.Json.Leading
import ClientGen.Toml.Parser
import ClientGen.Yaml.Tree

/-!
# Reading configurations

A configuration is written in JSON, TOML or YAML; the extension of the file tells in which. A
text that is broken further on may still show an earlier fault first.

## Main definitions

* `ConfigFormat.ofPath` — the format of a file.
* `Config.ofJson`, `Config.ofToml`, `Config.ofYaml` — the configuration in a text.
* `Config.ofText` — the configuration in a text of a given format.
-/

set_option autoImplicit false

namespace ClientGen

/-- The format of a file by the extension of its name, whose case does not matter. Any but two
stand for YAML. -/
def ConfigFormat.ofPath (path : String) : ConfigFormat :=
  match (FilePath.extension? path).map Unicode.toLower with
  | some "json" => .json
  | some "toml" => .toml
  | _ => .yaml

namespace Config

/-- The fault of a value that is neither a text nor a list of texts. -/
def expectTexts (texts : Option (List String)) : Except ConfigFault (List String) :=
  match texts with
  | some texts => .ok texts
  | none => .error .expectedTexts

/-! ## JSON -/

/-- The texts of an array. -/
def jsonTexts? (value : Json) : Option (List String) :=
  value.asArray?.bind (·.mapM Json.asString?)

/-- How JSON values are read as fields. -/
def jsonReader : ConfigReader Json where
  text? := Json.asString?
  optionalText?
    | .null => some none
    | value => value.asString?.map some
  texts? := jsonTexts?
  oneOrMore value := expectTexts ((value.asString?.map ([·])).or (jsonTexts? value))

/-- How deep the values of a configuration in JSON may be nested. -/
def jsonDepth : Nat := Json.documentDepth - 1

/-- The configuration in a JSON text: an object of the fields, or an array of them in order. -/
def ofJson (text : String) : Except ConfigFault Config := do
  match Json.leading? ConfigDraft.fieldNames.contains jsonDepth text with
  | some (.object members ending) =>
    let draft ← ConfigDraft.setAll jsonReader {} members
    if ending = .broken then throw .malformed
    let config ← draft.finish
    if ending = .followed then throw .malformed
    return config
  | some (.array items ending) =>
    let draft ← ConfigDraft.setAll jsonReader {} (ConfigDraft.fieldNames.zip items)
    if ending ≠ .complete || ConfigDraft.fieldNames.length < items.length then throw .malformed
    match draft.finish with
    | .ok config => return config
    | .error _ => throw .malformed
  | none => throw .malformed

/-! ## TOML -/

/-- The text of a TOML value that is one. -/
def tomlText? : Toml.Value → Option String
  | .text value => some value
  | _ => none

/-- The texts of a TOML array. -/
def tomlTexts? : Toml.Value → Option (List String)
  | .array items => items.mapM tomlText?
  | _ => none

/-- How TOML values are read as fields. -/
def tomlReader : ConfigReader Toml.Value where
  text? := tomlText?
  optionalText? value := (tomlText? value).map some
  texts? := tomlTexts?
  oneOrMore value := expectTexts (((tomlText? value).map ([·])).or (tomlTexts? value))

/-- The configuration in a TOML text. -/
def ofToml (text : String) : Except ConfigFault Config := do
  let members ← ConfigDraft.expect (Toml.parse? text)
  (← ConfigDraft.setAll tomlReader {} members).finish

/-! ## YAML -/

open Yaml (Tree Node)

/-- The text of a scalar, or nothing if it is written plainly and stands for that. -/
def yamlOptionalText? : Tree → Option (Option String)
  | .scalar tag text isPlain =>
    if !isPlain then some (some text)
    else match tag with
      | none => some (if text.isEmpty || Yaml.isNullWord text then none else some text)
      | some tag =>
        if tag ≠ Yaml.coreTag "null" then some (some text)
        else if Yaml.isNullWord text then some none
        else none
  | _ => none

/-- The texts of a sequence of scalars. A plain scalar without text is an empty sequence. -/
def yamlTexts? : Tree → Option (List String)
  | .sequence _ items => items.mapM Tree.scalarText?
  | .scalar _ text isPlain => if text.isEmpty && isPlain then some [] else none
  | .mapping _ _ => none

/-- The text of a scalar whose value is a text. -/
def yamlPureText? : Tree → Option String
  | .scalar tag text isPlain =>
    match Yaml.scalarValue? tag text isPlain with
    | some (.text value) => some value
    | _ => none
  | _ => none

/-- The text or the texts of a tree in which every scalar has a value. -/
def yamlOneOrMore (tree : Tree) : Except ConfigFault (List String) :=
  if !tree.isReadable then .error .malformed
  else match tree with
    | .sequence _ items => expectTexts (items.mapM yamlPureText?)
    | tree => expectTexts ((yamlPureText? tree).map ([·]))

/-- How YAML trees are read as fields. Every scalar counts as a text where one is wanted. -/
def yamlReader : ConfigReader Tree where
  text? := Tree.scalarText?
  optionalText? := yamlOptionalText?
  texts? := yamlTexts?
  oneOrMore := yamlOneOrMore

/-- How deep the values of a configuration in YAML may be nested. -/
def yamlDepth : Nat := Node.depthLimit - 1

/-- The tree of a node of the document `root`, when `left` aliases may still be followed, and how
many may be followed after it. -/
def yamlTree (root node : Node) (left : Nat) : Except ConfigFault (Tree × Nat) :=
  ConfigDraft.expect ((Node.tree root yamlDepth node).run left)

/-- The draft with the keys and values of a mapping in the document `root`, when `left` aliases
may still be followed. -/
def setYaml (root : Node) : Nat → ConfigDraft → List Node → Except ConfigFault ConfigDraft
  | left, draft, key :: value :: rest => do
    let (key, left) ← yamlTree root key left
    let name ← ConfigDraft.expect key.scalarText?
    if ConfigDraft.fieldNames.contains name then
      let (tree, left) ← yamlTree root value left
      setYaml root left (← draft.set yamlReader name tree) rest
    else setYaml root left draft rest
  | _, _, [_] => .error .malformed
  | _, draft, [] => .ok draft

/-- The draft of the first document of a text. A text without content is an empty mapping. -/
def yamlDraft (stream : Yaml.Stream) : Except ConfigFault ConfigDraft :=
  match stream.root with
  | none => if stream.hasMistake then .error .malformed else .ok {}
  | some (.scalar _ text isPlain) =>
    if text.isEmpty && isPlain then .ok {} else .error .malformed
  | some (.mapping properties entries isComplete) => do
    let root := Node.mapping properties entries isComplete
    let draft ← setYaml root root.aliasLimit {} entries
    if isComplete then return draft else throw .malformed
  | some _ => .error .malformed

/-- The configuration in a YAML text. -/
def ofYaml (text : String) : Except ConfigFault Config := do
  let stream := Yaml.Stream.ofText text
  let config ← (← yamlDraft stream).finish
  if stream.hasMistake || stream.hasMore then throw .malformed
  return config

/-! ## All formats -/

/-- The configuration in a text of a given format. -/
def ofText (format : ConfigFormat) (text : String) : Except Failure Config :=
  let config := match format with
    | .json => ofJson text
    | .toml => ofToml text
    | .yaml => ofYaml text
  config.mapError (.config format)

end Config

end ClientGen
