import ClientGen.Generation.Pass
import ClientGen.Text.Basic

/-!
# Backends

A backend renders the parts of an API in one language. Which parts there are and in which order
they stand in a file is decided elsewhere; a backend only says how each of them is written.

## Main definitions

* `Backend` — what a backend provides.
* `Spelling` — a type as a language writes it.
* `TypeSpellings` — how a language writes built-in types, containers and declared types.
* `TypeSpellings.spell` — the spelling of a type.
* `Banner` — what the head of a file is filled in with.
-/

set_option autoImplicit false

namespace ClientGen

/-! ## Types -/

/-- A type as a language writes it. -/
structure Spelling where
  /-- How the type is written. -/
  name : String
  /-- How an empty value of the type is written, if there is one. -/
  default? : Option String := none
  deriving DecidableEq, Repr, Inhabited

/-- How a language writes types in the file that is rendered. -/
structure TypeSpellings where
  /-- The name of the language. -/
  language : String
  /-- A built-in type with a name. -/
  intrinsic? : String → Option Spelling
  /-- A container of elements of a type that is written in the given way. -/
  container : FileKind → Wrapper → String → Spelling
  /-- A declared type with a name. -/
  declared : FileKind → String → Spelling

namespace TypeSpellings

/-- The spelling of a type that is no container. -/
def leaf (spellings : TypeSpellings) (node : TypeNode) : Rendering Spelling := do
  if node.isIntrinsic then
    match spellings.intrinsic? node.name with
    | some spelling => return spelling
    | none => throw (.backend (.unknownIntrinsic spellings.language node.name))
  else
    Rendering.ensureNamed node
    return spellings.declared (← get).file node.name

/-- The spelling of a type inside of which there are at most `depth` others. Each of them counts
as referred to. -/
def spellWithin (spellings : TypeSpellings) : Nat → TypeId → Rendering Spelling
  | 0, id => do
    Rendering.reference id
    spellings.leaf (← Rendering.node id)
  | depth + 1, id => do
    Rendering.reference id
    let node ← Rendering.node id
    match node.kind with
    | .container wrapper element =>
      let spelling ← spellings.spellWithin depth element
      return spellings.container (← get).file wrapper spelling.name
    | _ => spellings.leaf node

/-- The spelling of a type. -/
def spell (spellings : TypeSpellings) (id : TypeId) : Rendering Spelling :=
  spellings.spellWithin id id

end TypeSpellings

/-! ## Backends -/

/-- What renders the parts of an API in one language. The number is the level of indentation. -/
structure Backend where
  /-- The name of the language. -/
  language : String
  /-- The extension of file names. -/
  extension : String
  /-- Whether a request type stands for several parameters that may be left out. -/
  takesRequests : Bool
  /-- Whether there is a file of streams. -/
  hasStreams : Bool
  /-- One level of indentation. -/
  indentation : String := "  "
  /-- What a line comment begins with. -/
  commentMark : String := "// "
  /-- How a type is written. -/
  spell : TypeId → Rendering Spelling
  /-- A property of a type. -/
  property : Nat → Property → Rendering String
  /-- A parameter of a method. -/
  parameter : Nat → Method → Parameter → Rendering String
  /-- The declaration of a type. -/
  type : Nat → TypeId → Rendering String
  /-- The declaration of a method. -/
  method : Nat → Method → Rendering String
  /-- The declaration of a method that hands its response over as a stream. -/
  streamer : Nat → Method → Rendering String
  /-- The head of the file of methods. -/
  methodsHead : Rendering String
  /-- The end of the files of methods and streams. -/
  methodsEnd : Rendering String
  /-- The head of the file of streams. -/
  streamsHead : Rendering String
  /-- The head of the file of types. -/
  modelsHead : Rendering String
  /-- The end of the file of types. -/
  modelsEnd : Rendering String

namespace Backend

/-- The white space of a level of indentation. -/
def indent (backend : Backend) (level : Nat) : String :=
  Text.repeated level backend.indentation

/-- A text as comments, one for each line. -/
def comment (backend : Backend) (level : Nat) (text : String) : String :=
  let line := fun (content : String) =>
    Text.trimEnd (backend.indent level ++ backend.commentMark ++ content)
  "\n".intercalate ((Text.lines text).map line)

end Backend

/-- The name of the request type of a method, if the language uses request types and the method
has one, and otherwise the empty text. -/
def requestName (takesRequests : Bool) (method : Method) : Rendering String := do
  if takesRequests then
    match ← Rendering.requestType method.operationId with
    | some id => return (← Rendering.node id).name
    | none => return ""
  else return ""

/-! ## Heads of files -/

/-- A version as a part of a name: its ASCII letters and digits. -/
def versionSlug (version : String) : String :=
  String.ofList (version.toList.filter Unicode.isAsciiAlphanumeric)

/-- What the head of a file is filled in with. -/
structure Banner where
  /-- The title of the API. -/
  title : String
  /-- The version of the API. -/
  version : String
  /-- The version as a part of a name. -/
  slug : String
  /-- The name of the package. -/
  package : String
  /-- The name of the class that holds the methods. -/
  className : String
  /-- The names of the types that the file refers to. -/
  types : List String

/-- The banner of the file that a pass renders. -/
def Pass.banner (pass : Pass) : Banner where
  title := pass.model.document.title?.getD ""
  version := pass.apiVersion
  slug := versionSlug pass.apiVersion
  package := pass.packageName
  className := Text.upperCamelCase pass.packageName ++ versionSlug pass.apiVersion ++ "Sdk"
  types := pass.referencedNames

/-- The head of a file, without the white space that ends it. -/
def fileHead (head : Banner → String) : Rendering String :=
  return Text.trimEnd (head (← get).banner)

end ClientGen
