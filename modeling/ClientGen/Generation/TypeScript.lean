import ClientGen.Generation.Backend
import ClientGen.Generation.Endpoint

/-!
# TypeScript

Types are interfaces. Methods are members of a class, and a second class has the same methods
with a callback that the response is handed to as a stream. A method with several parameters that
may be left out takes one request object.

## Main definitions

* `TypeScript.backend` — the backend.
* `TypeScript.Call` — the parts of a method as it is written, in either class.
* `TypeScript.docComment` — a text as a documentation comment.
-/

set_option autoImplicit false

namespace ClientGen.TypeScript

/-! ## Names -/

/-- A name as the key of an object: quoted if it is no identifier. -/
def key (name : String) : String :=
  if Text.isIdentifier name then name else "'" ++ name ++ "'"

/-- The argument that stands for a parameter with the given name. -/
def argumentName (name : String) : String :=
  if Text.isIdentifier name then name else Text.lowerCamelCase name

/-- The name of a method. -/
def methodName (method : Method) : String := Text.lowerCamelCase method.operationId

/-! ## Types -/

/-- The spelling of a built-in type. -/
def intrinsic? : String → Option Spelling
  | "integer" | "int32" | "int64" | "float" | "double" | "number" => some ⟨"number", some "0"⟩
  | "string" | "password" | "byte" | "binary" | "email" | "uuid" | "uri" | "hostname" | "ipv4"
  | "ipv6" | "date" => some ⟨"string", some "''"⟩
  | "datetime" => some ⟨"Date", none⟩
  | "boolean" => some ⟨"boolean", some "false"⟩
  | "object" | "any" => some ⟨"any", none⟩
  | "void" => some ⟨"void", none⟩
  | _ => none

/-- The spelling of a container. -/
def container (_ : FileKind) (wrapper : Wrapper) (element : String) : Spelling :=
  match wrapper with
  | .list => ⟨element ++ "[]", some "[]"⟩
  | .map => ⟨"IDictionary<" ++ element ++ ">", some "\x7b\x7d"⟩
  | .delimited => ⟨"DelimArray<" ++ element ++ ">", none⟩

/-- How types are written. -/
def spellings : TypeSpellings where
  language := "typescript"
  intrinsic? := intrinsic?
  container := container
  declared := fun _ name => ⟨name, none⟩

/-- The white space of a level of indentation. -/
def indent (level : Nat) : String := Text.repeated level "  "

/-! ## Documentation -/

/-- A line of a documentation comment after the given white space. -/
def docCommentLine (margin content : String) : String :=
  if Text.isBlank content then margin ++ " *" else margin ++ " * " ++ content

/-- The lines of a documentation comment after the given white space, none for a blank text. -/
def docCommentLines (margin text : String) : List String :=
  if Text.isBlank text then []
  else
    [margin ++ "/**"] ++ (Text.lines (Text.trimEnd text)).map (docCommentLine margin) ++
      [margin ++ " */"]

/-- A text as a documentation comment after the given white space, with the line feed that ends
it. -/
def docBlock (margin text : String) : String :=
  String.join ((docCommentLines margin text).map (· ++ "\n"))

/-- A text as a documentation comment at a level of indentation. -/
def docComment (level : Nat) (text : String) : String := docBlock (indent level) text

/-- A text, followed by a tag for what should no longer be used. -/
def withDeprecation (deprecated : Bool) (text : String) : String :=
  if deprecated then text ++ "\n\n@deprecated" else text

/-! ## Interfaces -/

/-- A property as a member of its interface. -/
def property (level : Nat) (property : Property) : Rendering String := do
  let spelling ← spellings.spell property.type
  let doc := docComment level (withDeprecation property.deprecated property.description)
  return doc ++ indent level ++
    (if property.readOnly then "readonly " else "") ++
    key property.name ++
    (if property.required then "" else "?") ++ ": " ++
    spelling.name ++
    if property.nullable then " | null" else ""

/-- A type as an interface. -/
def type (level : Nat) (id : TypeId) : Rendering String := do
  let node ← Rendering.node id
  Rendering.ensureNamed node
  let members ← node.properties.mapM (property (level + 1))
  let body :=
    if members.isEmpty then "\x7b\x7d"
    else "\x7b\n" ++ "\n".intercalate members ++ "\n" ++ indent level ++ "\x7d"
  return docComment level (withDeprecation node.deprecated node.description) ++
    indent level ++ "export interface " ++ node.name ++ " " ++ body

/-! ## Arguments -/

/-- An argument of a method. -/
structure Argument where
  /-- The name. -/
  name : String
  /-- The type. -/
  type : String
  /-- Whether it may be left out. -/
  optional : Bool
  deriving DecidableEq, Repr, Inhabited

/-- An argument as it is written. -/
def Argument.render (argument : Argument) : String :=
  argument.name ++ (if argument.optional then "?" else "") ++ ": " ++ argument.type

/-- The argument for a parameter. -/
def argumentOf (parameter : Parameter) : Rendering Argument := do
  let spelling ← spellings.spell (← Rendering.sentType parameter)
  return {
    name := argumentName parameter.name
    type := spelling.name
    optional := !parameter.required }

/-- A parameter as an argument of its method. -/
def parameter (level : Nat) (_ : Method) (parameter : Parameter) : Rendering String :=
  return indent level ++ (← argumentOf parameter).render

/-- The argument for the settings of a call. -/
def options : Argument := ⟨"options", "Partial<ITransportSettings>", true⟩

/-! ## Methods -/

/-- A method as it is written, in either class. -/
structure Call where
  /-- The verb of the request. -/
  verb : Verb
  /-- The name of the method. -/
  name : String
  /-- What the method does. -/
  doc : String
  /-- The arguments for the parameters, in order. -/
  arguments : List Argument
  /-- The type of the value that a call returns. -/
  returns : String
  /-- The types of the errors. -/
  errors : List String
  /-- The path, with expressions for its parameters. -/
  path : String
  /-- The parameters of the query with their values. -/
  query : List (String × String)
  /-- The value that is the body. -/
  body : Option String

/-- The value of a parameter, when `request` is the name of the type of the request object or
empty if there is none. -/
def access (request : String) (parameter : Parameter) : String :=
  if request.isEmpty then argumentName parameter.name
  else if Text.isIdentifier parameter.name then "request." ++ parameter.name
  else "request['" ++ parameter.name ++ "']"

/-- The arguments for the parameters of a method. -/
def arguments (request : String) (method : Method) : Rendering (List Argument) :=
  if request.isEmpty then method.allParameters.mapM argumentOf
  else return [⟨"request", request, false⟩]

/-- A method with its parts. -/
def call (method : Method) : Rendering Call := do
  let request ← requestName true method
  let arguments ← arguments request method
  let returns ← spellings.spell method.returnType
  let errors ← method.errorResponses.mapM fun response => spellings.spell response.type
  let value := access request
  let heading := method.verb.name ++ " " ++ method.endpoint ++ " -> " ++ returns.name
  return {
    verb := method.verb
    name := methodName method
    doc := withDeprecation method.deprecated
      (paragraphs [heading, method.summary, method.description])
    arguments := arguments ++ [options]
    returns := returns.name
    errors := (errors.map (·.name)).eraseDups
    path := method.path fun p => "$\x7bencodeParam(" ++ value p ++ ")\x7d"
    query := (method.parametersIn .query).map fun p => (key p.name, value p)
    body := method.bodyParameter?.map value }

namespace Call

/-- The types of the errors, as alternatives. -/
def errorType (call : Call) : String :=
  if call.errors.isEmpty then "unknown" else " | ".intercalate call.errors

/-- The lines of the arguments. -/
def argumentLines (call : Call) (level : Nat) : String :=
  ",\n".intercalate (call.arguments.map fun a => indent level ++ a.render)

/-- The lines of the path, the query, the body and the settings. -/
def request (call : Call) (level : Nat) : String :=
  let query :=
    if call.query.isEmpty then "null"
    else
      let fields := call.query.map fun (name, value) => name ++ ": " ++ value
      "\x7b " ++ ", ".intercalate fields ++ " \x7d"
  let path := "\x60" ++ call.path ++ "\x60"
  ",\n".intercalate
    ([path, query, call.body.getD "null", "options"].map (indent level ++ ·)) ++ "\n"

/-- The method as a member of the class of methods. -/
def renderMethod (call : Call) (level : Nat) : String :=
  let generics := call.returns ++ ", " ++ call.errorType
  docComment level call.doc ++
    indent level ++ "async " ++ call.name ++ "(\n" ++
    call.argumentLines (level + 1) ++ "\n" ++
    indent level ++ "): Promise<SDKResponse<" ++ generics ++ ">> \x7b\n" ++
    indent (level + 1) ++ "return this." ++ call.verb.key ++ "<" ++ generics ++ ">(\n" ++
    call.request (level + 2) ++
    indent (level + 1) ++ ")\n" ++
    indent level ++ "\x7d"

/-- The method as a member of the class of streams. -/
def renderStreamer (call : Call) (level : Nat) : String :=
  docComment level call.doc ++
    indent level ++ "async " ++ call.name ++ "(\n" ++
    indent (level + 1) ++ "callback: (readable: Readable) => Promise<" ++ call.returns ++
      ">,\n" ++
    call.argumentLines (level + 1) ++ "\n" ++
    indent level ++ ") \x7b\n" ++
    indent (level + 1) ++ "return this.authStream<" ++ call.returns ++ ">(\n" ++
    indent (level + 2) ++ "callback,\n" ++
    indent (level + 2) ++ "'" ++ call.verb.name ++ "',\n" ++
    call.request (level + 2) ++
    indent (level + 1) ++ ")\n" ++
    indent level ++ "\x7d"

end Call

/-- A method as a member of the class of methods. -/
def method (level : Nat) (method : Method) : Rendering String :=
  return (← call method).renderMethod level

/-- A method as a member of the class of streams. -/
def streamer (level : Nat) (method : Method) : Rendering String :=
  return (← call method).renderStreamer level

/-! ## Files -/

/-- The comment that a file of the given kind begins with. -/
def notice (banner : Banner) (kind : String) : String :=
  "/**\n" ++
    " * " ++ banner.title ++ " API " ++ banner.version ++ kind ++ "\n" ++
    " *\n" ++
    " * Generated by sdkgen. Do not edit by hand.\n" ++
    " */\n" ++
    "\n"

/-- The import of the types that a file refers to. -/
def typeImport (types : List String) : String :=
  if types.isEmpty then ""
  else
    "import type \x7b\n" ++ String.join (types.map fun t => "  " ++ t ++ ",\n") ++
      "\x7d from './models'\n"

/-- The import of what the package needs at run time, the given names aside. -/
def runtimeImport (names : List String) : String :=
  "import type \x7b\n" ++ String.join (names.map fun t => "  " ++ t ++ ",\n") ++
    "\x7d from '@sdkgen/runtime'\n" ++
    "import \x7b APIMethods, encodeParam \x7d from '@sdkgen/runtime'\n"

/-- The beginning of a class of methods. -/
def classHead (name : String) (version : String) : String :=
  "export class " ++ name ++ " extends APIMethods \x7b\n" ++
    "  static readonly ApiVersion = '" ++ version ++ "'\n"

/-- The head of the file of methods. -/
def methodsHead (banner : Banner) : String :=
  notice banner "" ++
    runtimeImport ["DelimArray", "IDictionary", "ITransportSettings", "SDKResponse"] ++
    typeImport banner.types ++
    "\n" ++
    classHead banner.className banner.version

/-- The head of the file of streams. -/
def streamsHead (banner : Banner) : String :=
  notice banner " streaming methods" ++
    "import type \x7b Readable \x7d from 'readable-stream'\n" ++
    runtimeImport ["DelimArray", "IDictionary", "ITransportSettings"] ++
    typeImport banner.types ++
    "\n" ++
    classHead (banner.className ++ "Stream") banner.version

/-- The head of the file of types. -/
def modelsHead (banner : Banner) : String :=
  notice banner " models" ++
    "import type \x7b DelimArray, IDictionary \x7d from '@sdkgen/runtime'\n"

/-- The backend for TypeScript. -/
def backend : Backend where
  language := "typescript"
  extension := "ts"
  takesRequests := true
  hasStreams := true
  spell := spellings.spell
  property := property
  parameter := parameter
  type := type
  method := method
  streamer := streamer
  methodsHead := fileHead methodsHead
  methodsEnd := return "\x7d"
  streamsHead := fileHead streamsHead
  modelsHead := fileHead modelsHead
  modelsEnd := return ""

end ClientGen.TypeScript
