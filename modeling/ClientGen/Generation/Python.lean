import ClientGen.Generation.Backend
import ClientGen.Generation.Endpoint

/-!
# Python

Types are `attrs` classes. Methods are members of a class and take keyword arguments, so there
are no request types, and there are no streams.

## Main definitions

* `Python.backend` — the backend.
* `Python.safeName` — a name as it can be used in the language.
* `Python.Definition` — the parts of a method as it is written.
* `Python.docstring` — a text as a documentation string.
-/

set_option autoImplicit false

namespace ClientGen.Python

/-! ## Names -/

/-- The words that cannot be names. -/
def keywords : List String :=
  ["False", "None", "True", "and", "as", "assert", "async", "await", "break", "class",
    "continue", "def", "del", "elif", "else", "except", "finally", "for", "from", "global",
    "if", "import", "in", "is", "lambda", "nonlocal", "not", "or", "pass", "raise", "return",
    "try", "while", "with", "yield"]

/-- Whether a name can be used as it is, keywords aside. -/
def isPlainName (name : String) : Bool :=
  Text.isIdentifier name && !name.toList.contains '$'

/-- The name that stands for a name of the API. -/
def safeName (name : String) : String :=
  let plain := if isPlainName name then name else Text.snakeCase name
  if keywords.contains plain then plain ++ "_" else plain

/-! ## Types -/

/-- The spelling of a built-in type. -/
def intrinsic? : String → Option Spelling
  | "integer" | "int32" | "int64" => some ⟨"int", some "0"⟩
  | "float" | "double" | "number" => some ⟨"float", some "0.0"⟩
  | "string" | "password" | "byte" | "email" | "uuid" | "uri" | "hostname" | "ipv4" | "ipv6" =>
    some ⟨"str", some "\"\""⟩
  | "binary" => some ⟨"bytes", some "b\"\""⟩
  | "boolean" => some ⟨"bool", some "False"⟩
  | "datetime" => some ⟨"datetime.datetime", none⟩
  | "date" => some ⟨"datetime.date", none⟩
  | "object" | "any" => some ⟨"Any", none⟩
  | "void" => some ⟨"None", none⟩
  | _ => none

/-- The spelling of a container. -/
def container (file : FileKind) (wrapper : Wrapper) (element : String) : Spelling :=
  match wrapper with
  | .list => ⟨"Sequence[" ++ element ++ "]", some "[]"⟩
  | .map => ⟨"MutableMapping[str, " ++ element ++ "]", some "\x7b\x7d"⟩
  | .delimited =>
    let module := if file = .models then "" else "models."
    ⟨module ++ "DelimSequence[" ++ element ++ "]", none⟩

/-- The spelling of a declared type: quoted in its own file, qualified in the others. -/
def declared (file : FileKind) (name : String) : Spelling :=
  match file with
  | .models => ⟨"\"" ++ name ++ "\"", none⟩
  | _ => ⟨"models." ++ name, none⟩

/-- How types are written. -/
def spellings : TypeSpellings where
  language := "python"
  intrinsic? := intrinsic?
  container := container
  declared := declared

/-- The white space of a level of indentation. -/
def indent (level : Nat) : String := Text.repeated level "    "

/-! ## Documentation -/

/-- A line of a documentation string after the given white space. -/
def docstringLine (margin content : String) : String :=
  if Text.isBlank content then "" else margin ++ content

/-- The lines of a documentation string after the given white space, none for a blank text. -/
def docstringLines (margin text : String) : List String :=
  if Text.isBlank text then []
  else
    [margin ++ "\"\"\""] ++ (Text.lines (Text.trimEnd text)).map (docstringLine margin) ++
      [margin ++ "\"\"\""]

/-- A text as a documentation string, with the line feed that ends it. -/
def docstring (margin text : String) : String :=
  String.join ((docstringLines margin text).map (· ++ "\n"))

/-- A text, followed by a paragraph for what should no longer be used. -/
def withDeprecation (deprecated : Bool) (text : String) : String :=
  if deprecated then text ++ "\n\nDeprecated." else text

/-! ## Attributes and arguments -/

/-- A name with the type of its values, and what happens if it is left out. -/
structure Argument where
  /-- The name. -/
  name : String
  /-- The type. -/
  type : String
  /-- Whether `None` is a value. -/
  nullable : Bool
  /-- Whether the name may be left out, which gives it the value `None`. -/
  optional : Bool
  deriving DecidableEq, Repr, Inhabited

/-- An argument or an attribute as it is written. -/
def Argument.render (argument : Argument) : String :=
  argument.name ++ ": " ++
    (if argument.nullable then "Optional[" ++ argument.type ++ "]" else argument.type) ++
    if argument.optional then " = None" else ""

/-- The attribute for a property. -/
def attributeOf (property : Property) : Rendering Argument := do
  let spelling ← spellings.spell property.type
  return {
    name := safeName property.name
    type := spelling.name
    nullable := !property.required || property.nullable
    optional := !property.required }

/-- The argument for a parameter. -/
def argumentOf (parameter : Parameter) : Rendering Argument := do
  let spelling ← spellings.spell (← Rendering.sentType parameter)
  return {
    name := safeName parameter.name
    type := spelling.name
    nullable := !parameter.required
    optional := !parameter.required }

/-- A property as an attribute of its class. -/
def property (level : Nat) (property : Property) : Rendering String :=
  return indent level ++ (← attributeOf property).render

/-- A parameter as an argument of its method. -/
def parameter (level : Nat) (_ : Method) (parameter : Parameter) : Rendering String :=
  return indent level ++ (← argumentOf parameter).render

/-! ## Classes -/

/-- A type as a class. -/
def type (level : Nat) (id : TypeId) : Rendering String := do
  let node ← Rendering.node id
  Rendering.ensureNamed node
  let doc := docstringLines (indent (level + 1)) (withDeprecation node.deprecated node.description)
  let ordered := node.requiredProperties ++ node.optionalProperties
  let attributes ← ordered.mapM (property (level + 1))
  let head := [indent level ++ "@attr.s(auto_attribs=True, kw_only=True)",
    indent level ++ "class " ++ node.name ++ "(model.Model):"]
  let doc := if doc.isEmpty then [] else doc ++ [""]
  let body := if attributes.isEmpty then [indent (level + 1) ++ "pass"] else attributes
  return "\n".intercalate (head ++ doc ++ body)

/-! ## Methods -/

/-- A method as it is written. -/
structure Definition where
  /-- The verb of the request. -/
  verb : Verb
  /-- The path as the API states it. -/
  endpoint : String
  /-- The name of the method. -/
  name : String
  /-- The arguments for the parameters, in order. -/
  arguments : List Argument
  /-- The type of the value that a call returns. -/
  returns : String
  /-- What the method does. -/
  doc : String
  /-- The path, with expressions for its parameters. -/
  path : String
  /-- The parameters of the query with their values. -/
  query : List (String × String)
  /-- The value that is the body. -/
  body : Option String

/-- The type of the value that a call returns. -/
def returns (method : Method) : Rendering String := do
  if method.hasMode .binary && method.hasMode .text then
    return "Union[" ++ (← spellings.spell method.returnType).name ++ ", bytes]"
  else if method.hasMode .binary then return "bytes"
  else return (← spellings.spell method.returnType).name

/-- The expression for a parameter of a path. -/
def pathExpression (parameter : Parameter) : String :=
  "\x7bself.encode_path_param(" ++ safeName parameter.name ++ ")\x7d"

/-- The name of a method. -/
def methodName (method : Method) : String := Text.snakeCase method.operationId

/-- A method with its parts. -/
def definition (method : Method) : Rendering Definition := do
  let returns ← returns method
  let arguments ← method.allParameters.mapM argumentOf
  return {
    verb := method.verb
    endpoint := method.endpoint
    name := methodName method
    arguments
    returns
    doc := withDeprecation method.deprecated (paragraphs [method.summary, method.description])
    path := method.path pathExpression
    query := (method.parametersIn .query).map fun p => (p.name, safeName p.name)
    body := method.bodyParameter?.map fun p => safeName p.name }

namespace Definition

/-- The lines of the signature. -/
def signature (definition : Definition) (level : Nat) : List String :=
  [indent level ++ "# " ++ definition.verb.name ++ " " ++ definition.endpoint ++ " -> " ++
      definition.returns,
    indent level ++ "def " ++ definition.name ++ "(",
    indent (level + 1) ++ "self,"] ++
  definition.arguments.map (fun a => indent (level + 1) ++ a.render ++ ",") ++
  [indent (level + 1) ++ "transport_options: Optional[transport.TransportOptions] = None,",
    indent level ++ ") -> " ++ definition.returns ++ ":"]

/-- The lines of the arguments that the request is made with. -/
def request (definition : Definition) (level : Nat) : List String :=
  [indent level ++ "path=f\"" ++ definition.path ++ "\",",
    indent level ++ "structure=" ++ definition.returns ++ ","] ++
  (if definition.query.isEmpty then []
    else
      let fields := definition.query.map fun (name, value) => "\"" ++ name ++ "\": " ++ value
      [indent level ++ "query_params=\x7b" ++ ", ".intercalate fields ++ "\x7d,"]) ++
  (match definition.body with
    | some body => [indent level ++ "body=" ++ body ++ ","]
    | none => []) ++
  [indent level ++ "transport_options=transport_options,"]

/-- The lines of the body. -/
def call (definition : Definition) (level : Nat) : List String :=
  [indent (level + 1) ++ "response = cast(",
    indent (level + 2) ++ definition.returns ++ ",",
    indent (level + 2) ++ "self." ++ definition.verb.key ++ "("] ++
  definition.request (level + 3) ++
  [indent (level + 2) ++ "),",
    indent (level + 1) ++ ")",
    indent (level + 1) ++ "return response"]

/-- A method as it is written. -/
def render (definition : Definition) (level : Nat) : String :=
  "\n".intercalate
    (definition.signature level ++ docstringLines (indent (level + 1)) definition.doc ++
      definition.call level)

end Definition

/-- A method as a member of a class. -/
def method (level : Nat) (method : Method) : Rendering String :=
  return (← definition method).render level

/-! ## Files -/

/-- The comment that every file begins with. -/
def notice (banner : Banner) : String :=
  "# " ++ banner.title ++ " API " ++ banner.version ++ "\n" ++
    "#\n" ++
    "# Generated by sdkgen. Do not edit by hand.\n"

/-- The head of the file of methods. -/
def methodsHead (banner : Banner) : String :=
  notice banner ++
    "\"\"\"" ++ banner.package ++ " API " ++ banner.version ++ " methods\"\"\"\n" ++
    "import datetime\n" ++
    "from typing import Any, MutableMapping, Optional, Sequence, Union, cast\n" ++
    "\n" ++
    "from " ++ banner.package ++ ".rtl import api_methods\n" ++
    "from " ++ banner.package ++ ".rtl import transport\n" ++
    "from " ++ banner.package ++ ".sdk.api" ++ banner.slug ++ " import models\n" ++
    "\n\n" ++
    "class " ++ banner.className ++ "(api_methods.APIMethods):\n"

/-- The head of the file of types. -/
def modelsHead (banner : Banner) : String :=
  notice banner ++
    "\"\"\"" ++ banner.package ++ " API " ++ banner.version ++ " models\"\"\"\n" ++
    "import datetime\n" ++
    "from typing import Any, MutableMapping, Optional, Sequence\n" ++
    "\n" ++
    "import attr\n" ++
    "\n" ++
    "from " ++ banner.package ++ ".rtl import model\n" ++
    "from " ++ banner.package ++ ".rtl.model import DelimSequence\n" ++
    "\n"

/-- The backend for Python. -/
def backend : Backend where
  language := "python"
  extension := "py"
  takesRequests := false
  hasStreams := false
  indentation := "    "
  commentMark := "# "
  spell := spellings.spell
  property := property
  parameter := parameter
  type := type
  method := method
  streamer := fun _ method =>
    throw (.backend (.unsupported "python" ("stream of " ++ method.operationId)))
  methodsHead := fileHead methodsHead
  methodsEnd := return ""
  streamsHead := return ""
  modelsHead := fileHead modelsHead
  modelsEnd := return ""

end ClientGen.Python
