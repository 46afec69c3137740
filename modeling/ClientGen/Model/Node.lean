import ClientGen.Json.Basic
import Std.Data.TreeSet

/-!
# Types of an API

The types of a model are the nodes of a graph: each has a number, and refers to other types by
their numbers, so that a type may refer to itself.

## Main definitions

* `TypeId` — the number of a type.
* `Wrapper` — the shapes of a container of one element type.
* `TypeKind` — what kind of type a node is.
* `Property` — a property of a type.
* `TypeNode` — a type.
* `intrinsicNames` — the names of the built-in types.
-/

set_option autoImplicit false

namespace ClientGen

/-- The number of a type in its model. -/
abbrev TypeId := Nat

/-! ## Kinds -/

/-- The shape of a container. -/
inductive Wrapper where
  /-- A list of elements. -/
  | list
  /-- A list of elements that is sent as one delimited text. -/
  | delimited
  /-- Elements by name. -/
  | map
  deriving DecidableEq, Repr, Inhabited

/-- The name of a container of elements of the type with the given name. -/
def Wrapper.nameOf : Wrapper → String → String
  | .list, element => element ++ "[]"
  | .delimited, element => "DelimArray<" ++ element ++ ">"
  | .map, element => "Hash[" ++ element ++ "]"

/-- What kind of type a node is. -/
inductive TypeKind where
  /-- A built-in type. -/
  | intrinsic
  /-- A schema that the document declares. -/
  | component
  /-- A container of elements of one type. -/
  | container (wrapper : Wrapper) (element : TypeId)
  /-- The parameters of a method, taken together. -/
  | request (operationId : String)
  /-- The properties of another type that can be written. -/
  | write (source : TypeId)
  deriving DecidableEq, Repr, Inhabited

/-! ## Properties -/

/-- A property of a type. -/
structure Property where
  /-- The name of the property. -/
  name : String
  /-- The type of its values. -/
  type : TypeId
  /-- Whether it must be present. -/
  required : Bool := false
  /-- Whether it may be null. -/
  nullable : Bool := false
  /-- Whether it is never sent to the service. -/
  readOnly : Bool := false
  /-- Whether it is never sent by the service. -/
  writeOnly : Bool := false
  /-- Whether it should no longer be used. -/
  deprecated : Bool := false
  /-- What it is about. -/
  description : String := ""
  deriving DecidableEq, Repr, Inhabited

/-- Whether a schema is marked as deprecated. -/
def isDeprecated (schema : Json) : Bool := schema.flag "deprecated" || schema.flag "x-deprecated"

/-- The property of the given name and type that a schema describes. -/
def Property.ofSchema (name : String) (type : TypeId) (schema : Json) (required : Bool) :
    Property where
  name := name
  type := type
  required := required
  nullable := schema.flag "nullable" || schema.flag "x-nullable"
  readOnly := schema.flag "readOnly"
  writeOnly := schema.flag "writeOnly"
  deprecated := isDeprecated schema
  description := schema.text "description"

/-! ## Nodes -/

/-- A type. -/
structure TypeNode where
  /-- The number of the type. -/
  id : TypeId
  /-- Its name. -/
  name : String
  /-- Its kind. -/
  kind : TypeKind
  /-- The schema that describes it; `null` if there is none. -/
  schema : Json := .null
  /-- Its properties, in the order of their declaration. -/
  properties : List Property := []
  /-- The operations that use it. -/
  methodRefs : Std.TreeSet String := ∅
  /-- The names of the types, other than built-in ones, that it refers to. -/
  customTypes : Std.TreeSet String := ∅

namespace TypeNode

/-- A built-in type without a name, which stands for the types that a model lacks. -/
instance : Inhabited TypeNode := ⟨{ id := 0, name := "", kind := .intrinsic }⟩

/-- What the type is about. -/
def description (node : TypeNode) : String := node.schema.text "description"

/-- The title of the type. -/
def title (node : TypeNode) : String := node.schema.text "title"

/-- The status that the schema gives the type. -/
def status (node : TypeNode) : String := node.schema.text "x-status"

/-- Whether the type should no longer be used. -/
def deprecated (node : TypeNode) : Bool := isDeprecated node.schema

/-- The value that stands in for a missing one. -/
def default? (node : TypeNode) : Option Json := node.schema.get? "default"

/-- Whether the type is built in. -/
def isIntrinsic (node : TypeNode) : Bool := node.kind = .intrinsic

/-- The type of the elements of a container. -/
def element? (node : TypeNode) : Option TypeId :=
  match node.kind with
  | .container _ element => some element
  | _ => none

/-- Whether the type stands for the parameters of a method. -/
def isRequest (node : TypeNode) : Bool :=
  match node.kind with
  | .request _ => true
  | _ => false

/-- Whether the type is the writable part of another. -/
def isWrite (node : TypeNode) : Bool :=
  match node.kind with
  | .write _ => true
  | _ => false

/-- The property with a name. -/
def property? (node : TypeNode) (name : String) : Option Property :=
  node.properties.find? (·.name = name)

/-- The properties that must be present. -/
def requiredProperties (node : TypeNode) : List Property := node.properties.filter (·.required)

/-- The properties that may be missing. -/
def optionalProperties (node : TypeNode) : List Property := node.properties.filter (!·.required)

/-- Whether a property is of the type itself. -/
def isRecursive (node : TypeNode) : Bool := node.properties.any (·.type = node.id)

end TypeNode

/-- The names of the built-in types. -/
def intrinsicNames : List String :=
  ["string", "integer", "int32", "int64", "boolean", "object", "uri", "float", "double",
    "number", "void", "datetime", "date", "email", "uuid", "hostname", "ipv4", "ipv6", "any",
    "password", "byte", "binary"]

end ClientGen
