import ClientGen.Document
import ClientGen.Method.Basic
import Std.Data.TreeMap

/-!
# The model of an API

A model holds what is known of one API: its types, by number, by name and by reference, and its
methods, by identifier and by tag.

## Main definitions

* `Model` — models.
* `Model.initial` — the model that holds the built-in types only.
* `Model.node` — the type with a number.
* `Model.add` — a model with one more type.
* `Model.uniqueName` — a name that no type has.
* `Model.unwrap` — the containers around a type and the type inside them.
* `Model.isReadOnly`, `Model.writableProperties` — what can be sent to the service.

## Implementation notes

A container is made after its element, so the number of the element is the smaller one, and a
type is inside no more containers than its number says. That bounds the walk to the type inside.
-/

set_option autoImplicit false

namespace ClientGen

/-- What is known of one API. -/
structure Model where
  /-- The document that describes the API. -/
  document : Document
  /-- The types, by number. -/
  nodes : Array TypeNode := #[]
  /-- The types by name. -/
  names : Std.TreeMap String TypeId := ∅
  /-- The declared types by reference. -/
  refs : Std.TreeMap String TypeId := ∅
  /-- The methods by identifier. -/
  methods : Std.TreeMap String Method := ∅
  /-- The request types and write types by the digest of their shape. -/
  derived : Std.TreeMap String TypeId := ∅
  /-- The identifiers of methods by tag. -/
  tags : Std.TreeMap String (Std.TreeSet String) := ∅
  /-- The mistakes of the document that were found, in order. -/
  diagnostics : Array Diagnostic := #[]

namespace Model

/-! ## Types -/

/-- The type with a number. -/
def node (model : Model) (id : TypeId) : TypeNode := model.nodes.getD id default

/-- The name of the type with a number. -/
def nameOf (model : Model) (id : TypeId) : String := (model.node id).name

/-- The types in the order of their names. -/
def types (model : Model) : List (String × TypeId) := model.names.toList

/-- The model with the type of the given number changed. -/
def modify (model : Model) (id : TypeId) (change : TypeNode → TypeNode) : Model :=
  { model with nodes := model.nodes.modify id change }

/-! ## Names -/

/-- The first of the names `base` with the numbers from `number` on that no type has, tried
`tries` times. -/
def freeName (model : Model) (base : String) : Nat → Nat → String
  | 0, _ => base
  | tries + 1, number =>
    let candidate := base ++ toString number
    if model.names.contains candidate then freeName model base tries (number + 1) else candidate

/-- A name that no type has: `base`, or `base` with the smallest number from 2 on that makes it
free. One more name is tried than there are types. -/
def uniqueName (model : Model) (base : String) : String :=
  if model.names.contains base then model.freeName base (model.names.size + 1) 2 else base

/-- The model with one more type, and the number of that type. If the name is taken, the type
gets a number at the end of its name. -/
def add (model : Model) (base : String) (kind : TypeKind) (schema : Json) : TypeId × Model :=
  let id := model.nodes.size
  let name := model.uniqueName base
  (id, { model with
    nodes := model.nodes.push { id, name, kind, schema }
    names := model.names.insert name id })

/-- The model that holds the built-in types only. -/
def initial (document : Document) : Model :=
  intrinsicNames.foldl (fun model name => (model.add name .intrinsic .null).2) { document }

/-- The built-in type with a name. -/
def intrinsic? (model : Model) (name : String) : Option TypeId :=
  model.names[name]?.filter fun id => (model.node id).isIntrinsic

/-- The built-in type with a name. It becomes one if there is none. -/
def intrinsic (model : Model) (name : String) : TypeId × Model :=
  match model.intrinsic? name with
  | some id => (id, model)
  | none => model.add name .intrinsic .null

/-- The container of the given shape and element type. It is made if there is none of its name. -/
def container (model : Model) (wrapper : Wrapper) (element : TypeId) : TypeId × Model :=
  let name := wrapper.nameOf (model.nameOf element)
  let kind := .container wrapper element
  match model.names[name]?.filter fun id => (model.node id).kind = kind with
  | some id => (id, model)
  | none => model.add name kind .null

/-! ## Containers -/

/-- The shapes of the containers around a type, from outside, and the type inside them, when
there are at most `depth` of them. -/
def unwrapWithin (model : Model) : Nat → TypeId → List Wrapper × TypeId
  | 0, id => ([], id)
  | depth + 1, id =>
    match (model.node id).kind with
    | .container wrapper element =>
      let (wrappers, inner) := model.unwrapWithin depth element
      (wrapper :: wrappers, inner)
    | _ => ([], id)

/-- The shapes of the containers around a type, from outside, and the type inside them. -/
def unwrap (model : Model) (id : TypeId) : List Wrapper × TypeId := model.unwrapWithin id id

/-- The type inside all containers. -/
def innermost (model : Model) (id : TypeId) : TypeId := (model.unwrap id).2

/-- The type inside all containers, unless it is built in. -/
def customType? (model : Model) (id : TypeId) : Option TypeId :=
  let inner := model.innermost id
  if (model.node inner).isIntrinsic then none else some inner

/-- The names of the types, other than built-in ones, that properties refer to. -/
def customTypeNames (model : Model) (properties : List Property) : Std.TreeSet String :=
  .ofList ((properties.filterMap fun p => model.customType? p.type).map model.nameOf)

/-! ## What can be written -/

/-- Whether no value of the type is ever sent to the service: the type inside all containers is
not built in, has properties, and all of them are read-only. -/
def isReadOnly (model : Model) (id : TypeId) : Bool :=
  let node := model.node (model.innermost id)
  !node.isIntrinsic && !node.properties.isEmpty && node.properties.all (·.readOnly)

/-- Whether a value of the property can be sent to the service. -/
def isWritable (model : Model) (property : Property) : Bool :=
  !(property.readOnly || model.isReadOnly property.type)

/-- The properties of a type whose values can be sent to the service. -/
def writableProperties (model : Model) (id : TypeId) : List Property :=
  (model.node id).properties.filter model.isWritable

/-! ## Selection of methods -/

/-- Whether the identifier of an operation is selected: it is among the included ones, unless
there are none, and not among the excluded ones. -/
def isSelected (included excluded : List String) (operationId : String) : Bool :=
  (included.isEmpty || included.contains operationId) && !excluded.contains operationId

/-- The model without the methods that are not selected. -/
def retain (model : Model) (included excluded : List String) : Model :=
  let methods := model.methods.filter fun operationId _ =>
    isSelected included excluded operationId
  { model with
    methods := methods
    tags := (model.tags.map fun _ ids => ids.filter methods.contains).filter
      fun _ ids => !ids.isEmpty }

end Model

end ClientGen
