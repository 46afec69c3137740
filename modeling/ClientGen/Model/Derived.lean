import ClientGen.Model.Shape
import ClientGen.Text.Words

/-!
# Types that are derived

Two kinds of types are not declared but derived when they are asked for.

* The request type of a method has one property for each parameter. Only methods with more than
  one parameter that may be left out have one.
* The write type of a type has those of its properties that can be sent to the service. Only
  types some but not all of whose properties can be sent have one. A container has the same
  container of the write type of its elements.

The properties of a derived type are of write types themselves, where there are any. A derived
type is registered under the digest of its shape before its properties are, so a type that refers
to itself finds its own write type, and types of one shape share one derived type.

## Main definitions

* `Model.writeType` — the write type of a type.
* `Model.requestType` — the request type of a method.
* `Model.deriveAll` — a model with the derived types of all methods.

## Implementation notes

Each level of the recursion registers the shape of a type that had none, and goes on with types
that were there before, so no more levels than there are types are needed.
-/

set_option autoImplicit false

namespace ClientGen.Model

/-! ## Write types -/

/-- A type, if there is one, and the model afterwards. -/
abbrev Derivation := Option TypeId × Model

/-- The container of the given shapes, from outside, around a type. -/
def wrap : List Wrapper → TypeId → Model → TypeId × Model
  | [], id, model => (id, model)
  | wrapper :: wrappers, id, model =>
    let (element, model) := wrap wrappers id model
    model.container wrapper element

/-- The properties, each of its write type if that has one, when `derive` derives write types. -/
def pointAtWriteTypes (derive : TypeId → Model → Derivation) :
    List Property → Model → List Property × Model
  | [], model => ([], model)
  | property :: rest, model =>
    let (write, model) := derive property.type model
    let (rest, model) := pointAtWriteTypes derive rest model
    ({ property with type := write.getD property.type } :: rest, model)

/-- A property of a write type: null may be sent for anything but a built-in type. -/
def asWritten (model : Model) (property : Property) : Property :=
  { property with nullable := property.nullable || !(model.node property.type).isIntrinsic }

/-- The properties that the write type of a type consists of, as long as they are not of write
types themselves. -/
def writtenProperties (model : Model) (id : TypeId) : List Property :=
  (model.writableProperties id).map model.asWritten

/-- The description of a derived type, as a schema. -/
def describedAs (description : String) : Json := .object [("description", .string description)]

/-- The description of the write type of a type. -/
def writeDescription (source : TypeNode) (written : List Property) : String :=
  let removed := source.properties.filter fun p => !written.any (·.name = p.name)
  "Dynamically generated writeable type for " ++ source.name ++ " removes properties:\n" ++
    ", ".intercalate (removed.map (·.name))

/-- The write type of a type that is no container, when `derive` derives write types. -/
def writeCore (derive : TypeId → Model → Derivation) (id : TypeId) (model : Model) :
    Derivation :=
  let source := model.node id
  let written := model.writtenProperties id
  if written.isEmpty || written.length = source.properties.length then (none, model)
  else
    let key := model.shapeDigest written
    match model.derived[key]? with
    | some known => (some known, model)
    | none =>
      let (write, model) :=
        model.add ("Write" ++ source.name) (.write id)
          (describedAs (writeDescription source written))
      let model := { model with derived := model.derived.insert key write }
      let (properties, model) := pointAtWriteTypes derive written model
      let customTypes := (model.customTypeNames properties).insert source.name
      let model := model.modify write fun node =>
        { node with properties, customTypes, methodRefs := source.methodRefs }
      let writeName := model.nameOf write
      (some write, model.modify id fun node =>
        { node with customTypes := node.customTypes.insert writeName })

/-- The write type of a type, when `derive` derives the write type of the type inside it. -/
def writeAround (derive : TypeId → Model → Derivation) (id : TypeId) (model : Model) :
    Derivation :=
  let (wrappers, inner) := model.unwrap id
  match derive inner model with
  | (none, model) => (none, model)
  | (some write, model) =>
    let (id, model) := wrap wrappers write model
    (some id, model)

/-- The write type of a type, with at most `depth` types derived inside one another. -/
def writeTypeWithin : Nat → TypeId → Model → Derivation
  | 0, _, model => (none, model)
  | depth + 1, id, model => writeAround (writeCore (writeTypeWithin depth)) id model

/-- The write type of a type. -/
def writeType (id : TypeId) (model : Model) : Derivation :=
  writeTypeWithin (model.nodes.size + 1) id model

/-! ## Request types -/

/-- The name that the request type of an operation is made with. -/
def requestName (operationId : String) : String :=
  "Request" ++ Text.upperCamelCase operationId

/-- The request type of a method that may use one. -/
def requestCore (method : Method) (model : Model) : TypeId × Model :=
  let operationId := method.operationId
  let properties := method.allParameters.map (·.toProperty)
  let key := model.shapeDigest properties
  match model.derived[key]? with
  | some known => (known, model)
  | none =>
    let (request, model) :=
      model.add (requestName operationId) (.request operationId)
        (describedAs ("Dynamically generated request type for " ++ operationId))
    let model := { model with derived := model.derived.insert key request }
    let (properties, model) := pointAtWriteTypes writeType properties model
    let customTypes := model.customTypeNames properties
    (request, model.modify request fun node =>
      { node with properties, customTypes, methodRefs := node.methodRefs.insert operationId })

/-- The request type of the method with an identifier. -/
def requestType (operationId : String) (model : Model) : Derivation :=
  match model.methods[operationId]?.filter (·.mayUseRequest) with
  | none => (none, model)
  | some method =>
    let (request, model) := requestCore method model
    (some request, model)

/-! ## All derived types -/

/-- The model with the request type of a method and the write types of its parameters. -/
def deriveFor (model : Model) (method : Method) : Model :=
  method.parameters.foldl (fun model parameter => (writeType parameter.type model).2)
    (requestType method.operationId model).2

/-- The model with the derived types of all methods. -/
def deriveAll (model : Model) : Model := model.methods.values.foldl deriveFor model

end ClientGen.Model
