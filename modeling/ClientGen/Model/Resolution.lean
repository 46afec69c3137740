import ClientGen.Model.Basic
import ClientGen.Model.Schema
import ClientGen.Text.Basic

/-!
# The type of a schema

Resolving a schema finds the type that it stands for, and makes the containers and the built-in
types that are not there yet.

* A reference into `requestBodies` stands for the JSON schema of that body.
* Any other reference stands for the type whose name it ends with; a `$ref` member is looked up
  among the references of the declared types first.
* A list and an object of like members stand for containers.
* Any other schema stands for the built-in type that its `type` and `format` tell.

## Main definitions

* `Model.resolve` — the type of a schema.
* `Model.resolveReference` — the type of a reference.
* `SpecError.isEndless` — that references are followed for ever.

## Implementation notes

A body may refer to another body, and the program follows such references as far as they lead. A
chain of more of them than the document has values runs in a circle, on which the program does not
come to an end. Here the chain is given up after that many references, which has an outcome of its
own: the error names a reference to a body that is there, while the errors of the program name what
is missing. That happens if references run in a circle and in no other case, see
`Model.isEndless_resolve_iff`, and where they do not, the limit does not show, see
`Model.resolveReference_eq`. An outcome of that kind stands for none at all. Loading a document has
no result if it meets one, see `Model.load`.
-/

set_option autoImplicit false

namespace ClientGen

namespace Model

/-- A type or a mistake, and the model afterwards. -/
abbrev Resolved := Except SpecError TypeId × Model

/-- The type of a schema that is neither a reference nor a container. -/
def resolveScalar (type format : Option String) (fragment : Json) (model : Model) : Resolved :=
  let known := ([format, type].filterMap id).findSome? model.intrinsic?
  match type, format with
  | some "integer", some "int64" =>
    let (id, model) := model.intrinsic "int64"
    (.ok id, model)
  | some "number", some name =>
    let (id, model) := model.intrinsic name
    (.ok id, model)
  | _, some "date-time" =>
    let (id, model) := model.intrinsic "datetime"
    (.ok id, model)
  | _, _ =>
    match known with
    | some id => (.ok id, model)
    | none => (.error (.unresolvable fragment), model)

/-- The container around a type that has been resolved. -/
def wrapResolved (wrapper : Wrapper) : Resolved → Resolved
  | (.ok element, model) =>
    let (id, model) := model.container wrapper element
    (.ok id, model)
  | (.error error, model) => (.error error, model)

/-- The shape of a list that is serialized in a style. -/
def listWrapper (style : Option Style) : Wrapper :=
  if style.any (·.isDelimited) then .delimited else .list

/-- The type of a schema of the given form, when `follow` resolves references. -/
def resolveForm (follow : String → Model → Resolved) : Schema → Option Style → Model → Resolved
  | .name reference, _, model => follow reference model
  | .link reference, _, model =>
    match model.refs[reference]? with
    | some id => (.ok id, model)
    | none => follow reference model
  | .list items, style, model =>
    wrapResolved (listWrapper style) (resolveForm follow items none model)
  | .map values, _, model => wrapResolved .map (resolveForm follow values none model)
  | .scalar type format fragment, _, model => resolveScalar type format fragment model

/-- The JSON schema of the request body that a reference points to. -/
def bodySchema? (document : Document) (reference : String) : Option Json :=
  (document.resolve? reference).bind (·.pointer? "/content/application~1json/schema")

/-- Whether a reference points to a request body. -/
def isBodyReference (reference : String) : Bool :=
  Text.contains "/requestBodies/" reference

/-- The type of a reference, found by following at most `jumps` references to bodies. If that is not
enough, the error names the reference that would be followed next, which is `SpecError.isEndless` if
it leads on. -/
def resolveReferenceWithin : Nat → String → Model → Resolved
  | 0, reference, model => (.error (.unknownReference reference), model)
  | jumps + 1, reference, model =>
    if isBodyReference reference then
      match bodySchema? model.document reference with
      | none => (.error (.unknownReference reference), model)
      | some schema =>
        match schema.getString? "$ref" with
        | some inner => resolveReferenceWithin jumps inner model
        | none =>
          resolveForm (resolveReferenceWithin jumps) (Schema.ofJson schema) none model
    else
      match model.names[referenceName reference]? with
      | some id => (.ok id, model)
      | none => (.error (.unknownReference reference), model)

/-- How many references to bodies are followed in a document. No chain that ends is longer. -/
def jumpLimit (document : Document) : Nat := document.root.size + 2

/-- The type of a reference. -/
def resolveReference (reference : String) (model : Model) : Resolved :=
  resolveReferenceWithin (jumpLimit model.document) reference model

/-- The type of a schema, or of a text that refers to one. The style is that of the parameter
that the schema belongs to. -/
def resolve (schema : Json) (style : Option Style) (model : Model) : Resolved :=
  resolveForm resolveReference (Schema.ofJson schema) style model

end Model

/-- Whether the error stands for references that are followed for ever: it says that a body is
unknown which is there. -/
def SpecError.isEndless (document : Document) : SpecError → Bool
  | .unknownReference reference =>
    Model.isBodyReference reference && (Model.bodySchema? document reference).isSome
  | _ => false

end ClientGen
