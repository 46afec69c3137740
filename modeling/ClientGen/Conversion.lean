import ClientGen.Json.Pointer
import ClientGen.Method.Style

/-!
# Styles that a conversion lost

An older document says by a collection format how a list is serialized and states whether the
body of an operation is required. Converting a document to the newer format commonly loses both.
They are recovered from the older document and written into the converted one.

## Main definitions

* `Conversion.fixesOf` — what an older document says of its operations.
* `Conversion.apply` — a converted document with one piece of information written into it.
* `Conversion.recover` — a converted document with everything that the older one says.

## Implementation notes

A parameter of the converted document is found by its name; its location is not compared. The
last piece of information about a parameter counts.
-/

set_option autoImplicit false

namespace ClientGen.Conversion

/-! ## What the older document says -/

/-- The operation that a piece of information is about. -/
structure Operation where
  /-- The path of the operation. -/
  endpoint : String
  /-- The member of the path that declares the operation. -/
  key : String
  /-- The identifier of the operation, empty if it has none. -/
  operationId : String
  deriving DecidableEq, Repr, Inhabited

/-- A piece of information about an operation. -/
inductive Fix where
  /-- Whether the body is required. -/
  | bodyRequired (operation : Operation) (required : Bool)
  /-- The style of the parameter with a name, and the collection format it is recovered from. -/
  | style (operation : Operation) (parameter format : String) (style : Style)
  deriving DecidableEq, Repr

/-- What a declared parameter says of its operation. -/
def fixesOfParameter (operation : Operation) (parameter : Json) : List Fix :=
  let name := parameter.text "name"
  let body :=
    if name = "body" && parameter.text "in" = "body" then
      ((parameter.get? "required").bind Json.asBool?).map (Fix.bodyRequired operation)
    else none
  let style := (parameter.getString? "collectionFormat").bind fun format =>
    (Style.ofCollectionFormat? format).map (Fix.style operation name format)
  body.toList ++ style.toList

/-- What an operation of a path says of itself. -/
def fixesOfOperation (endpoint : String) (entry : String × Json) : List Fix :=
  let (key, value) := entry
  let parameters := ((value.get? "parameters").bind Json.asArray?).getD []
  parameters.flatMap (fixesOfParameter ⟨endpoint, key, value.text "operationId"⟩)

/-- What a path says of its operations. -/
def fixesOfPath (entry : String × Json) : List Fix :=
  (entry.2.asObject?.getD []).flatMap (fixesOfOperation entry.1)

/-- What an older document says of its operations. -/
def fixesOf (older : Json) : List Fix :=
  (((older.get? "paths").bind Json.asObject?).getD []).flatMap fixesOfPath

/-! ## Writing it into the converted document -/

/-- The pointer to an operation. -/
def operationPointer (operation : Operation) : String :=
  "/paths/" ++ Json.Pointer.escape operation.endpoint ++ "/" ++ operation.key

/-- Whether a value is an object with the given name. -/
def isNamed (name : String) (value : Json) : Bool :=
  value.asObject?.isSome && value.getString? "name" = some name

/-- The object with a member written, unless the member has the value already. The second
component tells whether it has been written. A value that is no object stays as it is. -/
def writeMember (name : String) (value : Json) (isKept : Json → Bool) (object : Json) :
    Json × Bool :=
  match object with
  | .object members =>
    if (members.lookup name).any isKept then (object, false)
    else (.object (Json.insertMember name value members), true)
  | other => (other, false)

/-- The first item of a list that a condition holds of, changed. The second component tells
whether it has changed. -/
def changeFirst (condition : Json → Bool) (change : Json → Json × Bool) :
    List Json → List Json × Bool
  | [] => ([], false)
  | item :: rest =>
    if condition item then
      let (item, changed) := change item
      (item :: rest, changed)
    else
      let (rest, changed) := changeFirst condition change rest
      (item :: rest, changed)

/-- The operation with a piece of information written into it. The second component tells
whether it has changed. -/
def applyToOperation (fix : Fix) (operation : Json) : Json × Bool :=
  match fix with
  | .bodyRequired _ required =>
    match operation.get? "requestBody" with
    | none => (operation, false)
    | some body =>
      let (body, changed) :=
        writeMember "required" (.bool required) (fun v => v.asBool? = some required) body
      (operation.modifyChild "requestBody" fun _ => body, changed)
  | .style _ name _ style =>
    match (operation.get? "parameters").bind Json.asArray? with
    | none => (operation, false)
    | some parameters =>
      let (parameters, changed) := changeFirst (isNamed name)
        (writeMember "style" (.string style.name) fun v => v.asString? = some style.name)
        parameters
      (operation.modifyChild "parameters" fun _ => .array parameters, changed)

/-- The operation that a piece of information is about. -/
def Fix.operation : Fix → Operation
  | .bodyRequired operation _ => operation
  | .style operation _ _ _ => operation

/-- The line that tells of a piece of information that has been written. -/
def Fix.line : Fix → String
  | .bodyRequired operation required =>
    operation.endpoint ++ "::" ++ operation.operationId ++
      " setting requestBody.required to " ++ toString required
  | .style operation name format recovered =>
    operation.endpoint ++ "::" ++ operation.operationId ++ " " ++ name ++ " '" ++ format ++
      "' -> '" ++ recovered.name ++ "'"

/-- A converted document with a piece of information written into it. The second component tells
whether it has changed. -/
def apply (converted : Json) (fix : Fix) : Json × Bool :=
  let pointer := operationPointer fix.operation
  match Json.Pointer.steps? pointer, converted.pointer? pointer with
  | some steps, some operation =>
    let (operation, changed) := applyToOperation fix operation
    if changed then (converted.modifyAt (fun _ => operation) steps, true)
    else (converted, false)
  | _, _ => (converted, false)

/-- A converted document with pieces of information written into it one after the other, and a
line for each that has changed it. -/
def applyAll : List Fix → Json → List String × Json
  | [], converted => ([], converted)
  | fix :: rest, converted =>
    let (converted, changed) := apply converted fix
    let (lines, converted) := applyAll rest converted
    (if changed then fix.line :: lines else lines, converted)

/-- A converted document with everything that the older document says written into it, and a line
for each change. -/
def recover (older converted : Json) : List String × Json := applyAll (fixesOf older) converted

end ClientGen.Conversion
