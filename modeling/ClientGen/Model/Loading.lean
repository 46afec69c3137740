import ClientGen.Model.Resolution

/-!
# The model of a document

A document is read in two passes. The first one registers the declared schemas, so that they may
refer to each other, and the second one reads their properties. After that the operations are
read, path by path. A property or an operation with a mistake is left out, and the mistake is
recorded.

## Main definitions

* `Model.ofDocument` — the model of a document.
* `Model.load` — the same, as long as loading the document comes to an end.
* `Model.loadTypes`, `Model.loadMethods` — what the declared schemas and the paths add to it.
* `mergedParameters` — the parameters of an operation and its path.
-/

set_option autoImplicit false

namespace ClientGen

namespace Model

/-! ## Schemas -/

/-- The model with a mistake recorded. -/
def report (model : Model) (subject : String) (error : SpecError) : Model :=
  { model with diagnostics := model.diagnostics.push ⟨subject, error⟩ }

/-- The model with a declared schema registered, without its properties. -/
def declare (stem : String) (model : Model) (entry : String × Json) : Model :=
  let (id, model) := model.add entry.1 .component entry.2
  { model with refs := model.refs.insert (stem ++ entry.1) id }

/-- The names of the properties that a schema requires. -/
def requiredNames (schema : Json) : List String :=
  (((schema.get? "required").bind Json.asArray?).getD []).filterMap Json.asString?

/-- The properties that have a type, and the model with the mistakes of the others recorded. -/
def loadProperties (owner : String) (required : List String) :
    List (String × Json) → Model → List Property × Model
  | [], model => ([], model)
  | (name, schema) :: rest, model =>
    match model.resolve schema none with
    | (.ok type, model) =>
      let (properties, model) := loadProperties owner required rest model
      (.ofSchema name type schema (required.contains name) :: properties, model)
    | (.error error, model) =>
      loadProperties owner required rest (model.report (owner ++ "." ++ name) error)

/-- The model with the properties of a declared schema. -/
def loadSchema (stem : String) (model : Model) (entry : String × Json) : Model :=
  let (name, schema) := entry
  match model.refs[stem ++ name]?, (schema.get? "properties").bind Json.asObject? with
  | some id, some members =>
    let (properties, model) := loadProperties name (requiredNames schema) members model
    let customTypes := model.customTypeNames properties
    model.modify id fun node =>
      { node with properties, customTypes := node.customTypes.union customTypes }
  | _, _ => model

/-- The model with the declared schemas of its document. -/
def loadTypes (model : Model) : Model :=
  let stem := model.document.schemaReferenceStem
  let schemas := model.document.schemas?.getD []
  schemas.foldl (loadSchema stem) (schemas.foldl (declare stem) model)

end Model

/-! ## Parameters -/

/-- Whether two declared parameters have the same name and the same place. -/
def sameParameter (first second : Json) : Bool :=
  same (first.get? "name") (second.get? "name") && same (first.get? "in") (second.get? "in")
where
  /-- Whether two members are equal or both missing. -/
  same : Option Json → Option Json → Bool
    | none, none => true
    | some a, some b => a.equiv b
    | _, _ => false

/-- The parameters with one more: it takes the place of the same parameter, or the last place. -/
def mergeParameter (parameter : Json) : List Json → List Json
  | [] => [parameter]
  | first :: rest =>
    if sameParameter first parameter then parameter :: rest
    else first :: mergeParameter parameter rest

/-- The parameters that a path or an operation declares. -/
def declaredParameters (value : Json) : List Json :=
  ((value.get? "parameters").bind Json.asArray?).getD []

/-- A declared parameter at the end of its chain of references. -/
def derefParameter (document : Document) (declared : Json) : Except SpecError Json :=
  match document.deref? declared with
  | some parameter => .ok parameter
  | none => .error (.unknownReference declared.render)

/-- The parameters of a path and of an operation of that path. Of the declarations of one
parameter the last one counts, in the place of the first one. -/
def mergedParameters (document : Document) (path operation : Json) :
    Except SpecError (List Json) := do
  let declared := declaredParameters path ++ declaredParameters operation
  let parameters ← declared.mapM (derefParameter document)
  return parameters.foldl (fun merged parameter => mergeParameter parameter merged) []

/-- The schema of JSON content, or of the first content there is. -/
def contentSchema? (value : Json) : Option Json := do
  let content ← (value.get? "content").bind Json.asObject?
  let media ← (content.lookup "application/json").or (content.head?.map (·.2))
  media.get? "schema"

/-- The style that a declared parameter states, or that its collection format means. -/
def declaredStyle? (declared : Json) : Option Style :=
  ((declared.getString? "style").bind Style.ofName?).or
    ((declared.getString? "collectionFormat").bind Style.ofCollectionFormat?)

/-- The status code that the name of a response states: a decimal number of at most 16 bits. -/
def statusCode? (code : String) : Option Nat :=
  let digits := match code.toList with
    | '+' :: rest => rest
    | chars => chars
  if digits.isEmpty || !digits.all Unicode.isAsciiDigit then none
  else
    let value := digits.foldl (fun n c => 10 * n + (c.toNat - '0'.toNat)) 0
    if value < Nat.pow 2 16 then some value else none

namespace Model

/-- A value or a mistake, and the model afterwards. -/
abbrev Loaded (α : Type) := Except SpecError α × Model

/-- Reads the items of a list one after the other, up to the first mistake. -/
def loadEach {α β : Type} (load : α → Model → Loaded β) :
    List α → Model → Loaded (List β)
  | [], model => (.ok [], model)
  | item :: rest, model =>
    match load item model with
    | (.error error, model) => (.error error, model)
    | (.ok first, model) =>
      match loadEach load rest model with
      | (.error error, model) => (.error error, model)
      | (.ok others, model) => (.ok (first :: others), model)

/-- The parameter that a declaration describes. -/
def loadParameter (declared : Json) (model : Model) : Loaded Parameter :=
  let name := declared.text "in"
  match Location.ofName? name with
  | none => (.error (.unknownLocation name declared), model)
  | some location =>
    let style := declaredStyle? declared
    let schema := ((declared.get? "schema").or (contentSchema? declared)).getD declared
    match model.resolve schema style with
    | (.error error, model) => (.error error, model)
    | (.ok type, model) => (.ok (.ofSchema declared type location style), model)

/-- The type of a schema, or the type of anything if there is none. -/
def resolveOrAny (schema : Option Json) (model : Model) : Resolved :=
  match schema with
  | some schema => model.resolve schema none
  | none =>
    let (id, model) := model.intrinsic "any"
    (.ok id, model)

/-- The parameter that a request body is. It is required unless the body says otherwise. -/
def loadBody (body : Json) (model : Model) : Loaded Parameter :=
  let (resolved, type, model) := match body.getString? "$ref" with
    | some reference =>
      ((model.document.resolve? reference).getD body,
        model.resolve (.string reference) none)
    | none => (body, resolveOrAny (contentSchema? body) model)
  match type with
  | .error error => (.error error, model)
  | .ok type =>
    (.ok {
      name := "body"
      type := type
      location := .body
      required := ((resolved.get? "required").bind Json.asBool?).getD true
      description := resolved.text "description" }, model)

/-- The response with one kind of content. -/
def loadContent (status : Nat) (description : String) (content : String × Json)
    (model : Model) : Loaded Response :=
  match resolveOrAny (content.2.get? "schema") model with
  | (.error error, model) => (.error error, model)
  | (.ok type, model) => (.ok ⟨status, content.1, type, description⟩, model)

/-- The responses of a status, one for each kind of content. A status that is no number is passed
over, and so is one without content unless it is `204`. -/
def loadStatus (entry : String × Json) (model : Model) : Loaded (List Response) :=
  match statusCode? entry.1 with
  | none => (.ok [], model)
  | some status =>
    match model.document.deref? entry.2 with
    | none => (.error (.unknownReference entry.2.render), model)
    | some response =>
      let description := response.text "description"
      match (response.get? "content").bind Json.asObject? with
      | some (first :: rest) => loadEach (loadContent status description) (first :: rest) model
      | _ =>
        if status = 204 then
          let (void, model) := model.intrinsic "void"
          let description := if description.isEmpty then "No content" else description
          (.ok [⟨204, "", void, description⟩], model)
        else (.ok [], model)

/-- The responses of an operation. -/
def loadResponses (operation : Json) (model : Model) : Loaded (List Response) :=
  let entries := ((operation.get? "responses").bind Json.asObject?).getD []
  match loadEach loadStatus entries model with
  | (.error error, model) => (.error error, model)
  | (.ok responses, model) => (.ok responses.flatten, model)

/-! ## Methods -/

/-- The parameters of an operation, its body the last one. -/
def loadParameters (path operation : Json) (model : Model) : Loaded (List Parameter) :=
  match mergedParameters model.document path operation with
  | .error error => (.error error, model)
  | .ok declared =>
    match loadEach loadParameter declared model with
    | (.error error, model) => (.error error, model)
    | (.ok parameters, model) =>
      match operation.get? "requestBody" with
      | none => (.ok parameters, model)
      | some body =>
        match loadBody body model with
        | (.error error, model) => (.error error, model)
        | (.ok parameter, model) => (.ok (parameters ++ [parameter]), model)

/-- The method that an operation of a path describes. -/
def loadMethod (endpoint : String) (verb : Verb) (path operation : Json) (model : Model) :
    Loaded Method :=
  match operation.getString? "operationId" with
  | none => (.error (.missingOperationId verb endpoint), model)
  | some operationId =>
    match loadParameters path operation model with
    | (.error error, model) => (.error error, model)
    | (.ok parameters, model) =>
      match loadResponses operation model with
      | (.error error, model) => (.error error, model)
      | (.ok responses, model) =>
        (Method.ofParts operationId verb endpoint operation parameters responses, model)

/-- The model with an operation recorded at a type and at the type inside it. -/
def recordUse (operationId : String) (model : Model) (id : TypeId) : Model :=
  let use := fun (node : TypeNode) =>
    { node with methodRefs := node.methodRefs.insert operationId }
  let model := model.modify id use
  match model.customType? id with
  | some inner => model.modify inner use
  | none => model

/-- The model with an operation in the group of a tag. -/
def recordTag (operationId : String) (model : Model) (tag : String) : Model :=
  { model with tags := model.tags.insert tag ((model.tags.getD tag ∅).insert operationId) }

/-- The model with one more method. Of two methods with one identifier the later one stays. -/
def addMethod (method : Method) (model : Model) : Model :=
  let used := method.parameters.map (·.type) ++ method.responses.map (·.type)
  let model := used.foldl (recordUse method.operationId) model
  let model := method.groups.foldl (recordTag method.operationId) model
  { model with methods := model.methods.insert method.operationId method }

/-- What a mistake in an operation is reported for: its identifier, or its verb and endpoint. -/
def operationSubject (endpoint : String) (verb : Verb) (operation : Json) : String :=
  (operation.getString? "operationId").getD (verb.name ++ " " ++ endpoint)

/-- The model with the operation of a path that has the given verb, if there is one. -/
def loadOperation (endpoint : String) (path : Json) (model : Model) (verb : Verb) : Model :=
  match path.get? verb.key with
  | none => model
  | some operation =>
    match model.loadMethod endpoint verb path operation with
    | (.ok method, model) => model.addMethod method
    | (.error error, model) => model.report (operationSubject endpoint verb operation) error

/-- The model with the operations of a path. -/
def loadPath (model : Model) (entry : String × Json) : Model :=
  Verb.all.foldl (loadOperation entry.1 entry.2) model

/-- The model with the operations of its document. -/
def loadMethods (model : Model) : Model :=
  (model.document.paths?.getD []).foldl loadPath model

/-- The model of a document. References that are followed for ever are recorded in it as if they
were a mistake. -/
def ofDocument (document : Document) : Model := (initial document).loadTypes.loadMethods

/-- The model that loading a document results in. There is none if loading meets references that are
followed for ever: then it does not come to an end. -/
def load (document : Document) : Option Model :=
  let model := ofDocument document
  if model.diagnostics.any (·.error.isEndless document) then none else some model

end Model

end ClientGen
