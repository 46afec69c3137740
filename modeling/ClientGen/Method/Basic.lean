import ClientGen.Failure
import ClientGen.Method.Location
import ClientGen.Method.MediaType
import ClientGen.Method.Style
import ClientGen.Model.Node
import ClientGen.Text.Basic

/-!
# Methods

A method is one operation of the API: a verb, an endpoint, parameters and responses. A method has
a primary response, whose type is what a call returns, and at least one response that is known to
be text or binary data.

## Main definitions

* `Parameter`, `Response`, `Method` — methods and their parts.
* `Method.ofParts` — the method that consists of given parts.
* `Method.allParameters` — the parameters in the order in which they are listed.
* `Method.errorResponses` — one response for each type that tells of an error.

## Main results

* `Method.mem_allParameters` — listing loses no parameter and adds none.
-/

set_option autoImplicit false

namespace ClientGen

/-! ## Parameters -/

/-- A parameter of a method. -/
structure Parameter where
  /-- The name of the parameter. -/
  name : String
  /-- The type of its values. -/
  type : TypeId
  /-- Where it travels. -/
  location : Location
  /-- Whether it must be given. A parameter of the path must. -/
  required : Bool := location = .path
  /-- What it is about. -/
  description : String := ""
  /-- How it is serialized. -/
  style : Option Style := none
  /-- Whether it should no longer be used. -/
  deprecated : Bool := false
  deriving DecidableEq, Repr, Inhabited

namespace Parameter

/-- The parameter of the given type that a declaration describes. -/
def ofSchema (schema : Json) (type : TypeId) (location : Location) (style : Option Style) :
    Parameter where
  name := schema.text "name"
  type := type
  location := location
  required := location = .path || schema.flag "required"
  description := schema.text "description"
  style := style
  deprecated := schema.flag "deprecated"

/-- The parameter as a property of a type that holds all parameters. -/
def toProperty (parameter : Parameter) : Property where
  name := parameter.name
  type := parameter.type
  required := parameter.required
  nullable := !parameter.required
  deprecated := parameter.deprecated
  description := parameter.description

end Parameter

/-! ## Responses -/

/-- A response of a method with one status and one media type. -/
structure Response where
  /-- The status code. -/
  status : Nat
  /-- The media type; empty for a response without content. -/
  mediaType : String
  /-- The type of the content. -/
  type : TypeId
  /-- What it means. -/
  description : String := ""
  deriving DecidableEq, Repr, Inhabited

namespace Response

/-- Whether the content is text or binary data, if the media type tells. -/
def mode? (response : Response) : Option ResponseMode :=
  ResponseMode.ofMediaType? response.mediaType

/-- Whether the response tells of success. -/
def isSuccess (response : Response) : Bool := 200 ≤ response.status && response.status < 300

/-- Whether the content is JSON. -/
def isJson (response : Response) : Bool :=
  Text.beginsWith "application/json" (Unicode.toLower response.mediaType)

/-- Whether the response tells of success and may have content. -/
def isContentful (response : Response) : Bool := response.isSuccess && response.status ≠ 204

/-- Whether the response tells of an error. -/
def isError (response : Response) : Bool := 400 ≤ response.status

/-- The place of the primary response: the first JSON content of success, or else the first
content of success, or else the first `204`. -/
def primary? (responses : List Response) : Option (Fin responses.length) :=
  (responses.findFinIdx? fun r => r.isContentful && r.isJson).or
    ((responses.findFinIdx? isContentful).or (responses.findFinIdx? (·.status = 204)))

end Response

/-! ## Methods -/

/-- One operation of the API. -/
structure Method where
  /-- The identifier of the operation. -/
  operationId : String
  /-- The verb. -/
  verb : Verb
  /-- The path, with the names of parameters in braces. -/
  endpoint : String
  /-- The declaration of the operation. -/
  schema : Json
  /-- The parameters, in the order of their declaration. -/
  parameters : List Parameter
  /-- The responses, in the order of their declaration. -/
  responses : List Response
  /-- The place of the primary response. -/
  primary : Fin responses.length

namespace Method

/-- The method that consists of the given parts. There must be a response of success and a
response that is known to be text or binary data. -/
def ofParts (operationId : String) (verb : Verb) (endpoint : String) (schema : Json)
    (parameters : List Parameter) (responses : List Response) : Except SpecError Method :=
  match Response.primary? responses with
  | none =>
    .error (.missingPrimaryResponse endpoint ((schema.get? "responses").getD .null))
  | some primary =>
    if responses.any (·.mode?.isSome) then
      .ok { operationId, verb, endpoint, schema, parameters, responses, primary }
    else .error (.unknownResponseMode operationId (responses.map (·.mediaType)))

/-! ### Description -/

/-- A line about the method. -/
def summary (method : Method) : String := method.schema.text "summary"

/-- What the method does. -/
def description (method : Method) : String := method.schema.text "description"

/-- The tags that the method is listed under. -/
def tags (method : Method) : List String :=
  (((method.schema.get? "tags").bind Json.asArray?).getD []).filterMap Json.asString?

/-- Whether the method should no longer be used. -/
def deprecated (method : Method) : Bool := isDeprecated method.schema

/-- The status that the declaration gives the method. -/
def status (method : Method) : String := method.schema.text "x-status"

/-- The kind of activity that a call is counted as. -/
def activityType (method : Method) : String := method.schema.text "x-activity-type"

/-- Whether the number of calls is limited. -/
def rateLimited (method : Method) : Bool := method.schema.flag "x-rate-limited"

/-- The tags that the method is grouped by: its tags, or the empty one if it has none. -/
def groups (method : Method) : List String :=
  if method.tags.isEmpty then [""] else method.tags

/-! ### Responses -/

/-- The response whose type a call returns. -/
def primaryResponse (method : Method) : Response := method.responses[method.primary]

/-- The type that a call returns. -/
def returnType (method : Method) : TypeId := method.primaryResponse.type

/-- Whether some response is of the given mode. -/
def hasMode (method : Method) (mode : ResponseMode) : Bool :=
  method.responses.any (·.mode? = some mode)

/-- The modes of the responses. -/
def modes (method : Method) : List ResponseMode :=
  [ResponseMode.text, .binary].filter method.hasMode

/-- The responses without those whose type an earlier one has. -/
def distinctTypes (seen : List TypeId) : List Response → List Response
  | [] => []
  | response :: rest =>
    if response.type ∈ seen then distinctTypes seen rest
    else response :: distinctTypes (response.type :: seen) rest

/-- The responses that tell of an error, one for each type. -/
def errorResponses (method : Method) : List Response :=
  distinctTypes [] (method.responses.filter (·.isError))

/-! ### Parameters -/

/-- The parameters ordered by location, those of one location in the order of declaration. -/
def byLocation (parameters : List Parameter) : List Parameter :=
  Location.all.flatMap fun location => parameters.filter (·.location = location)

/-- The parameters that must be given. -/
def requiredParameters (method : Method) : List Parameter :=
  byLocation (method.parameters.filter (·.required))

/-- The parameters that may be left out. -/
def optionalParameters (method : Method) : List Parameter :=
  byLocation (method.parameters.filter (!·.required))

/-- All parameters: first those that must be given. -/
def allParameters (method : Method) : List Parameter :=
  method.requiredParameters ++ method.optionalParameters

/-- The parameters of a location. -/
def parametersIn (method : Method) (location : Location) : List Parameter :=
  method.allParameters.filter (·.location = location)

/-- The parameter that is the body. -/
def bodyParameter? (method : Method) : Option Parameter :=
  method.parameters.find? (·.location = .body)

/-- Whether a parameter may be left out. -/
def hasOptionalParameters (method : Method) : Bool := method.parameters.any (!·.required)

/-- Whether so many parameters may be left out that one type may stand for all of them: more
than one. -/
def mayUseRequest (method : Method) : Bool := 1 < method.parameters.countP (!·.required)

/-- Ordering by location loses no parameter and adds none. -/
theorem mem_byLocation {parameter : Parameter} {parameters : List Parameter} :
    parameter ∈ byLocation parameters ↔ parameter ∈ parameters := by
  simp [byLocation, Location.mem_all]

/-- Listing loses no parameter and adds none. -/
theorem mem_allParameters {method : Method} {parameter : Parameter} :
    parameter ∈ method.allParameters ↔ parameter ∈ method.parameters := by
  simp only [allParameters, requiredParameters, optionalParameters, List.mem_append,
    mem_byLocation, List.mem_filter]
  cases parameter.required <;> simp

end Method

end ClientGen
