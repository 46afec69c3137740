import ClientGen.Criterion
import ClientGen.Model.Basic
import ClientGen.Pattern.Basic

/-!
# Searching a model

A search looks for a pattern in texts that are put together from what the criteria name: each
part that is not empty is followed by a tab. A method is found by its own text, by its parameters
or responses, or by a type that it uses; a type is found by its own text, or by its properties
and their types in turn.

## Main definitions

* `Searcher` — a model, the texts that are looked for, and the criteria.
* `Searcher.findsType`, `Searcher.findsMethod` — whether a type or a method is found.
* `Model.search` — the methods and types that a pattern finds.

## Implementation notes

Types may refer to each other in circles. A walk through them keeps a list of the types it has
visited and enters each one once, so it is no deeper than there are types.
-/

set_option autoImplicit false

namespace ClientGen

/-- A search of a model. -/
structure Searcher where
  /-- The model. -/
  model : Model
  /-- Whether a text is looked for. -/
  isMatch : String → Bool
  /-- What is looked at. -/
  criteria : List Criterion

namespace Searcher

/-! ## Texts -/

/-- Whether a criterion is among those of the search. -/
def looksAt (searcher : Searcher) (criterion : Criterion) : Bool :=
  searcher.criteria.contains criterion

/-- Whether one of some criteria is among those of the search. -/
def looksAtAny (searcher : Searcher) (criteria : List Criterion) : Bool :=
  criteria.any searcher.looksAt

/-- A part of a text. -/
def part (value : String) : String := if value.isEmpty then "" else value ++ "\t"

/-- A part of a text, if a condition holds. -/
def partIf (condition : Bool) (value : String) : String := if condition then part value else ""

/-- The word for what should no longer be used. -/
def deprecation (deprecated : Bool) : String := if deprecated then "deprecated" else ""

/-- The text of a parameter. -/
def parameterText (searcher : Searcher) (parameter : Parameter) : String :=
  partIf (searcher.looksAt .name) parameter.name ++
    partIf (searcher.looksAt .description) parameter.description

/-- The text of a property. -/
def propertyText (searcher : Searcher) (property : Property) : String :=
  partIf (searcher.looksAtAny [.name, .method]) property.name ++
    partIf (searcher.looksAt .description) property.description ++
    partIf (searcher.looksAt .status) (deprecation property.deprecated)

/-- The text of a type. -/
def typeText (searcher : Searcher) (node : TypeNode) : String :=
  partIf (searcher.looksAt .name) node.name ++
    partIf (searcher.looksAt .description) node.description ++
    partIf (searcher.looksAt .title) node.title ++
    partIf (searcher.looksAt .status) node.status ++
    partIf (searcher.looksAt .status) (deprecation node.deprecated) ++
    if searcher.looksAt .property then String.join (node.properties.map searcher.propertyText)
    else ""

/-- The text of a method. -/
def methodText (searcher : Searcher) (method : Method) : String :=
  if searcher.looksAtAny [.method, .status, .activityType, .name, .argument] then
    partIf (searcher.looksAtAny [.name, .method]) method.operationId ++
      part method.summary ++
      part method.endpoint ++
      partIf (searcher.looksAt .method && searcher.looksAt .description) method.description ++
      partIf (searcher.looksAt .activityType && method.rateLimited) "rate_limited" ++
      partIf (searcher.looksAt .activityType) method.activityType ++
      partIf (searcher.looksAt .status) method.status ++
      partIf (searcher.looksAt .status) (deprecation method.deprecated) ++
      if searcher.looksAt .argument then
        String.join (method.parameters.map searcher.parameterText)
      else ""
  else ""

/-- The text of a response. -/
def responseText (searcher : Searcher) (response : Response) : String :=
  part (toString response.status) ++
    part ((response.mode?.map ResponseMode.name).getD "") ++
    partIf (searcher.looksAt .name) response.mediaType

/-! ## Types -/

/-- Whether types are looked at. -/
def looksAtTypes (searcher : Searcher) : Bool := searcher.looksAtAny [.type, .status]

/-- Whether the properties of a type are looked at one by one. -/
def looksAtProperties (searcher : Searcher) : Bool := searcher.looksAtAny [.property, .status]

/-- Whether one of the properties is found, when `visit` looks at their types. The second
component holds the types that have been visited. -/
def visitProperties (searcher : Searcher) (visit : TypeId → List TypeId → Bool × List TypeId) :
    List Property → List TypeId → Bool × List TypeId
  | [], visited => (false, visited)
  | property :: rest, visited =>
    if searcher.isMatch (searcher.propertyText property) then (true, visited)
    else
      match visit property.type visited with
      | (true, visited) => (true, visited)
      | (false, visited) => visitProperties searcher visit rest visited

/-- Whether a type is found by a walk that has already visited some types and goes no more than
`depth` types deep. -/
def visitType (searcher : Searcher) : Nat → TypeId → List TypeId → Bool × List TypeId
  | 0, _, visited => (false, visited)
  | depth + 1, id, visited =>
    if visited.contains id then (false, visited)
    else
      let node := searcher.model.node id
      if searcher.isMatch (searcher.typeText node) then (true, id :: visited)
      else if searcher.looksAtProperties then
        searcher.visitProperties (searcher.visitType depth) node.properties (id :: visited)
      else (false, id :: visited)

/-- Whether a type is found. -/
def findsType (searcher : Searcher) (id : TypeId) : Bool :=
  searcher.looksAtTypes && (searcher.visitType (searcher.model.nodes.size + 1) id []).1

/-! ## Methods -/

/-- Whether a parameter is found. -/
def findsParameter (searcher : Searcher) (parameter : Parameter) : Bool :=
  searcher.isMatch (searcher.parameterText parameter) || searcher.findsType parameter.type

/-- Whether a response is found. -/
def findsResponse (searcher : Searcher) (response : Response) : Bool :=
  searcher.isMatch (searcher.responseText response) || searcher.findsType response.type

/-- Whether a method is found. -/
def findsMethod (searcher : Searcher) (method : Method) : Bool :=
  searcher.isMatch (searcher.methodText method) || searcher.findsType method.returnType ||
    (searcher.looksAt .argument && method.parameters.any searcher.findsParameter) ||
    (searcher.looksAt .response && method.responses.any searcher.findsResponse)

/-- The methods that are found, in the order of their identifiers. -/
def methods (searcher : Searcher) : List Method :=
  if searcher.looksAtAny [.method, .argument, .response, .status, .activityType] then
    searcher.model.methods.values.filter searcher.findsMethod
  else []

/-- The types that are found, containers left out, in the order of their names. -/
def types (searcher : Searcher) : List (String × TypeId) :=
  if searcher.looksAtAny [.type, .title, .status] then
    searcher.model.types.filter fun (_, id) =>
      (searcher.model.node id).element?.isNone && searcher.findsType id
  else []

end Searcher

/-! ## Results -/

/-- What a search finds. -/
structure SearchResult where
  /-- The methods by tag and identifier. -/
  tags : Std.TreeMap String (Std.TreeMap String Method) := ∅
  /-- The types by name. -/
  types : Std.TreeMap String TypeId := ∅

namespace SearchResult

/-- The methods that are found, in the groups of their tags. -/
def group (tags : Std.TreeMap String (Std.TreeMap String Method)) (method : Method) :
    Std.TreeMap String (Std.TreeMap String Method) :=
  method.groups.foldl
    (fun tags tag => tags.insert tag ((tags.getD tag ∅).insert method.operationId method)) tags

/-- The number of different methods. -/
def methodCount (result : SearchResult) : Nat :=
  (Std.TreeSet.ofList (result.tags.values.flatMap (·.keys)) : Std.TreeSet String).size

end SearchResult

/-- What a search finds. -/
def Searcher.result (searcher : Searcher) : SearchResult where
  tags := searcher.methods.foldl SearchResult.group ∅
  types := .ofList searcher.types

/-- The outcome of a search. -/
inductive SearchOutcome where
  /-- The pattern cannot be understood. -/
  | rejected
  /-- The search has been done. -/
  | done (result : SearchResult)

namespace SearchOutcome

/-- The wording of an outcome. -/
def message : SearchOutcome → String
  | .rejected => "Error: Invalid search expression"
  | .done _ => "Search done"

/-- Whether the pattern cannot be understood. -/
def isError : SearchOutcome → Bool
  | .rejected => true
  | .done _ => false

/-- What has been found. -/
def result : SearchOutcome → SearchResult
  | .rejected => {}
  | .done result => result

end SearchOutcome

/-- The outcome of a search of a model for a pattern. -/
def Model.search (model : Model) (pattern : String) (criteria : List Criterion) :
    SearchOutcome :=
  match Pattern.compile? pattern with
  | none => .rejected
  | some pattern => .done (Searcher.result ⟨model, pattern.isMatch, criteria⟩)

end ClientGen
