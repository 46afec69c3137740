import ClientGen.Model.Derived

/-!
# Generation passes

A pass renders the files of one API for one language. It may derive types, counts how often each
type is referred to in the file that it renders, and keeps what a recording backend has been
asked. All of this survives a failure.

## Main definitions

* `Pass` — the state of a pass.
* `Rendering` — what renders a part of a file.
* `Rendering.reference`, `Rendering.requestType`, `Rendering.writeType` — what a backend asks of
  its pass.
* `Pass.referencedNames` — the names of the types that a file refers to.
-/

set_option autoImplicit false

namespace ClientGen

/-- The file that a pass renders. -/
inductive FileKind where
  /-- The methods. -/
  | methods
  /-- The methods that hand their responses over as streams. -/
  | streams
  /-- The types. -/
  | models
  deriving DecidableEq, Repr, Inhabited

/-- The name of a file. -/
def FileKind.name : FileKind → String
  | .methods => "methods"
  | .streams => "streams"
  | .models => "models"

/-- The state of a pass. -/
structure Pass where
  /-- The model that is rendered. -/
  model : Model
  /-- The version of the API that the files are for. -/
  apiVersion : String
  /-- The name of the package that the files make up. -/
  packageName : String
  /-- The file that is rendered. -/
  file : FileKind := .methods
  /-- How often each type has been referred to in this file. -/
  counts : Std.TreeMap TypeId Nat := ∅
  /-- What a recording backend has been asked, in order. -/
  calls : Array String := #[]

namespace Pass

/-- How often a type has been referred to in this file. -/
def count (pass : Pass) (id : TypeId) : Nat := pass.counts.getD id 0

/-- The pass after one more reference to a type. -/
def countReference (pass : Pass) (id : TypeId) : Pass :=
  { pass with counts := pass.counts.insert id (pass.count id + 1) }

/-- The names of the types, other than built-in ones, that the file refers to so far. The type
inside them stands for containers. -/
def referenced (pass : Pass) : Std.TreeSet String :=
  .ofList ((pass.counts.keys.filterMap pass.model.customType?).map pass.model.nameOf)

/-- The names of the types that the file refers to so far, in order. -/
def referencedNames (pass : Pass) : List String := pass.referenced.toList

end Pass

/-- What renders a part of a file in a pass, or fails. -/
abbrev Rendering (α : Type) := ExceptT Failure (StateM Pass) α

namespace Rendering

/-- Counts one reference to a type. -/
def reference (id : TypeId) : Rendering Unit := modify (·.countReference id)

/-- The type with a number. -/
def node (id : TypeId) : Rendering TypeNode := return (← get).model.node id

/-- A type that the model derives, counting one reference if there is one. -/
def derived (derive : Model → Model.Derivation) : Rendering (Option TypeId) := do
  let pass ← get
  let (id, model) := derive pass.model
  set { pass with model := model }
  id.forM reference
  return id

/-- The request type of a method, counting one reference if there is one. -/
def requestType (operationId : String) : Rendering (Option TypeId) :=
  derived (Model.requestType operationId)

/-- The write type of a type, counting one reference if there is one. -/
def writeType (id : TypeId) : Rendering (Option TypeId) := derived (Model.writeType id)

/-- The write type of a type, or the type itself if it has none. -/
def writtenType (id : TypeId) : Rendering TypeId := return (← writeType id).getD id

/-- The type that a parameter is sent as: a body is sent as its write type. -/
def sentType (parameter : Parameter) : Rendering TypeId :=
  if parameter.location = .body then writtenType parameter.type else return parameter.type

/-- Goes on to another file, in which nothing has been referred to. -/
def beginFile (file : FileKind) : Rendering Unit :=
  modify fun pass => { pass with file := file, counts := ∅ }

/-- Fails on a type that has no name to be declared under. -/
def ensureNamed (node : TypeNode) : Rendering Unit :=
  if node.name.isEmpty && node.element?.isNone then throw (.spec (.namelessType node.schema))
  else return

end Rendering

end ClientGen
