import ClientGen.Generation.Backend

/-!
# A backend that records what it is asked

The recording backend renders names only and records each question it is asked, so that it shows
in which order a pass asks them. It can be told to fail at a question.

## Main definitions

* `Recorder` — the options of a recording backend.
* `Recorder.ask` — records a question, and fails if it is the one to fail at.
* `Recorder.backend` — the backend.
-/

set_option autoImplicit false

namespace ClientGen

/-- The options of a recording backend. -/
structure Recorder where
  /-- Whether request types stand for parameters. -/
  requests : Bool := false
  /-- Whether there is a file of streams. -/
  streaming : Bool := false
  /-- Whether the declaration of a type names its write type. -/
  write : Bool := false
  /-- The question that the backend fails at; none if it is empty. -/
  fail : String := ""
  /-- What the heads and ends of files begin with; they are empty if it is. -/
  frame : String := ""
  deriving DecidableEq, Repr, Inhabited

namespace Recorder

/-- Records a question, and fails if it is the one to fail at. -/
def ask (recorder : Recorder) (question : String) : Rendering Unit := do
  modify fun pass => { pass with calls := pass.calls.push question }
  if question = recorder.fail then throw (.backend (.unsupported "mock" question))

/-- The white space of a level of indentation. -/
def indent (level : Nat) : String := Text.repeated level "  "

/-- A question about something at a level of indentation. -/
def question (kind subject : String) (level : Nat) : String :=
  kind ++ " " ++ subject ++ " " ++ toString level

/-- The spelling of a type is its name. -/
def spell (recorder : Recorder) (id : TypeId) : Rendering Spelling := do
  Rendering.reference id
  let name := (← Rendering.node id).name
  recorder.ask ("map " ++ name)
  return { name, default? := some ("new " ++ name) }

/-- A name with its type. -/
def typed (recorder : Recorder) (level : Nat) (name : String) (type : TypeId) :
    Rendering String := do
  let spelling ← recorder.spell type
  return indent level ++ name ++ ": " ++ spelling.name

/-- A property. -/
def property (recorder : Recorder) (level : Nat) (property : Property) : Rendering String := do
  recorder.ask (question "property" property.name level)
  recorder.typed level property.name property.type

/-- A parameter. -/
def parameter (recorder : Recorder) (level : Nat) (method : Method) (parameter : Parameter) :
    Rendering String := do
  recorder.ask (question "parameter" (method.operationId ++ "." ++ parameter.name) level)
  recorder.typed level parameter.name parameter.type

/-- A type with its properties. -/
def type (recorder : Recorder) (level : Nat) (id : TypeId) : Rendering String := do
  let node ← Rendering.node id
  recorder.ask (question "type" node.name level)
  let properties ← node.properties.mapM (recorder.property (level + 1))
  let write ← if recorder.write then Rendering.writeType id else pure none
  let writes ← match write with
    | some write => pure ["writes " ++ (← Rendering.node write).name]
    | none => pure []
  return "\n".intercalate ([indent level ++ "type " ++ node.name] ++ properties ++ writes)

/-- A method with its parameters, or with its request type in their place. -/
def method (recorder : Recorder) (level : Nat) (method : Method) : Rendering String := do
  recorder.ask (question "method" method.operationId level)
  let request ← requestName recorder.requests method
  let parameters ←
    if request.isEmpty then method.allParameters.mapM (recorder.parameter (level + 1) method)
    else pure []
  let _ ← recorder.spell method.returnType
  return "\n".intercalate
    ([indent level ++ "fn " ++ method.operationId ++ "(" ++ request ++ ")"] ++ parameters)

/-- A method that hands its response over as a stream. -/
def streamer (recorder : Recorder) (level : Nat) (method : Method) : Rendering String := do
  recorder.ask (question "streamer" method.operationId level)
  return indent level ++ "stream " ++ method.operationId

/-- The head or the end of a file. -/
def frameText (recorder : Recorder) (name : String) : Rendering String := do
  recorder.ask (name ++ " " ++ ",".intercalate (← get).referencedNames)
  return if recorder.frame.isEmpty then "" else recorder.frame ++ name

/-- The recording backend. -/
def backend (recorder : Recorder) : Backend where
  language := "mock"
  extension := "txt"
  takesRequests := recorder.requests
  hasStreams := recorder.streaming
  spell := recorder.spell
  property := recorder.property
  parameter := recorder.parameter
  type := recorder.type
  method := recorder.method
  streamer := recorder.streamer
  methodsHead := recorder.frameText "methods_prologue"
  methodsEnd := recorder.frameText "methods_epilogue"
  streamsHead := recorder.frameText "streams_prologue"
  modelsHead := recorder.frameText "models_prologue"
  modelsEnd := recorder.frameText "models_epilogue"

end Recorder

end ClientGen
