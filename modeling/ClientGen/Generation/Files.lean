import ClientGen.Generation.Backend

/-!
# The files of a pass

A file has a head, a comment that counts what the file holds, the declarations in the order of
their names, and an end. The declarations are rendered before the head, since the head lists the
types that they refer to.

Rendering a type may derive further types, so the file of types is rendered in rounds, each of
which goes through the types that have not been looked at.

## Main definitions

* `Backend.methodsFile`, `Backend.streamsFile`, `Backend.modelsFile` — the text of each file.
* `Backend.files` — all files of a pass.
* `Model.generate` — the files for a model, and the pass afterwards.
-/

set_option autoImplicit false

namespace ClientGen

/-- The files of a pass. -/
structure Files where
  /-- The text of the file of methods. -/
  methods : String
  /-- The text of the file of streams, for a language that has one. -/
  streams : Option String
  /-- The text of the file of types. -/
  models : String
  deriving DecidableEq, Repr, Inhabited

/-- The text of a file. Empty parts are left out. -/
def assemble (head header : String) (items : List String) (ending : String) : String :=
  "\n".intercalate
    ([head, header, "\n\n".intercalate items, ending].filter (!·.isEmpty)) ++ "\n"

/-! ## Types -/

/-- The types of each kind that a file declares. -/
structure Tally where
  /-- Declared schemas. -/
  spec : Nat := 0
  /-- Request types. -/
  request : Nat := 0
  /-- Write types. -/
  write : Nat := 0
  deriving DecidableEq, Repr, Inhabited

/-- The comment that counts the types of a file. -/
def Tally.header (tally : Tally) (total : Nat) : String :=
  toString total ++ " API models: " ++ toString tally.spec ++ " Spec, " ++
    toString tally.request ++ " Request, " ++ toString tally.write ++ " Write"

/-- The declarations of a file of types. -/
structure Declarations where
  /-- The types that have been looked at. -/
  visited : List TypeId := []
  /-- The declarations by name. -/
  rendered : Std.TreeMap String String := ∅
  /-- How many there are of each kind. -/
  tally : Tally := {}

namespace Backend

/-- The tally with one more type of the given kind, if a type of that kind is declared. -/
def tallied? (backend : Backend) (tally : Tally) : TypeKind → Option Tally
  | .intrinsic => none
  | .container _ _ => none
  | .request _ =>
    if backend.takesRequests then some { tally with request := tally.request + 1 } else none
  | .write _ => some { tally with write := tally.write + 1 }
  | .component => some { tally with spec := tally.spec + 1 }

/-- The declarations after a type has been looked at. -/
def declare (backend : Backend) (declarations : Declarations) (entry : String × TypeId) :
    Rendering Declarations := do
  let (name, id) := entry
  let node ← Rendering.node id
  let declarations := { declarations with visited := id :: declarations.visited }
  match backend.tallied? declarations.tally node.kind with
  | none => return declarations
  | some tally =>
    Rendering.ensureNamed node
    let text ← backend.type 0 id
    return { declarations with tally, rendered := declarations.rendered.insert name text }

/-- The declarations after `rounds` rounds. -/
def declareRounds (backend : Backend) : Nat → Declarations → Rendering Declarations
  | 0, declarations => return declarations
  | rounds + 1, declarations => do
    let types := (← get).model.types
    let pending := types.filter fun (_, id) => !declarations.visited.contains id
    if pending.isEmpty then return declarations
    let declarations ← pending.foldlM backend.declare declarations
    backend.declareRounds rounds declarations

/-- The declarations of all types. Each round but the last one looks at some type, so one more
round is made than there are types. -/
def declarations (backend : Backend) : Rendering Declarations := do
  let rounds := (← get).model.nodes.size + 2
  backend.declareRounds rounds {}

/-- The file of types. -/
def modelsFile (backend : Backend) : Rendering String := do
  Rendering.beginFile .models
  let declarations ← backend.declarations
  let items := declarations.rendered.values
  let header := backend.comment 0 (declarations.tally.header items.length)
  let head ← backend.modelsHead
  let ending ← backend.modelsEnd
  return assemble head header items ending

/-! ## Methods -/

/-- The comment that counts the methods of a file. -/
def methodsHeader (backend : Backend) (count : Nat) : String :=
  backend.comment 1 (toString count ++ " API methods")

/-- The file of methods. -/
def methodsFile (backend : Backend) : Rendering String := do
  Rendering.beginFile .methods
  let methods := (← get).model.methods.values
  let items ← methods.mapM (backend.method 1)
  let head ← backend.methodsHead
  let ending ← backend.methodsEnd
  return assemble head (backend.methodsHeader methods.length) items ending

/-- The file of streams. It ends as the file of methods does. -/
def streamsFile (backend : Backend) : Rendering String := do
  Rendering.beginFile .streams
  let methods := (← get).model.methods.values
  let items ← methods.mapM (backend.streamer 1)
  let head ← backend.streamsHead
  let ending ← backend.methodsEnd
  return assemble head (backend.methodsHeader methods.length) items ending

/-! ## Passes -/

/-- All files of a pass. -/
def files (backend : Backend) : Rendering Files := do
  let methods ← backend.methodsFile
  let streams ← if backend.hasStreams then some <$> backend.streamsFile else pure none
  let models ← backend.modelsFile
  return { methods, streams, models }

end Backend

/-- The outcome of a pass over a model, and the pass afterwards. -/
def Model.generate (model : Model) (backend : Backend) (apiVersion packageName : String) :
    Except Failure Files × Pass :=
  backend.files.run.run { model, apiVersion, packageName }

end ClientGen
