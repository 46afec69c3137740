import ClientGen.CommandLine.Generate
import ClientGen.Search

/-!
# Running commands

## Main definitions

* `Report` — what a command leaves behind besides files.
* `SearchResult.lines` — what a search has found, line by line.
* `Command.run` — runs a command.
* `runArguments` — runs the command that a command line asks for.
-/

set_option autoImplicit false

namespace ClientGen

/-- What a command leaves behind besides files. -/
structure Report where
  /-- The lines that are printed. -/
  lines : List String := []
  /-- What stops the command. -/
  problem : Option Problem := none
  deriving Inhabited

namespace Report

/-- A command that ends well or with a problem. -/
def ofResult : Except Problem (List String) → Report
  | .ok lines => { lines }
  | .error problem => { problem := some problem }

/-- What is printed. -/
def output (report : Report) : String := String.join (report.lines.map (· ++ "\n"))

/-- What is printed about problems. -/
def errors (report : Report) : String := (report.problem.map Problem.report).getD ""

/-- The number that the command ends with. -/
def exitCode (report : Report) : Nat := if report.problem.isSome then 1 else 0

end Report

/-! ## Searches -/

/-- What a search has found, line by line: the methods by tag, the types, and their numbers. -/
def SearchResult.lines (result : SearchResult) : List String :=
  let methodLine (method : Method) : String :=
    "  " ++ method.operationId ++ " " ++ method.verb.name ++ " " ++ method.endpoint
  let tagLines (entry : String × Std.TreeMap String Method) : List String :=
    (if entry.1.isEmpty then "(untagged)" else entry.1) :: entry.2.values.map methodLine
  let typeLines := result.types.keys.map ("  " ++ ·)
  result.tags.toList.flatMap tagLines ++
    (if typeLines.isEmpty then [] else "types" :: typeLines) ++
    [toString result.methodCount ++ " methods, " ++ toString result.types.size ++ " types"]

/-- The lines of a search. -/
def SearchOutcome.report : SearchOutcome → Except Problem (List String)
  | .rejected => .error ⟨SearchOutcome.rejected.message, []⟩
  | .done result => .ok result.lines

namespace Command

variable {m : Type → Type} [Monad m] [FileAccess m]

/-- A document that is read for a purpose that tells it apart. -/
def load (purpose path : String) : m (Except Problem Document) := do
  return (← Document.load path).mapError fun failure =>
    (Problem.ofFailure failure).during ("Failed to load " ++ purpose ++ " document")

/-- The criteria with some names, all if there are none. -/
def criteria (names : List String) : Except Problem (List Criterion) :=
  if names.isEmpty then .ok Criterion.all
  else (Criterion.ofNames names).mapError fun error => ⟨error.message, []⟩

/-- Searches a document. -/
def runSearch (specPath pattern : String) (names : List String) :
    m (Except Problem (List String)) := do
  match criteria names with
  | .error problem => return .error problem
  | .ok criteria =>
    return (← load "API" specPath).bind fun document =>
      match Model.load document with
      | none => .error .overflow
      | some model => (model.deriveAll.search pattern criteria).report

/-- Restores in a converted document what the conversion has lost, and prints or writes it. -/
def runConvert (openapi swagger : String) (output : Option String) :
    m (Except Problem (List String)) := do
  match ← load "OpenAPI" openapi with
  | .error problem => return .error problem
  | .ok document =>
    match ← load "Swagger" swagger with
    | .error problem => return .error problem
    | .ok older =>
      let (fixes, restored) := Conversion.recover older.root document.root
      match output with
      | none => return .ok [restored.renderPretty]
      | some path =>
        match ← FileAccess.write path restored.renderPretty with
        | .error error =>
          return .error ((Problem.ofFileError error).during ("Failed to write " ++ path))
        | .ok () => return .ok [toString fixes.length ++ " fixes written to " ++ path]

/-- Generates files. What has been written is printed even if other passes fail. -/
def runGenerate (options : GenerateOptions) : m Report := do
  match ← options.configuration with
  | .error problem => return { problem := some problem }
  | .ok config =>
    match ← config.run with
    | .error problem => return { problem := some problem }
    | .ok results =>
      return { lines := results.filterMap (·.line?), problem := PassResult.problem? results }

/-- Runs a command. -/
def run : Command → m Report
  | .generate options => runGenerate options
  | .search specPath pattern criteria => .ofResult <$> runSearch specPath pattern criteria
  | .convert openapi swagger output => .ofResult <$> runConvert openapi swagger output

end Command

/-- Runs the command that a command line asks for, if it asks for one. -/
def runArguments {m : Type → Type} [Monad m] [FileAccess m] (arguments : List String) :
    m (Except UsageRequest Report) :=
  match Command.ofArguments arguments with
  | .error request => return .error request
  | .ok command => .ok <$> command.run

end ClientGen
