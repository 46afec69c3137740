import ClientGen.CommandLine.Arguments
import ClientGen.CommandLine.Problem
import ClientGen.Config.Loading
import ClientGen.Conversion
import ClientGen.Document.Loading
import ClientGen.Generation.Files
import ClientGen.Model.Loading

/-!
# Generating files

For every version of the API the documents are read and a model is made of them. For every
language a pass over that model gives the files, which are then written. What goes wrong in one
pass, or with the documents of one version, does not concern the others. But if loading a version
does not come to an end, then no version after it has its turn.

## Main definitions

* `Config.loadModel` — the model of a version of the API.
* `Config.passFiles` — the files of a pass, by path.
* `Config.runPass` — a pass and the writing of its files.
* `Config.run` — all passes of a configuration.
* `GenerateOptions.configuration` — the configuration that a command line asks for.
-/

set_option autoImplicit false

namespace ClientGen

/-- What becomes of a pass, or of a version whose documents cannot be read. -/
inductive PassResult where
  /-- The files have been written to a directory. -/
  | written (language : Language) (version directory : String)
  /-- Something has gone wrong. -/
  | failed (subject : String) (problem : Problem)
  /-- Loading the documents does not come to an end, and nothing is done after it. -/
  | endless
  deriving Repr, Inhabited

namespace PassResult

/-- The line that is printed for a pass whose files have been written. -/
def line? : PassResult → Option String
  | .written language version directory =>
    some ("Generated " ++ language.name ++ " SDK " ++ version ++ " in " ++ directory)
  | .failed _ _ => none
  | .endless => none

/-- The line that reports a failure. -/
def failure? : PassResult → Option String
  | .written _ _ _ => none
  | .failed subject problem => some (subject ++ ": " ++ problem.line)
  | .endless => none

/-- Whether the command does not come to an end. -/
def isEndless : PassResult → Bool
  | .endless => true
  | _ => false

/-- The problem of some results: that passes have failed. -/
def problem? (results : List PassResult) : Option Problem :=
  let failures := results.filterMap failure?
  if results.any isEndless then some .overflow
  else if failures.isEmpty then none
  else some ⟨toString failures.length ++ " generation pass(es) failed:\n" ++
    "\n".intercalate failures, []⟩

end PassResult

namespace Config

/-! ## Passes -/

/-- A path for a version of the API, which replaces its placeholder. -/
def forVersion (path : String) : Option String → String
  | some version => Text.replace "\x7bversion\x7d" version path
  | none => path

/-- The versions of the API that files are generated for; none stands for the version of the
document. -/
def versions (config : Config) : List (Option String) :=
  if config.apiVersions.isEmpty then [none] else config.apiVersions.map some

/-- The version that files are generated for, by the one that is asked for. -/
def versionName (version : Option String) (model : Model) : String :=
  match version with
  | some version => version
  | none =>
    let own := model.document.version?.getD ""
    if own.isEmpty then "latest" else own

/-- The directory of the files of a pass. -/
def passDirectory (config : Config) (language : Language) (version : String) : String :=
  FilePath.join (FilePath.join config.outputDirectory language.name) version

/-- The files of a pass by path. -/
def passFiles (config : Config) (model : Model) (version : String) (language : Language) :
    Except Failure (List (String × String)) :=
  let directory := config.passDirectory language version
  let named (name text : String) : String × String :=
    (FilePath.join directory (name ++ "." ++ language.backend.extension), text)
  (model.generate language.backend version config.packageName).1.map fun files =>
    [named "methods" files.methods, named "models" files.models] ++
      (files.streams.map (named "streams")).toList

variable {m : Type → Type} [Monad m] [FileAccess m]

/-- A document that is read for a purpose. -/
def loadDocument (purpose path : String) : m (Except Problem Document) := do
  let result ← Document.load path
  return result.mapError fun failure =>
    (Problem.ofFailure failure).during ("Failed to load " ++ purpose ++ " document " ++ path)

/-- The model of a document without the operations that are not wanted, if loading the document
comes to an end. -/
def modelOf (config : Config) (document : Document) : Option Model :=
  (Model.load document).map
    (·.retain config.includedOperations config.excludedOperations)

/-- The model of a version of the API, if loading it comes to an end: the document is read, what its
conversion has lost is restored, and the operations that are not wanted are left out. -/
def loadModel (config : Config) (version : Option String) :
    m (Except Problem (Option Model)) := do
  match ← loadDocument "API" (forVersion config.specPath version) with
  | .error problem => return .error problem
  | .ok document =>
    match config.swaggerPath with
    | none => return .ok (config.modelOf document)
    | some path =>
      let older ← loadDocument "Swagger" (forVersion path version)
      return older.map fun older =>
        config.modelOf ⟨(Conversion.recover older.root document.root).2⟩

/-- Writes files by path, up to the first one that cannot be written. -/
def writeFiles : List (String × String) → m (Except Problem Unit)
  | [] => return .ok ()
  | (path, text) :: rest => do
    match ← FileAccess.write path text with
    | .error error =>
      return .error ((Problem.ofFileError error).during ("Failed to write " ++ path))
    | .ok () => writeFiles rest

/-- Writes the files of a pass to its directory. -/
def writePass (directory : String) (files : List (String × String)) :
    m (Except Problem Unit) := do
  match ← FileAccess.createDirectories directory with
  | .error error =>
    return .error ((Problem.ofFileError error).during
      ("Failed to create output directory " ++ directory))
  | .ok () => writeFiles files

/-- A pass over a model and the writing of its files. -/
def runPass (config : Config) (model : Model) (version : String) (language : Language) :
    m PassResult := do
  let directory := config.passDirectory language version
  let result ← match config.passFiles model version language with
    | .error failure => pure (.error (Problem.ofFailure failure))
    | .ok files => writePass directory files
  return match result with
    | .ok () => .written language version directory
    | .error problem => .failed (language.name ++ " " ++ version) problem

/-! ## Runs -/

/-- All passes for a version of the API. -/
def runVersion (config : Config) (languages : List Language) (version : Option String) :
    m (List PassResult) := do
  match ← config.loadModel version with
  | .error problem => return [.failed (version.getD "default") problem]
  | .ok none => return [.endless]
  | .ok (some model) => languages.mapM (config.runPass model (versionName version model))

/-- All passes for some versions of the API, up to one that does not come to an end. -/
def runVersions (config : Config) (languages : List Language) :
    List (Option String) → m (List PassResult)
  | [] => return []
  | version :: rest => do
    let results ← config.runVersion languages version
    if results.any (·.isEndless) then return results
    return results ++ (← config.runVersions languages rest)

/-- All passes of a configuration. Nothing is done if one of its languages is unknown. -/
def run (config : Config) : m (Except Problem (List PassResult)) :=
  match config.targets with
  | .error failure => return .error (.ofFailure failure)
  | .ok languages => return .ok (← config.runVersions languages config.versions)

end Config

/-! ## Configurations of command lines -/

namespace GenerateOptions

variable {m : Type → Type} [Monad m] [FileAccess m]

/-- A configuration changed by the options that are given. -/
def override (options : GenerateOptions) (config : Config) : Config where
  specPath := options.specPath.getD config.specPath
  swaggerPath := options.swaggerPath.or config.swaggerPath
  outputDirectory := options.outputDirectory.getD config.outputDirectory
  languages := if options.languages.isEmpty then config.languages else options.languages
  apiVersions := if options.apiVersions.isEmpty then config.apiVersions else options.apiVersions
  packageName := options.packageName.getD config.packageName
  includedOperations := config.includedOperations
  excludedOperations := config.excludedOperations

/-- The configuration that the options begin with: the one in a file, or the usual one for a
document. -/
def base (options : GenerateOptions) : m (Except Problem Config) := do
  match options.config, options.specPath with
  | some path, _ =>
    let result ← Config.load path
    return result.mapError fun failure =>
      (Problem.ofFailure failure).during ("Failed to load config " ++ path)
  | none, some specPath => return .ok { specPath, outputDirectory := "sdk" }
  | none, none => return .error ⟨"either --config or --spec-path is required", []⟩

/-- The configuration that the options ask for. -/
def configuration (options : GenerateOptions) : m (Except Problem Config) := do
  return (← options.base).map options.override

end GenerateOptions

end ClientGen
