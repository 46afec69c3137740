import ClientGen.Language

/-!
# Configurations

A configuration says what is generated: from which document, for which languages and versions of
the API, and where the files go.

## Main definitions

* `Config` — configurations.
* `Config.targets` — the languages that a configuration names.
* `Config.members` — the fields of a configuration by name, as they are saved.
-/

set_option autoImplicit false

namespace ClientGen

/-- What is generated. -/
structure Config where
  /-- The path of the document. -/
  specPath : String
  /-- The path of the older document of the same API. -/
  swaggerPath : Option String := none
  /-- The directory of the generated files. -/
  outputDirectory : String
  /-- The names of the languages. -/
  languages : List String := Language.all.map Language.name
  /-- The versions of the API; the version of the document if there are none. -/
  apiVersions : List String := []
  /-- The name of the generated package. -/
  packageName : String := "sdk"
  /-- The operations that are generated; all if there are none. -/
  includedOperations : List String := []
  /-- The operations that are left out. -/
  excludedOperations : List String := []
  deriving DecidableEq, Repr, Inhabited

/-- What a field of a configuration holds. -/
inductive ConfigValue where
  /-- Nothing. -/
  | absent
  /-- A text. -/
  | text (value : String)
  /-- A list of texts. -/
  | texts (values : List String)
  deriving DecidableEq, Repr, Inhabited

namespace Config

/-- The languages that a configuration names, of which there must be one. -/
def targets (config : Config) : Except Failure (List Language) :=
  if config.languages.isEmpty then .error (.setting "no target language configured")
  else Language.ofNames config.languages

/-- The fields of a configuration by name, in order. -/
def members (config : Config) : List (String × ConfigValue) := [
  ("spec_path", .text config.specPath),
  ("swagger_path", (config.swaggerPath.map .text).getD .absent),
  ("output_dir", .text config.outputDirectory),
  ("languages", .texts config.languages),
  ("api_versions", .texts config.apiVersions),
  ("package_name", .text config.packageName),
  ("include_operations", .texts config.includedOperations),
  ("exclude_operations", .texts config.excludedOperations)]

end Config

end ClientGen
