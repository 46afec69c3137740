import ClientGen.Text.Basic

/-!
# Command lines

A command line names a command, its options and its operands. An option is written `--name value`
or `--name=value`. Options and operands may stand in any order; after `--` there are operands
only.

## Main definitions

* `Command` — commands.
* `CommandRule` — the options and operands that a command takes.
* `CommandRule.parse` — the options and operands that are given.
* `Command.ofArguments` — the command that a command line asks for.
-/

set_option autoImplicit false

namespace ClientGen

/-- What is asked for in place of a command. -/
inductive UsageRequest where
  /-- An explanation of the commands. -/
  | help
  /-- The version of the program. -/
  | version
  /-- Nothing: the command line has a mistake. -/
  | mistake
  deriving DecidableEq, Repr, Inhabited

/-- The options of the command that generates files. -/
structure GenerateOptions where
  /-- The path of a configuration. -/
  config : Option String := none
  /-- The path of the document. -/
  specPath : Option String := none
  /-- The path of the older document. -/
  swaggerPath : Option String := none
  /-- The directory of the generated files. -/
  outputDirectory : Option String := none
  /-- The names of the languages. -/
  languages : List String := []
  /-- The versions of the API. -/
  apiVersions : List String := []
  /-- The name of the generated package. -/
  packageName : Option String := none
  deriving DecidableEq, Repr, Inhabited

/-- A command. -/
inductive Command where
  /-- Generates files for every language and version of the API. -/
  | generate (options : GenerateOptions)
  /-- Searches a document for a pattern by some criteria, all if there are none. -/
  | search (specPath pattern : String) (criteria : List String)
  /-- Restores in a converted document what the conversion has lost. -/
  | convert (openapi swagger : String) (output : Option String)
  deriving DecidableEq, Repr, Inhabited

/-! ## Rules -/

/-- What an option takes. -/
inductive OptionKind where
  /-- One text. -/
  | text
  /-- One path, which is not empty. -/
  | path
  /-- Texts separated by commas, as often as wanted. -/
  | list
  deriving DecidableEq, Repr

/-- The options and operands that a command takes. -/
structure CommandRule where
  /-- The options by name. -/
  options : List (String × OptionKind)
  /-- Whether each operand is a path. All operands must be given. -/
  operands : List Bool := []

/-- The options and operands that are given. -/
structure Given where
  /-- The values of options, in order. -/
  values : List (String × String) := []
  /-- The operands, in order. -/
  operands : List String := []
  deriving Inhabited

namespace Given

/-- The value of an option. -/
def value? (given : Given) (name : String) : Option String := given.values.lookup name

/-- The texts of an option that takes a list. -/
def texts (given : Given) (name : String) : List String :=
  (given.values.filter (·.1 = name)).flatMap fun (_, value) => Text.split ',' value

end Given

namespace CommandRule

/-- The options and operands after the value of an option. Only lists may be given twice. -/
def addValue (given : Given) (name : String) (kind : OptionKind) (value : String) :
    Except UsageRequest Given :=
  if kind ≠ .list && (given.value? name).isSome then .error .mistake
  else if kind = .path && value.isEmpty then .error .mistake
  else .ok { given with values := given.values ++ [(name, value)] }

/-- The options and operands after one more operand. -/
def addOperand (rule : CommandRule) (given : Given) (value : String) :
    Except UsageRequest Given :=
  match rule.operands[given.operands.length]? with
  | none => .error .mistake
  | some isPath =>
    if isPath && value.isEmpty then .error .mistake
    else .ok { given with operands := given.operands ++ [value] }

/-- Whether an argument begins with a hyphen and more, and so is no value. -/
def isOption (argument : String) : Bool :=
  Text.beginsWith "-" argument && argument ≠ "-"

/-- The name and the value of an argument that begins with two hyphens, where an equals sign
separates them. -/
def nameAndValue (argument : String) : String × Option String :=
  let text := argument.toList.drop 2
  let name := text.takeWhile (· ≠ '=')
  let value := match text.drop name.length with
    | _ :: value => some (String.ofList value)
    | [] => none
  (String.ofList name, value)

/-- The options and operands that arguments give, after those that are given already and the name
of an option whose value comes next. -/
def parseFrom (rule : CommandRule) :
    Given → Option (String × OptionKind) → List String → Except UsageRequest Given
  | given, none, [] => .ok given
  | _, some _, [] => .error .mistake
  | given, some (name, kind), argument :: rest =>
    if isOption argument then .error .mistake
    else (addValue given name kind argument).bind fun given => rule.parseFrom given none rest
  | given, none, argument :: rest =>
    if argument = "--" then rest.foldlM rule.addOperand given
    else if Text.beginsWith "--" argument then
      let (name, value) := nameAndValue argument
      match rule.options.lookup name, value with
      | some kind, some value =>
        (addValue given name kind value).bind fun given => rule.parseFrom given none rest
      | some kind, none => rule.parseFrom given (some (name, kind)) rest
      | none, _ => .error (if argument = "--help" then .help else .mistake)
    else if isOption argument then
      .error (if Text.beginsWith "-h" argument then .help else .mistake)
    else (rule.addOperand given argument).bind fun given => rule.parseFrom given none rest

/-- The options and operands that arguments give. -/
def parse (rule : CommandRule) (arguments : List String) : Except UsageRequest Given := do
  let given ← rule.parseFrom {} none arguments
  if given.operands.length = rule.operands.length then return given else throw .mistake

end CommandRule

/-! ## Commands -/

/-- The rule of the command that generates files. -/
def generateRule : CommandRule where
  options := [("config", .path), ("spec-path", .text), ("swagger-path", .text),
    ("output-dir", .path), ("language", .list), ("api-version", .list), ("package-name", .text)]

/-- The rule of the command that searches. -/
def searchRule : CommandRule where
  options := [("criteria", .list)]
  operands := [true, false]

/-- The rule of the command that converts. -/
def convertRule : CommandRule where
  options := [("openapi", .path), ("swagger", .path), ("output", .path)]

/-- The command that generates files with the given options. -/
def generateCommand (given : Given) : Command :=
  .generate {
    config := given.value? "config"
    specPath := given.value? "spec-path"
    swaggerPath := given.value? "swagger-path"
    outputDirectory := given.value? "output-dir"
    languages := given.texts "language"
    apiVersions := given.texts "api-version"
    packageName := given.value? "package-name" }

/-- The command that searches with the given options and operands. -/
def searchCommand? (given : Given) : Option Command :=
  match given.operands with
  | [specPath, pattern] => some (.search specPath pattern (given.texts "criteria"))
  | _ => none

/-- The command that converts with the given options, two of which it needs. -/
def convertCommand? (given : Given) : Option Command := do
  return .convert (← given.value? "openapi") (← given.value? "swagger") (given.value? "output")

namespace Command

/-- What is read, or a mistake. -/
def orMistake {α : Type} : Option α → Except UsageRequest α
  | some value => .ok value
  | none => .error .mistake

/-- The names of the commands. -/
def names : List String := ["generate", "search", "convert", "help"]

/-- The command that a command line asks for. -/
def ofArguments : List String → Except UsageRequest Command
  | "generate" :: rest => (generateRule.parse rest).map generateCommand
  | "search" :: rest => (searchRule.parse rest).bind (orMistake ∘ searchCommand?)
  | "convert" :: rest => (convertRule.parse rest).bind (orMistake ∘ convertCommand?)
  | "help" :: rest =>
    .error (if rest.length ≤ 1 && rest.all names.contains then .help else .mistake)
  | first :: _ =>
    if first = "--help" || Text.beginsWith "-h" first then .error .help
    else if first = "--version" || Text.beginsWith "-V" first then .error .version
    else .error .mistake
  | [] => .error .mistake

end Command

end ClientGen
