import ClientGen.Generation.Python
import ClientGen.Generation.TypeScript
import ClientGen.Unicode.Case

/-!
# Target languages

## Main definitions

* `Language` — the languages with a backend.
* `Language.ofName?` — the language with a name, whatever its case.
* `Language.ofNames` — the languages with the names of a list.
-/

set_option autoImplicit false

namespace ClientGen

/-- A language with a backend. -/
inductive Language where
  /-- Python. -/
  | python
  /-- TypeScript. -/
  | typeScript
  deriving DecidableEq, Repr, Inhabited

namespace Language

/-- All languages. -/
def all : List Language := [.python, .typeScript]

/-- The name of a language. -/
def name : Language → String
  | .python => "python"
  | .typeScript => "typescript"

/-- The short name of a language, which is the extension of its files. -/
def shortName : Language → String
  | .python => "py"
  | .typeScript => "ts"

/-- The language with a name or a short name. The case of the name does not matter. -/
def ofName? (text : String) : Option Language :=
  let lower := Unicode.toLower text
  all.find? fun language => language.name = lower || language.shortName = lower

/-- The backend of a language. -/
def backend : Language → Backend
  | .python => Python.backend
  | .typeScript => TypeScript.backend

/-- The languages with the names of a list, or the first of the names that is none. -/
def ofNames (names : List String) : Except Failure (List Language) :=
  names.mapM fun name =>
    match ofName? name with
    | some language => .ok language
    | none => .error (.setting (UnknownName.language name).message)

end Language

end ClientGen
