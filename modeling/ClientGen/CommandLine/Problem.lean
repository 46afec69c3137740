import ClientGen.Failure
import ClientGen.Text.Basic

/-!
# Reporting problems

A problem is what stops a command, in words: what was being done and what lies behind it.

## Main definitions

* `Problem` — problems.
* `Problem.line` — a problem and its causes in one line.
* `Problem.report` — a problem and its causes in lines of their own.
-/

set_option autoImplicit false

namespace ClientGen

/-- What stops a command, with its causes, nearest first. -/
structure Problem where
  /-- What is wrong. -/
  message : String
  /-- What lies behind it, nearest first. -/
  causes : List String := []
  deriving DecidableEq, Repr, Inhabited

namespace Problem

/-- A failure as a problem. -/
def ofFailure (failure : Failure) : Problem := ⟨failure.message, failure.cause?.toList⟩

/-- A file error as a problem. -/
def ofFileError (error : FileError) : Problem := ⟨error.message, []⟩

/-- What is seen of a command that does not come to an end: the system stops it when its stack is
full. -/
def overflow : Problem := ⟨"stack overflow", []⟩

/-- The problem of doing something that another problem stops. -/
def during (problem : Problem) (doing : String) : Problem :=
  ⟨doing, problem.message :: problem.causes⟩

/-- A problem and its causes in one line. -/
def line (problem : Problem) : String := ": ".intercalate (problem.message :: problem.causes)

/-- The number before a cause, if there are several. -/
def causeMark (isOnly : Bool) (index : Nat) : String :=
  if isOnly then "    "
  else
    let digits := toString index
    Text.repeated (5 - digits.length) " " ++ digits ++ ": "

/-- A cause as it is reported. Further lines of its text begin below the first one. -/
def causeLine (isOnly : Bool) (index : Nat) (cause : String) : String :=
  let margin := if isOnly then "\n    " else "\n       "
  "\n" ++ causeMark isOnly index ++ margin.intercalate (Text.split '\n' cause)

/-- A problem and its causes in lines of their own. -/
def report (problem : Problem) : String :=
  let isOnly := problem.causes.length = 1
  let causes := problem.causes.zipIdx.map fun (cause, index) => causeLine isOnly index cause
  "Error: " ++ problem.message ++
    (if problem.causes.isEmpty then "" else "\n\nCaused by:") ++ String.join causes ++ "\n"

end Problem

end ClientGen
