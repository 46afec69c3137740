import ClientGen.CommandLine.Run

/-!
# The program

Runs the command that the command line asks for, on the files of the computer.
-/

set_option autoImplicit false

namespace ClientGen

/-- The explanation of the commands. -/
def usage : String :=
  "Commands:\n" ++
  "  generate [--config FILE] [--spec-path FILE] [--swagger-path FILE] [--output-dir DIR]\n" ++
  "           [--language NAMES] [--api-version NAMES] [--package-name NAME]\n" ++
  "  search FILE PATTERN [--criteria NAMES]\n" ++
  "  convert --openapi FILE --swagger FILE [--output FILE]\n"

/-- The version of the program. -/
def programVersion : String := "0.1.0"

/-- The kind of an error of the system. -/
def FileError.ofSystem (error : IO.Error) : FileError :=
  match error with
  | .noFileOrDirectory _ _ _ => .notFound
  | .alreadyExists _ code _ =>
    if code = 17 then .alreadyExists else .other (toString error)
  | .inappropriateType _ code _ =>
    if code = 20 then .notDirectory else if code = 21 then .isDirectory
    else .other (toString error)
  | .permissionDenied _ _ _ => .accessDenied
  | .userError _ => .notText
  | _ => .other (toString error)

/-- An action on files and what goes wrong in it. -/
def withFiles {α : Type} (action : IO α) : IO (Except FileError α) :=
  try return .ok (← action)
  catch error => return .error (.ofSystem error)

/-- The files of the computer. -/
instance : FileAccess IO where
  read path := withFiles (IO.FS.readFile path)
  write path text := withFiles (IO.FS.writeFile path text)
  createDirectories path := withFiles (IO.FS.createDirAll path)

end ClientGen

open ClientGen in
/-- Runs the command that the command line asks for. -/
def main (arguments : List String) : IO UInt32 := do
  match ← runArguments arguments with
  | .ok report =>
    IO.print report.output
    IO.eprint report.errors
    return report.exitCode.toUInt32
  | .error .help =>
    IO.print usage
    return 0
  | .error .version =>
    IO.println programVersion
    return 0
  | .error .mistake =>
    IO.eprint usage
    return 2
