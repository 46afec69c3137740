import ClientGen.Config.Printing
import ClientGen.Config.Reading
import ClientGen.Files.Basic

/-!
# Configurations in files

## Main definitions

* `Config.load` — the configuration in a file.
* `Config.save` — writes a configuration to a file.
-/

set_option autoImplicit false

namespace ClientGen.Config

variable {m : Type → Type} [Monad m] [FileAccess m]

/-- The configuration in a file, in the format that its extension tells. -/
def load (path : String) : m (Except Failure Config) := do
  match ← FileAccess.read path with
  | .error error => return .error (.file error)
  | .ok text => return ofText (.ofPath path) text

/-- Writes a configuration to a file, in the format that its extension tells. -/
def save (config : Config) (path : String) : m (Except Failure Unit) := do
  let result ← FileAccess.write path (config.toText (.ofPath path))
  return result.mapError .file

end ClientGen.Config
