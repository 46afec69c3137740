import ClientGen.Document
import ClientGen.Files.Basic
import ClientGen.Yaml.Tree

/-!
# Reading documents

The text of a document is JSON or YAML. Both are tried, so that no name of a file is needed.

## Main definitions

* `Document.ofText?` — the document that a text holds.
* `Document.ofFile` — the document that the text of a named file holds.
* `Document.load` — the document in a file.
-/

set_option autoImplicit false

namespace ClientGen.Document

/-- The document that a text holds: JSON if it is that, and YAML otherwise. -/
def ofText? (text : String) : Option Document :=
  ((Json.parse? Json.documentDepth text).or (Yaml.json? text)).map (⟨·⟩)

/-- What is said of a text that holds no document. -/
def neither : String := "content is neither valid JSON nor YAML"

/-- The document that the text of a file holds. -/
def ofFile (path text : String) : Except Failure Document :=
  match ofText? text with
  | some document => .ok document
  | none =>
    .error (.document ("Failed to parse API document at " ++ path ++ ": " ++ neither))

/-- The document in a file. -/
def load {m : Type → Type} [Monad m] [FileAccess m] (path : String) :
    m (Except Failure Document) := do
  match ← FileAccess.read path with
  | .error error => return .error (.file error)
  | .ok text => return ofFile path text

end ClientGen.Document
