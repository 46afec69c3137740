import ClientGen.Json.Pointer

/-!
# API documents

An API document is a JSON value. What the generator needs from it is found by name, and the
document refers to parts of itself by pointers.

## Main definitions

* `Document` — a document.
* `Document.schemas?`, `Document.paths?` — the declared schemas and paths.
* `Document.resolve?` — the value that a reference points to.
* `Document.deref?` — the value at the end of a chain of references.
* `referenceName` — the name that a reference ends with.
-/

set_option autoImplicit false

namespace ClientGen

/-- An API document. -/
structure Document where
  /-- The value of the whole document. -/
  root : Json
  deriving Inhabited

/-- The name that a reference ends with: what follows its last `/`. -/
def referenceName (reference : String) : String := Text.afterLast '/' reference

namespace Document

/-! ## Information -/

/-- A text of the `info` object. -/
def info? (document : Document) (name : String) : Option String :=
  (document.root.get? "info").bind (·.getString? name)

/-- The title of the API. -/
def title? (document : Document) : Option String := document.info? "title"

/-- The version of the API. -/
def version? (document : Document) : Option String := document.info? "version"

/-- The description of the API. -/
def description? (document : Document) : Option String := document.info? "description"

/-- Whether the document is of the older format, which names its version `swagger`. -/
def isSwagger (document : Document) : Bool := (document.root.get? "swagger").isSome

/-! ## Declarations -/

/-- The declared schemas: `components.schemas`, or `definitions` if the former is missing. -/
def schemas? (document : Document) : Option (List (String × Json)) :=
  (((document.root.get? "components").bind (·.get? "schemas")).or
    (document.root.get? "definitions")).bind Json.asObject?

/-- The beginning of the reference that a declared schema is known by. -/
def schemaReferenceStem (document : Document) : String :=
  if document.isSwagger then "#/definitions/" else "#/components/schemas/"

/-- The declared paths. -/
def paths? (document : Document) : Option (List (String × Json)) :=
  (document.root.get? "paths").bind Json.asObject?

/-! ## References -/

/-- A reference as a pointer: without the `#` that it may begin with. -/
def pointerOf (reference : String) : String :=
  match reference.toList with
  | '#' :: rest => String.ofList rest
  | _ => reference

/-- The value that a reference into the document points to. -/
def resolve? (document : Document) (reference : String) : Option Json :=
  document.root.pointer? (pointerOf reference)

/-- The value at the end of the chain of references that begins with `value`, found by looking
at no more than `steps` values. -/
def derefWithin (document : Document) : Nat → Json → Option Json
  | 0, _ => none
  | steps + 1, value =>
    match value.getString? "$ref" with
    | none => some value
    | some reference => (document.resolve? reference).bind (document.derefWithin steps)

/-- How many values of a chain of references are looked at. -/
def derefLimit : Nat := 32

/-- The value at the end of the chain of references that begins with `value`. A chain that
breaks off or is too long, such as a circle, has none. -/
def deref? (document : Document) (value : Json) : Option Json :=
  document.derefWithin derefLimit value

end Document

end ClientGen
