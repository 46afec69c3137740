import ClientGen.Json.Printer
import ClientGen.Method.Verb
import ClientGen.Text.Quoted

/-!
# What can go wrong

Each kind of failure is a type of its own, with its causes as constructors and its wording in one
function.

## Main definitions

* `UnknownName` — a name that is none of a fixed set.
* `SpecError` — a document that cannot be understood in some place.
* `Diagnostic` — a mistake in a document, with the operation or type that it belongs to.
* `BackendError` — a type that a target language cannot express.
* `FileError`, `ConfigFault` — a file or a configuration that cannot be read.
* `Failure` — any of these.
-/

set_option autoImplicit false

namespace ClientGen

/-! ## Names -/

/-- A name that is none of a fixed set of names. -/
inductive UnknownName where
  /-- No location of a parameter. -/
  | location (text : String)
  /-- No serialization style. -/
  | style (text : String)
  /-- No search criterion. -/
  | criterion (text : String)
  /-- No target language. -/
  | language (text : String)
  deriving DecidableEq, Repr

/-- The wording of an unknown name. -/
def UnknownName.message : UnknownName → String
  | .location text => "Unknown parameter location: " ++ text
  | .style text => "Unknown parameter style: " ++ text
  | .criterion text => "Unknown search criterion: " ++ text
  | .language text => "Unknown language: " ++ text

/-! ## Documents -/

/-- A mistake in a document. A fragment is the part of the document that shows it. -/
inductive SpecError where
  /-- A schema has neither a reference nor a known type. -/
  | unresolvable (fragment : Json)
  /-- A parameter has a location that does not exist. -/
  | unknownLocation (location : String) (fragment : Json)
  /-- A reference points to nothing. -/
  | unknownReference (reference : String)
  /-- An operation has no identifier. -/
  | missingOperationId (verb : Verb) (endpoint : String)
  /-- An operation has no response of success. -/
  | missingPrimaryResponse (endpoint : String) (fragment : Json)
  /-- No response of an operation is known to be text or binary data. -/
  | unknownResponseMode (operationId : String) (mediaTypes : List String)
  /-- A type has no name to be declared under. -/
  | namelessType (fragment : Json)
  deriving Inhabited

/-- The wording of a mistake in a document. -/
def SpecError.message : SpecError → String
  | .unresolvable fragment => "schema must have a ref or a type: " ++ fragment.render
  | .unknownLocation location fragment =>
    "unknown parameter location '" ++ location ++ "': " ++ fragment.render
  | .unknownReference reference => "unknown reference " ++ reference
  | .missingOperationId verb endpoint =>
    "missing operationId for " ++ verb.name ++ " " ++ endpoint
  | .missingPrimaryResponse endpoint _ =>
    "missing 2xx + application/json response in " ++ endpoint
  | .unknownResponseMode operationId mediaTypes =>
    "is " ++ operationId ++ " binary or string? no response mode for " ++
      Text.quotedList mediaTypes
  | .namelessType fragment => "cannot output a nameless type: " ++ fragment.render

/-- A mistake in a document and the operation or type that it was found in. -/
structure Diagnostic where
  /-- The identifier of the operation or the name of the type. -/
  subject : String
  /-- The mistake. -/
  error : SpecError
  deriving Inhabited

/-- The wording of a diagnostic. -/
def Diagnostic.message (diagnostic : Diagnostic) : String :=
  diagnostic.subject ++ ": " ++ diagnostic.error.message

/-! ## Target languages -/

/-- A type that a target language cannot express. -/
inductive BackendError where
  /-- There is no spelling for a built-in type. -/
  | unknownIntrinsic (language typeName : String)
  /-- The language has nothing of this kind. -/
  | unsupported (language typeName : String)
  deriving DecidableEq, Repr, Inhabited

/-- The wording of a type that cannot be expressed. -/
def BackendError.message : BackendError → String
  | .unknownIntrinsic language typeName =>
    language ++ " has no mapping for intrinsic type '" ++ typeName ++ "'"
  | .unsupported language typeName =>
    language ++ " cannot represent type '" ++ typeName ++ "'"

/-! ## Files -/

/-- A file that cannot be read or written. -/
inductive FileError where
  /-- There is no such file or directory. -/
  | notFound
  /-- A file stands where a directory is needed. -/
  | notDirectory
  /-- A directory stands where a file is needed. -/
  | isDirectory
  /-- There is something of that name. -/
  | alreadyExists
  /-- The file may not be used. -/
  | accessDenied
  /-- The file does not hold a text. -/
  | notText
  /-- Anything else, in the words of the system. -/
  | other (text : String)
  deriving DecidableEq, Repr, Inhabited

/-- The wording of a file error. -/
def FileError.message : FileError → String
  | .notFound => "No such file or directory (os error 2)"
  | .notDirectory => "Not a directory (os error 20)"
  | .isDirectory => "Is a directory (os error 21)"
  | .alreadyExists => "File exists (os error 17)"
  | .accessDenied => "Permission denied (os error 13)"
  | .notText => "stream did not contain valid UTF-8"
  | .other text => text

/-! ## Configurations -/

/-- The file format of a configuration. -/
inductive ConfigFormat where
  /-- Indented or bracketed YAML. -/
  | yaml
  /-- JSON. -/
  | json
  /-- TOML. -/
  | toml
  deriving DecidableEq, Repr, Inhabited

/-- The name of a format. -/
def ConfigFormat.name : ConfigFormat → String
  | .yaml => "YAML"
  | .json => "JSON"
  | .toml => "TOML"

/-- A configuration that cannot be read. -/
inductive ConfigFault where
  /-- A field that holds one text or several holds something else. -/
  | expectedTexts
  /-- A field is not there. -/
  | missingField (name : String)
  /-- The text has a mistake, or a field has a value of another kind. -/
  | malformed
  deriving DecidableEq, Repr, Inhabited

/-- The wording of a fault in a configuration. -/
def ConfigFault.message : ConfigFault → String
  | .expectedTexts => "Expected string or array of strings"
  | .missingField name => "missing field \x60" ++ name ++ "\x60"
  | .malformed => "malformed content"

/-! ## Failures -/

/-- Anything that stops the generator. -/
inductive Failure where
  /-- A file cannot be used. -/
  | file (error : FileError)
  /-- A configuration cannot be read. -/
  | config (format : ConfigFormat) (fault : ConfigFault)
  /-- The document has a mistake. -/
  | spec (error : SpecError)
  /-- The target language cannot express a type. -/
  | backend (error : BackendError)
  /-- The configuration asks for something that does not exist. -/
  | setting (message : String)
  /-- A text is no document. -/
  | document (message : String)
  deriving Inhabited

/-- The failure behind a failure: what it wraps, if it wraps anything. -/
def Failure.cause? : Failure → Option String
  | .file error => some error.message
  | .config _ fault => some fault.message
  | .spec error => some error.message
  | .backend error => some error.message
  | .setting _ => none
  | .document _ => none

/-- The wording of a failure. -/
def Failure.message : Failure → String
  | .file error => "I/O error: " ++ error.message
  | .config format fault => format.name ++ " parsing error: " ++ fault.message
  | .spec error => "Spec error: " ++ error.message
  | .backend error => "Backend error: " ++ error.message
  | .setting message => "Configuration error: " ++ message
  | .document message => "OpenAPI error: " ++ message

end ClientGen
