import ClientGen.Config.Basic

/-!
# Filling in configurations

A draft is a configuration of which some fields have been read. Fields are read in the order in
which they are written, so the first fault is the one that counts; only when all have been read
are missing fields a fault.

## Main definitions

* `ConfigReader` — how the values of a format are read as fields.
* `ConfigDraft.set` — a draft with one more field.
* `ConfigDraft.finish` — the configuration of a draft.
-/

set_option autoImplicit false

namespace ClientGen

/-- How the values of a format are read as fields. -/
structure ConfigReader (α : Type) where
  /-- A text. -/
  text? : α → Option String
  /-- A text or nothing. -/
  optionalText? : α → Option (Option String)
  /-- A list of texts. -/
  texts? : α → Option (List String)
  /-- A text, which stands for a list of one, or a list of texts. -/
  oneOrMore : α → Except ConfigFault (List String)

/-- A configuration of which some fields have been read. -/
structure ConfigDraft where
  /-- The path of the document. -/
  specPath : Option String := none
  /-- The path of the older document. -/
  swaggerPath : Option (Option String) := none
  /-- The directory of the generated files. -/
  outputDirectory : Option String := none
  /-- The names of the languages. -/
  languages : Option (List String) := none
  /-- The versions of the API. -/
  apiVersions : Option (List String) := none
  /-- The name of the generated package. -/
  packageName : Option String := none
  /-- The operations that are generated. -/
  includedOperations : Option (List String) := none
  /-- The operations that are left out. -/
  excludedOperations : Option (List String) := none
  deriving Inhabited

namespace ConfigDraft

/-- The names of the fields, in order. -/
def fieldNames : List String :=
  ["spec_path", "swagger_path", "output_dir", "languages", "api_versions", "package_name",
    "include_operations", "exclude_operations"]

/-- What is read, or a fault if it has another form. -/
def expect {α : Type} : Option α → Except ConfigFault α
  | some value => .ok value
  | none => .error .malformed

/-- A field that is read for the first time. -/
def once {α : Type} (field : Option α) (value : Except ConfigFault α) :
    Except ConfigFault (Option α) :=
  match field with
  | some _ => .error .malformed
  | none => value.map some

/-- The draft with one more field. Names that are no fields are passed over. -/
def set {α : Type} (reader : ConfigReader α) (draft : ConfigDraft) (name : String) (value : α) :
    Except ConfigFault ConfigDraft := do
  match name with
  | "spec_path" =>
    return { draft with specPath := ← once draft.specPath (expect (reader.text? value)) }
  | "swagger_path" =>
    return { draft with
      swaggerPath := ← once draft.swaggerPath (expect (reader.optionalText? value)) }
  | "output_dir" =>
    return { draft with
      outputDirectory := ← once draft.outputDirectory (expect (reader.text? value)) }
  | "languages" =>
    return { draft with languages := ← once draft.languages (reader.oneOrMore value) }
  | "api_versions" =>
    return { draft with apiVersions := ← once draft.apiVersions (reader.oneOrMore value) }
  | "package_name" =>
    return { draft with packageName := ← once draft.packageName (expect (reader.text? value)) }
  | "include_operations" =>
    return { draft with
      includedOperations := ← once draft.includedOperations (expect (reader.texts? value)) }
  | "exclude_operations" =>
    return { draft with
      excludedOperations := ← once draft.excludedOperations (expect (reader.texts? value)) }
  | _ => return draft

/-- The draft with several fields, read in order. -/
def setAll {α : Type} (reader : ConfigReader α) (draft : ConfigDraft)
    (members : List (String × α)) : Except ConfigFault ConfigDraft :=
  members.foldlM (fun draft member => draft.set reader member.1 member.2) draft

/-- A field that must be there. -/
def require {α : Type} (name : String) : Option α → Except ConfigFault α
  | some value => .ok value
  | none => .error (.missingField name)

/-- The configuration of a draft. Fields that have not been read have their usual values. -/
def finish (draft : ConfigDraft) : Except ConfigFault Config := do
  let specPath ← require "spec_path" draft.specPath
  let outputDirectory ← require "output_dir" draft.outputDirectory
  let usual : Config := { specPath, outputDirectory }
  return { usual with
    swaggerPath := draft.swaggerPath.getD usual.swaggerPath
    languages := draft.languages.getD usual.languages
    apiVersions := draft.apiVersions.getD usual.apiVersions
    packageName := draft.packageName.getD usual.packageName
    includedOperations := draft.includedOperations.getD usual.includedOperations
    excludedOperations := draft.excludedOperations.getD usual.excludedOperations }

end ConfigDraft

end ClientGen
