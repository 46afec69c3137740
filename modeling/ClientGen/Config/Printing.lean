import ClientGen.Config.Basic
import ClientGen.Toml.Printer
import ClientGen.Yaml.Printer

/-!
# Saving configurations

## Main definitions

* `Config.toJson`, `Config.toToml`, `Config.toYaml` — the text of a configuration.
* `Config.toText` — its text in a given format.
-/

set_option autoImplicit false

namespace ClientGen

/-- The JSON value of a field. -/
def ConfigValue.json : ConfigValue → Json
  | .absent => .null
  | .text value => .string value
  | .texts values => .array (values.map .string)

/-- The lines of a field in TOML, where a missing field has none. -/
def ConfigValue.tomlEntry (name : String) : ConfigValue → String
  | .absent => ""
  | .text value => Toml.textEntry name value
  | .texts values => Toml.listEntry name values

/-- The lines of a field in YAML. -/
def ConfigValue.yamlEntry (name : String) : ConfigValue → String
  | .absent => Yaml.nullEntry name
  | .text value => Yaml.textEntry name value
  | .texts values => Yaml.listEntry name values

namespace Config

/-- A configuration as an indented JSON object. -/
def toJson (config : Config) : String :=
  (Json.object (config.members.map fun (name, value) => (name, value.json))).renderPretty

/-- A configuration as a TOML table. -/
def toToml (config : Config) : String :=
  String.join (config.members.map fun (name, value) => value.tomlEntry name)

/-- A configuration as a YAML mapping. -/
def toYaml (config : Config) : String :=
  String.join (config.members.map fun (name, value) => value.yamlEntry name)

/-- A configuration in a given format. -/
def toText (config : Config) : ConfigFormat → String
  | .json => config.toJson
  | .toml => config.toToml
  | .yaml => config.toYaml

end Config

end ClientGen
