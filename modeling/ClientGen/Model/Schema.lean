import ClientGen.Json.Basic

/-!
# Forms of a schema

Only a few members of a schema decide which type it stands for. The form of a schema keeps these
and leaves out the rest.

## Main definitions

* `Schema` — the forms.
* `Schema.ofJson` — the form of a schema.
-/

set_option autoImplicit false

namespace ClientGen

/-- The form of a schema. -/
inductive Schema where
  /-- A text, which refers to a type. -/
  | name (reference : String)
  /-- A schema that refers to another by its `$ref` member. -/
  | link (reference : String)
  /-- A list whose items have a schema. -/
  | list (items : Schema)
  /-- An object whose members all have one schema. -/
  | map (values : Schema)
  /-- Anything else: the `type` and the `format` that the fragment states. -/
  | scalar (type format : Option String) (fragment : Json)
  deriving Inhabited

namespace Schema

/-- The string that is the member with a name. -/
def stringMember? (name : String) (members : List (String × Json)) : Option String :=
  (members.lookup name).bind Json.asString?

mutual

/-- The form of a schema. -/
def ofJson : Json → Schema
  | .string reference => .name reference
  | .object members =>
    let type := stringMember? "type" members
    let format := stringMember? "format" members
    let scalar := Schema.scalar type format (.object members)
    match stringMember? "$ref" members with
    | some reference => .link reference
    | none =>
      if type = some "array" then ((ofMember? "items" false members).map .list).getD scalar
      else if type = some "object" then
        ((ofMember? "additionalProperties" true members).map .map).getD scalar
      else scalar
  | fragment => .scalar none none fragment

/-- The form of the member with a name, if there is one and, where only objects count, it is
an object. -/
def ofMember? (name : String) (objectOnly : Bool) : List (String × Json) → Option Schema
  | [] => none
  | (key, value) :: rest =>
    if key = name then
      if objectOnly && value.asObject?.isNone then none else some (ofJson value)
    else ofMember? name objectOnly rest

end

end Schema

end ClientGen
