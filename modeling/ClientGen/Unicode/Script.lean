import ClientGen.Unicode.Bounds
import ClientGen.Unicode.ScriptTable

/-!
# Scripts of characters

## Main definitions

* `Script` — a script.
* `Script.ofName?` — the script with a name.
* `Script.contains` — the characters that belong to a script.
* `Script.isUsedWith` — the characters that a script uses.
-/

set_option autoImplicit false

namespace ClientGen.Unicode

/-- A script: its names, the short one first, and the bounds of its characters. -/
structure Script where
  /-- The names, without regard to case, blanks, hyphens and underscores. -/
  names : List String
  /-- The bounds of the characters. -/
  bounds : List Nat
  deriving Repr

namespace Script

/-- The script with a name in which case, blanks, hyphens and underscores do not count. -/
def ofName? (name : String) : Option Script :=
  (ScriptTable.scripts.find? fun (names, _) => names.contains name).map fun (names, bounds) =>
    ⟨names, bounds⟩

/-- Whether a character belongs to a script. -/
def contains (script : Script) (c : Char) : Bool := inBounds script.bounds c.toNat

/-- Whether a script uses a character: it is one of those that share it, or nothing is said of
the character and it belongs to the script. -/
def isUsedWith (script : Script) (c : Char) : Bool :=
  match ScriptTable.sharedCharacters.find? fun (bounds, _) => inBounds bounds c.toNat with
  | some (_, users) => users.any script.names.contains
  | none => script.contains c

end Script

end ClientGen.Unicode
