import ClientGen.Json.Basic
import ClientGen.Text.Basic

/-!
# JSON pointers

A JSON pointer names a place in a value: the names of members and the positions of items on the
way to it, each after a `/`. In a name `~1` stands for `/` and `~0` for `~`.

## Main definitions

* `Json.Pointer.steps?` — the steps that the text of a pointer describes.
* `Json.Pointer.escape` — a name as it is written in a pointer.
* `Json.at?` — the value at the end of some steps.
* `Json.modifyAt` — a value with the value at the end of some steps exchanged.
-/

set_option autoImplicit false

namespace ClientGen.Json

open ClientGen.Unicode

namespace Pointer

/-- A name as it is written in a pointer. -/
def escapeChars (name : List Char) : List Char :=
  Text.replaceChars ['/'] ['~', '1'] (Text.replaceChars ['~'] ['~', '0'] name)

/-- The name that a step of a pointer is written for. -/
def unescapeChars (step : List Char) : List Char :=
  Text.replaceChars ['~', '0'] ['~'] (Text.replaceChars ['~', '1'] ['/'] step)

/-- A name as it is written in a pointer. -/
def escape (name : String) : String :=
  String.ofList (escapeChars name.toList)

/-- The steps that the text of a pointer describes. The empty pointer has none, and every other
one begins with `/`. -/
def steps? (pointer : String) : Option (List String) :=
  match pointer.toList with
  | [] => some []
  | '/' :: rest =>
    some ((Text.splitChars '/' rest).map fun step => String.ofList (unescapeChars step))
  | _ => none

/-- The position in an array that a step names: decimal digits without a leading zero. -/
def index? (step : String) : Option Nat :=
  let chars := step.toList
  if chars.isEmpty || (chars.head? = some '0' && chars.length ≠ 1) then none
  else if chars.all isAsciiDigit then
    some (chars.foldl (fun n c => n * 10 + (c.toNat - '0'.toNat)) 0)
  else none

end Pointer

/-- The value that one step leads to. -/
def child? (value : Json) (step : String) : Option Json :=
  match value with
  | .object members => members.lookup step
  | .array items => (Pointer.index? step).bind (items[·]?)
  | _ => none

/-- The value at the end of the steps. -/
def at? : Json → List String → Option Json
  | value, [] => some value
  | value, step :: rest => (value.child? step).bind (·.at? rest)

/-- The value that a pointer names. -/
def pointer? (value : Json) (pointer : String) : Option Json :=
  (Pointer.steps? pointer).bind value.at?

/-! ## Changing a value in place -/

/-- The members with the value of the first one named `name` changed. -/
def modifyMember (name : String) (change : Json → Json) :
    List (String × Json) → List (String × Json)
  | [] => []
  | (key, value) :: rest =>
    if key = name then (key, change value) :: rest
    else (key, value) :: modifyMember name change rest

/-- The value with the value that one step leads to changed. -/
def modifyChild (step : String) (change : Json → Json) : Json → Json
  | .object members => .object (modifyMember step change members)
  | .array items =>
    match Pointer.index? step with
    | some index => .array (items.modify index change)
    | none => .array items
  | value => value

/-- The value with the value at the end of the steps changed. Steps that lead nowhere change
nothing. -/
def modifyAt (change : Json → Json) : List String → Json → Json
  | [], value => change value
  | step :: rest, value => value.modifyChild step (modifyAt change rest)

end ClientGen.Json
