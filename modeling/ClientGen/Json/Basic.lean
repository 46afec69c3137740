import ClientGen.Decimal.Binary64

/-!
# JSON values

JSON values as documents hold them: the members of an object keep the order of the text, and a
number remembers whether it is an integer.

## Main definitions

* `Json.Number` — integers and finite binary64 numbers.
* `Json` — JSON values.
* `Json.get?`, `Json.asString?`, … — partial views of a value.
* `Json.insertMember` — a member written into an object.
* `Json.equiv` — equality up to the order of members.
* `Json.size` — the number of values in a value.

## Main results

* `Json.lookup_insertMember_self`, `Json.lookup_insertMember_of_ne` — what reading sees after a
  member has been written.
-/

set_option autoImplicit false

namespace ClientGen

/-- A JSON number: an integer between `-2 ^ 63` and `2 ^ 64 - 1` if it is written as one, and a
binary64 number otherwise. -/
inductive Json.Number where
  /-- An integer. -/
  | integer (value : Int)
  /-- A number with a fraction, an exponent or too many digits. -/
  | real (value : Binary64)
  deriving DecidableEq, Repr, Inhabited

/-- A JSON value. -/
inductive Json where
  /-- The value `null`. -/
  | null
  /-- A truth value. -/
  | bool (value : Bool)
  /-- A number. -/
  | number (value : Json.Number)
  /-- A string. -/
  | string (value : String)
  /-- An array. -/
  | array (items : List Json)
  /-- An object, its members in the order of the text. -/
  | object (members : List (String × Json))
  deriving Repr, Inhabited

namespace Json

/-! ## Views -/

/-- The members of an object. -/
def asObject? : Json → Option (List (String × Json))
  | .object members => some members
  | _ => none

/-- The items of an array. -/
def asArray? : Json → Option (List Json)
  | .array items => some items
  | _ => none

/-- The characters of a string. -/
def asString? : Json → Option String
  | .string value => some value
  | _ => none

/-- The value of a truth value. -/
def asBool? : Json → Option Bool
  | .bool value => some value
  | _ => none

/-- The member of an object with the given name. -/
def get? (value : Json) (name : String) : Option Json :=
  match value with
  | .object members => members.lookup name
  | _ => none

/-- The string that is the member with the given name. -/
def getString? (value : Json) (name : String) : Option String :=
  (value.get? name).bind asString?

/-- The truth value that is the member with the given name, `false` if there is none. -/
def flag (value : Json) (name : String) : Bool :=
  ((value.get? name).bind asBool?).getD false

/-- The string that is the member with the given name, empty if there is none. -/
def text (value : Json) (name : String) : String :=
  (value.getString? name).getD ""

/-! ## Members -/

/-- The members after `name` has been given `value`: in the place of the member of that name, or
at the end. -/
def insertMember (name : String) (value : Json) :
    List (String × Json) → List (String × Json)
  | [] => [(name, value)]
  | (key, old) :: rest =>
    if key = name then (key, value) :: rest else (key, old) :: insertMember name value rest

/-- The members read in order: a repeated name keeps its first place and takes its last value. -/
def ofMembers (members : List (String × Json)) : Json :=
  .object (members.foldl (fun done member => insertMember member.1 member.2 done) [])

/-- Reading a member that has just been written gives its value. -/
theorem lookup_insertMember_self (name : String) (value : Json)
    (members : List (String × Json)) :
    (insertMember name value members).lookup name = some value := by
  induction members with
  | nil => simp [insertMember]
  | cons member rest ih =>
    obtain ⟨key, old⟩ := member
    by_cases h : key = name
    · simp [insertMember, h]
    · have h' : (name == key) = false := by simpa using fun e => h e.symm
      simp [insertMember, h, List.lookup_cons, h', ih]

/-- Writing a member leaves the members of other names as they are. -/
theorem lookup_insertMember_of_ne {name other : String} (value : Json)
    (members : List (String × Json)) (hne : other ≠ name) :
    (insertMember name value members).lookup other = members.lookup other := by
  induction members with
  | nil =>
    have h' : (other == name) = false := by simpa using hne
    simp [insertMember, List.lookup_cons, h']
  | cons member rest ih =>
    obtain ⟨key, old⟩ := member
    by_cases h : key = name
    · subst h
      have h' : (other == key) = false := by simpa using hne
      simp [insertMember, List.lookup_cons, h']
    · simp only [insertMember, h, if_false, List.lookup_cons, ih]

/-! ## Equality up to the order of members -/

/-- Equality of numbers. An integer differs from every number that is not one. -/
def Number.equiv : Number → Number → Bool
  | .integer a, .integer b => a = b
  | .real a, .real b => a.sameValue b
  | _, _ => false

mutual

/-- Equality of values, where the order of the members of an object does not matter. -/
def equiv : Json → Json → Bool
  | .null, .null => true
  | .bool a, .bool b => a = b
  | .number a, .number b => a.equiv b
  | .string a, .string b => a = b
  | .array a, .array b => equivItems a b
  | .object a, .object b => a.length = b.length && equivMembers a b
  | _, _ => false

/-- Equality of the items of two arrays, in order. -/
def equivItems : List Json → List Json → Bool
  | [], [] => true
  | a :: as, b :: bs => equiv a b && equivItems as bs
  | _, _ => false

/-- Whether every one of the first members has an equal one of the same name in the second. -/
def equivMembers : List (String × Json) → List (String × Json) → Bool
  | [], _ => true
  | (name, a) :: rest, others =>
    (match others.lookup name with
      | some b => equiv a b
      | none => false) && equivMembers rest others

end

/-! ## Size -/

mutual

/-- The number of values in a value, itself included. -/
def size : Json → Nat
  | .array items => sizeItems items + 1
  | .object members => sizeMembers members + 1
  | _ => 1

/-- The number of values in the items of an array. -/
def sizeItems : List Json → Nat
  | [] => 0
  | item :: rest => size item + sizeItems rest

/-- The number of values in the members of an object. -/
def sizeMembers : List (String × Json) → Nat
  | [] => 0
  | (_, value) :: rest => size value + sizeMembers rest

end

end Json

end ClientGen
