import ClientGen.Conversion

/-!
# Places in a value and what is written at them

A place is the way down from a value to an object in it, by members of objects and items of
arrays. A member of the object at a place can be written. These are the laws that writes obey,
among themselves and with the reading of a value.

A route describes a place without fixing it: some of its steps take the first item of an array
that bears a name. Writes do not change names, and so the route of one write leads where it led
after another write, unless that one has overwritten what lay on the way.

## Main definitions

* `ClientGen.Json.Slot`, `ClientGen.Json.follow?` — a part of a value, and the value at the end
  of a chain of parts.
* `ClientGen.Json.writeAt` — a value with a member of the object at a place written.
* `ClientGen.Json.Step`, `ClientGen.Json.place?` — the steps of a route, and the place that a
  route leads to.

## Main results

* `ClientGen.Json.place?_writeAt` — the routes that a write leaves are those that do not lead
  through the member written.
* `ClientGen.Json.writeAt_absorb`, `ClientGen.Json.writeAt_of_below` — a write repeated after
  another write makes the first one needless.
* `ClientGen.Json.follow?_writeAt_of_isLeaf` — a write leaves the leaves that it does not aim at.
-/

set_option autoImplicit false

namespace ClientGen.Json

/-! ## Members -/

section Members

attribute [local simp] insertMember modifyMember

variable {name other : String} {value : Json} (change change' : Json → Json)
  (members : List (String × Json))

/-- The value of a changed member. -/
theorem lookup_modifyMember_self :
    (modifyMember name change members).lookup name = (members.lookup name).map change := by
  induction members with
  | nil => rfl
  | cons member rest ih =>
    obtain ⟨key, old⟩ := member
    by_cases h : key = name
    · simp [h]
    · have h' : (name == key) = false := by simpa using Ne.symm h
      simp [h, List.lookup_cons, h', ih]

/-- Changing a member leaves the members of other names as they are. -/
theorem lookup_modifyMember_of_ne (hne : other ≠ name) :
    (modifyMember name change members).lookup other = members.lookup other := by
  induction members with
  | nil => rfl
  | cons member rest ih =>
    obtain ⟨key, old⟩ := member
    by_cases h : key = name
    · have h' : (other == name) = false := by simpa using hne
      simp [h, List.lookup_cons, h']
    · simp only [modifyMember, h, if_false, List.lookup_cons, ih]

/-- Two changes of one member are one change. -/
theorem modifyMember_modifyMember :
    modifyMember name change (modifyMember name change' members) =
      modifyMember name (change ∘ change') members := by
  induction members with
  | nil => rfl
  | cons member rest ih =>
    obtain ⟨key, old⟩ := member
    by_cases h : key = name
    · simp [h]
    · simp [h, ih]

/-- Changes of two members can be made in either order. -/
theorem modifyMember_comm (hne : other ≠ name) :
    modifyMember name change (modifyMember other change' members) =
      modifyMember other change' (modifyMember name change members) := by
  induction members with
  | nil => rfl
  | cons member rest ih =>
    obtain ⟨key, old⟩ := member
    by_cases h : key = name
    · subst h
      simp [Ne.symm hne]
    · by_cases h' : key = other
      · simp [h', hne]
      · simp [h, h', ih]

/-- A change of a member only depends on what it makes of the value of that member. -/
theorem modifyMember_congr {change change' : Json → Json}
    (h : ∀ old, members.lookup name = some old → change old = change' old) :
    modifyMember name change members = modifyMember name change' members := by
  induction members with
  | nil => rfl
  | cons member rest ih =>
    obtain ⟨key, old⟩ := member
    by_cases hk : key = name
    · have hold : change old = change' old := h old (by simp [hk])
      simp [hk, hold]
    · have hk' : (name == key) = false := by simpa using Ne.symm hk
      have hrest := ih fun found hfound => h found (by simpa [List.lookup_cons, hk'] using hfound)
      simp [hk, hrest]

/-- A change that makes nothing of the values of members keeps the members. -/
theorem modifyMember_id : modifyMember name id members = members := by
  induction members with
  | nil => rfl
  | cons member rest ih =>
    obtain ⟨key, old⟩ := member
    by_cases h : key = name <;> simp [h, ih]

/-- Writing a member twice leaves what is written last. -/
theorem insertMember_insertMember (old : Json) :
    insertMember name value (insertMember name old members) = insertMember name value members := by
  induction members with
  | nil => simp
  | cons member rest ih =>
    obtain ⟨key, first⟩ := member
    by_cases h : key = name
    · simp [h]
    · simp [h, ih]

/-- Writing a member undoes a change of it. -/
theorem insertMember_modifyMember_self :
    insertMember name value (modifyMember name change members) =
      insertMember name value members := by
  induction members with
  | nil => rfl
  | cons member rest ih =>
    obtain ⟨key, old⟩ := member
    by_cases h : key = name
    · simp [h]
    · simp [h, ih]

/-- A member can be written before or after another one is changed. -/
theorem insertMember_modifyMember_of_ne (hne : other ≠ name) :
    insertMember name value (modifyMember other change members) =
      modifyMember other change (insertMember name value members) := by
  induction members with
  | nil => simp [Ne.symm hne]
  | cons member rest ih =>
    obtain ⟨key, old⟩ := member
    by_cases h : key = name
    · subst h
      simp [Ne.symm hne]
    · by_cases h' : key = other
      · simp [h', hne]
      · simp [h, h', ih]

/-- Writing the value that a member has keeps the members. -/
theorem insertMember_of_lookup (h : members.lookup name = some value) :
    insertMember name value members = members := by
  induction members with
  | nil => simp at h
  | cons member rest ih =>
    obtain ⟨key, old⟩ := member
    by_cases hk : key = name
    · obtain rfl : old = value := by simpa [hk] using h
      simp [hk]
    · have hk' : (name == key) = false := by simpa using Ne.symm hk
      simp [hk, ih (by simpa [List.lookup_cons, hk'] using h)]

end Members

/-! ## Slots -/

/-- A part of a value: a member of an object or an item of an array. -/
inductive Slot where
  /-- The member with a name. -/
  | member (name : String)
  /-- The item at a position. -/
  | item (index : Nat)
  deriving DecidableEq, Repr

namespace Slot

/-- The value in a slot. -/
def get? : Slot → Json → Option Json
  | .member name, .object members => members.lookup name
  | .item index, .array items => items[index]?
  | _, _ => none

/-- A value with the value in a slot changed. -/
def modify (change : Json → Json) : Slot → Json → Json
  | .member name, .object members => .object (modifyMember name change members)
  | .item index, .array items => .array (items.modify index change)
  | _, value => value

variable {slot other : Slot} (change change' : Json → Json) (value : Json)

/-- The value in a slot that has been changed. -/
theorem get?_modify_self : slot.get? (slot.modify change value) = (slot.get? value).map change := by
  cases slot <;> cases value <;> simp [get?, modify, lookup_modifyMember_self]

/-- Changing a slot leaves the other slots as they are. -/
theorem get?_modify_of_ne (hne : other ≠ slot) :
    other.get? (slot.modify change value) = other.get? value := by
  cases slot <;> cases other <;> cases value <;> try rfl
  · exact lookup_modifyMember_of_ne _ _ (by simpa using hne)
  · exact List.getElem?_modify_ne _ _ (by simpa using Ne.symm hne)

/-- Two changes of one slot are one change. -/
theorem modify_modify :
    slot.modify change (slot.modify change' value) = slot.modify (change ∘ change') value := by
  cases slot <;> cases value <;>
    simp [modify, modifyMember_modifyMember, List.modify_modify_eq]

/-- Changes of two slots can be made in either order. -/
theorem modify_comm (hne : other ≠ slot) :
    slot.modify change (other.modify change' value) =
      other.modify change' (slot.modify change value) := by
  cases slot <;> cases other <;> cases value <;> try rfl
  · exact congrArg Json.object (modifyMember_comm _ _ _ (by simpa using hne))
  · exact congrArg Json.array (List.modify_modify_ne _ _ _ (by simpa using hne))

/-- A change of a slot only depends on what it makes of the value there. -/
theorem modify_congr {change change' : Json → Json} {value : Json}
    (h : ∀ old, slot.get? value = some old → change old = change' old) :
    slot.modify change value = slot.modify change' value := by
  cases slot <;> cases value <;> try rfl
  · exact congrArg Json.object (modifyMember_congr _ h)
  · rename_i index items
    refine congrArg Json.array (List.ext_getElem? fun k => ?_)
    simp only [List.getElem?_modify]
    cases hk : items[k]? with
    | none => rfl
    | some old =>
      by_cases hi : index = k
      · subst hi
        simp [h old hk]
      · simp [hi]

/-- A change that keeps the value in a slot keeps the value. -/
theorem modify_of_get? {change : Json → Json} {value : Json}
    (h : ∀ old, slot.get? value = some old → change old = old) :
    slot.modify change value = value := by
  rw [show slot.modify change value = slot.modify id value from modify_congr h]
  cases slot <;> cases value <;> simp [modify, modifyMember_id]

end Slot

/-! ## Chains of slots -/

/-- The value at the end of a chain of slots. -/
def follow? : List Slot → Json → Option Json
  | [], value => some value
  | slot :: rest, value => (slot.get? value).bind (follow? rest)

/-- A value with the value at the end of a chain of slots changed. -/
def modifyThrough (change : Json → Json) : List Slot → Json → Json
  | [], value => change value
  | slot :: rest, value => slot.modify (modifyThrough change rest) value

/-- An object with a member written. Other values stay as they are. -/
def setMember (name : String) (value : Json) : Json → Json
  | .object members => .object (insertMember name value members)
  | other => other

/-- A value with a member of the object at a place written. -/
def writeAt (place : List Slot) (name : String) (value : Json) : Json → Json :=
  modifyThrough (setMember name value) place

variable {place place' : List Slot} {name name' : String} {value value' : Json}

@[simp] theorem writeAt_nil (json : Json) :
    writeAt [] name value json = setMember name value json := rfl

@[simp] theorem writeAt_cons (slot : Slot) (json : Json) :
    writeAt (slot :: place) name value json = slot.modify (writeAt place name value) json := rfl

/-! ## Writes among themselves -/

/-- Writing a member twice leaves what is written last. -/
theorem setMember_setMember (json : Json) :
    setMember name value (setMember name value' json) = setMember name value json := by
  cases json <;> simp [setMember, insertMember_insertMember]

/-- Writing a member undoes a change of it. -/
theorem setMember_modify_self (change : Json → Json) (json : Json) :
    setMember name value ((Slot.member name).modify change json) = setMember name value json := by
  cases json <;> simp [setMember, Slot.modify, insertMember_modifyMember_self]

/-- A member can be written before or after another slot is changed. -/
theorem setMember_modify_of_ne {slot : Slot} (change : Json → Json) (json : Json)
    (hne : slot ≠ .member name) :
    setMember name value (slot.modify change json) =
      slot.modify change (setMember name value json) := by
  cases slot <;> cases json <;> try rfl
  exact congrArg Json.object (insertMember_modifyMember_of_ne _ _ (by simpa using hne))

/-- Writing at a place twice leaves what is written last. -/
theorem writeAt_writeAt (place : List Slot) (json : Json) :
    writeAt place name value (writeAt place name value' json) = writeAt place name value json := by
  induction place generalizing json with
  | nil => exact setMember_setMember json
  | cons slot rest ih =>
    simp only [writeAt_cons, Slot.modify_modify]
    exact Slot.modify_congr fun old _ => ih old

/-- Writing a member undoes a write below it. -/
theorem writeAt_of_below (json : Json) (hbelow : place ++ [Slot.member name] <+: place') :
    writeAt place name value (writeAt place' name' value' json) =
      writeAt place name value json := by
  obtain ⟨below, rfl⟩ := hbelow
  induction place generalizing json with
  | nil => exact setMember_modify_self _ json
  | cons slot rest ih =>
    simp only [List.cons_append, writeAt_cons, Slot.modify_modify]
    exact Slot.modify_congr fun old _ => ih old

/-- A write that is repeated after another write need not have been made before. The other one
does not lead through the member written, nor the other way round, and at one place both write
one member. -/
theorem writeAt_absorb (json : Json) (hname : place = place' → name = name')
    (hthrough : ¬ place ++ [Slot.member name] <+: place')
    (hthrough' : ¬ place' ++ [Slot.member name'] <+: place) :
    writeAt place name value (writeAt place' name' value' (writeAt place name value json)) =
      writeAt place name value (writeAt place' name' value' json) := by
  induction place generalizing place' json with
  | nil =>
    cases place' with
    | nil =>
      obtain rfl := hname rfl
      simp only [writeAt_nil, setMember_setMember]
    | cons slot' rest' =>
      have hne : slot' ≠ .member name := by
        rintro rfl
        exact hthrough (by simp)
      simp only [writeAt_nil, writeAt_cons, setMember_modify_of_ne _ _ hne, setMember_setMember]
  | cons slot rest ih =>
    cases place' with
    | nil =>
      have hne : slot ≠ .member name' := by
        rintro rfl
        exact hthrough' (by simp)
      simp only [writeAt_nil, setMember_modify_of_ne _ _ hne, writeAt_cons]
      exact writeAt_writeAt (slot :: rest) _
    | cons slot' rest' =>
      simp only [writeAt_cons]
      by_cases hslot : slot' = slot
      · subst hslot
        simp only [Slot.modify_modify]
        refine Slot.modify_congr fun old _ => ih old (fun h => hname (by rw [h])) ?_ ?_
        · exact fun h => hthrough (List.cons_prefix_cons.mpr ⟨rfl, h⟩)
        · exact fun h => hthrough' (List.cons_prefix_cons.mpr ⟨rfl, h⟩)
      · rw [Slot.modify_comm _ _ _ hslot, Slot.modify_comm _ _ json hslot]
        exact congrArg _ (writeAt_writeAt (slot :: rest) json)

/-! ## Reading after a write -/

/-- Whether a value is neither an object nor an array. -/
def isLeaf : Json → Bool
  | .object _ | .array _ => false
  | _ => true

theorem Slot.get?_of_isLeaf {slot : Slot} {json : Json} (hleaf : json.isLeaf) :
    slot.get? json = none := by
  cases slot <;> cases json <;> simp_all [Slot.get?, isLeaf]

/-- A write leaves a leaf as it is. -/
theorem writeAt_of_isLeaf {json : Json} (hleaf : json.isLeaf) :
    writeAt place name value json = json := by
  cases place with
  | nil => cases json <;> simp_all [setMember, isLeaf]
  | cons slot rest =>
    exact Slot.modify_of_get? fun old hold => by simp [Slot.get?_of_isLeaf hleaf] at hold

/-- Writing a member leaves the other slots as they are. -/
theorem get?_setMember_of_ne {slot : Slot} (json : Json) (hne : slot ≠ .member name) :
    slot.get? (setMember name value json) = slot.get? json := by
  cases slot <;> cases json <;> try rfl
  exact lookup_insertMember_of_ne _ _ (by simpa using hne)

/-- The member written has the value written. -/
theorem get?_setMember_self {json inner : Json}
    (h : (Slot.member name).get? (setMember name value json) = some inner) : inner = value := by
  cases json <;> simp_all [Slot.get?, setMember, lookup_insertMember_self]

/-- Reading what has been written at a place where there is an object. -/
theorem follow?_writeAt_self {json : Json} {members : List (String × Json)}
    (h : follow? place json = some (.object members)) :
    follow? (place ++ [Slot.member name]) (writeAt place name value json) = some value := by
  induction place generalizing json with
  | nil =>
    obtain rfl : json = .object members := Option.some.inj h
    simp [follow?, setMember, Slot.get?, lookup_insertMember_self]
  | cons slot rest ih =>
    obtain ⟨inner, hinner, hrest⟩ := Option.bind_eq_some_iff.mp h
    rw [List.cons_append, follow?, writeAt_cons, Slot.get?_modify_self, hinner, Option.map_some,
      Option.bind_some, ih hrest]

/-- A write leaves the leaves that it does not lead to. -/
theorem follow?_writeAt_of_isLeaf {chain : List Slot} {json leaf : Json} (hleaf : leaf.isLeaf)
    (h : follow? chain json = some leaf) (hthrough : ¬ place ++ [Slot.member name] <+: chain) :
    follow? chain (writeAt place name value json) = some leaf := by
  induction chain generalizing place json with
  | nil =>
    obtain rfl : json = leaf := Option.some.inj h
    rw [writeAt_of_isLeaf hleaf, follow?]
  | cons slot rest ih =>
    obtain ⟨inner, hinner, hrest⟩ := Option.bind_eq_some_iff.mp h
    cases place with
    | nil =>
      have hne : slot ≠ .member name := by
        rintro rfl
        exact hthrough (by simp)
      rw [writeAt_nil, follow?, get?_setMember_of_ne json hne, hinner, Option.bind_some, hrest]
    | cons slot' rest' =>
      rw [writeAt_cons, follow?]
      by_cases hslot : slot = slot'
      · subst hslot
        rw [Slot.get?_modify_self, hinner, Option.map_some, Option.bind_some]
        exact ih hrest fun h => hthrough (List.cons_prefix_cons.mpr ⟨rfl, h⟩)
      · rw [Slot.get?_modify_of_ne _ _ hslot, hinner, Option.bind_some, hrest]

/-- Writing the value that is there keeps the value. -/
theorem writeAt_of_follow? {json : Json}
    (h : follow? (place ++ [Slot.member name]) json = some value) :
    writeAt place name value json = json := by
  induction place generalizing json with
  | nil =>
    cases json with
    | object members =>
      have hlookup : members.lookup name = some value := by simpa [follow?, Slot.get?] using h
      exact congrArg Json.object (insertMember_of_lookup _ hlookup)
    | _ => rfl
  | cons slot rest ih =>
    obtain ⟨inner, hinner, hrest⟩ := Option.bind_eq_some_iff.mp h
    refine Slot.modify_of_get? fun old hold => ih ?_
    rwa [Option.some.inj (hold.symm.trans hinner)]

/-! ## Routes -/

/-- A step of a route. -/
inductive Step where
  /-- To the value that a step of a pointer leads to. -/
  | child (name : String)
  /-- To the first item of an array that is an object with the given name. -/
  | named (name : String)
  deriving DecidableEq, Repr

/-- The slot that a step leads to. -/
def Step.slot? : Step → Json → Option Slot
  | .child name, .object _ => some (.member name)
  | .child name, .array _ => (Pointer.index? name).map .item
  | .named name, .array items => (items.findIdx? (Conversion.isNamed name)).map .item
  | _, _ => none

/-- The place that a route leads to. It is an object. -/
def place? : List Step → Json → Option (List Slot)
  | [], .object _ => some []
  | [], _ => none
  | step :: rest, json => (step.slot? json).bind fun slot =>
    ((slot.get? json).bind (place? rest)).map (slot :: ·)

variable {route rest : List Step} {step : Step} {json : Json} {found : List Slot}

/-- The empty route stays at an object. -/
theorem place?_nil_eq_some : place? [] json = some found ↔ json.asObject?.isSome ∧ found = [] := by
  cases json <;> simp [place?, asObject?, eq_comm]

/-- A route with a first step leads into the slot that this step leads to. -/
theorem place?_cons_eq_some :
    place? (step :: rest) json = some found ↔ ∃ slot inner below, step.slot? json = some slot ∧
      slot.get? json = some inner ∧ place? rest inner = some below ∧ found = slot :: below := by
  simp only [place?, Option.bind_eq_some_iff, Option.map_eq_some_iff]
  constructor
  · rintro ⟨slot, hslot, below, ⟨inner, hinner, hbelow⟩, rfl⟩
    exact ⟨slot, inner, below, hslot, hinner, hbelow, rfl⟩
  · rintro ⟨slot, inner, below, hslot, hinner, hbelow, rfl⟩
    exact ⟨slot, hslot, below, ⟨inner, hinner, hbelow⟩, rfl⟩

/-- What a route leads to is an object. -/
theorem exists_follow?_of_place? (h : place? route json = some found) :
    ∃ members, follow? found json = some (.object members) := by
  induction route generalizing json found with
  | nil =>
    cases json with
    | object members => exact ⟨members, by simp_all [place?, follow?]⟩
    | _ => simp [place?] at h
  | cons step rest ih =>
    obtain ⟨slot, inner, below, -, hinner, hbelow, rfl⟩ := place?_cons_eq_some.mp h
    obtain ⟨members, hmembers⟩ := ih hbelow
    exact ⟨members, by rw [follow?, hinner, Option.bind_some, hmembers]⟩

/-- No route leads to a leaf. -/
theorem place?_of_isLeaf (hleaf : json.isLeaf) : place? route json = none := by
  cases route with
  | nil => cases json <;> simp_all [place?, isLeaf]
  | cons step rest =>
    refine Option.eq_none_iff_forall_ne_some.mpr fun found h => ?_
    obtain ⟨slot, inner, below, -, hinner, -⟩ := place?_cons_eq_some.mp h
    simp [Slot.get?_of_isLeaf hleaf] at hinner

/-! ## Routes after a write -/

/-- A write does not change what is a string. -/
theorem asString?_writeAt (json : Json) :
    (writeAt place name value json).asString? = json.asString? := by
  cases place with
  | nil => cases json <;> rfl
  | cons slot rest => cases slot <;> cases json <;> rfl

/-- A write does not change what is an object. -/
theorem isSome_asObject?_writeAt (json : Json) :
    (writeAt place name value json).asObject?.isSome = json.asObject?.isSome := by
  cases place with
  | nil => cases json <;> rfl
  | cons slot rest => cases slot <;> cases json <;> rfl

/-- A write does not change the name of an object. -/
theorem getString?_writeAt (json : Json) (hname : name ≠ "name") :
    (writeAt place name value json).getString? "name" = json.getString? "name" := by
  cases json with
  | object members =>
    rcases place with _ | ⟨key | index, rest⟩
    · simp only [writeAt_nil, setMember, getString?, get?,
        lookup_insertMember_of_ne _ _ (Ne.symm hname)]
    · by_cases hkey : "name" = key
      · subst hkey
        simp only [writeAt_cons, Slot.modify, getString?, get?, lookup_modifyMember_self,
          Option.bind_map, Function.comp_def, asString?_writeAt]
      · simp only [writeAt_cons, Slot.modify, getString?, get?,
          lookup_modifyMember_of_ne _ _ hkey]
    · rfl
  | _ => rcases place with _ | ⟨_ | _, rest⟩ <;> rfl

/-- The first item that a condition holds of is where it was after an item has been changed in a
way that the condition does not see. -/
theorem findIdx?_modify {condition : Json → Bool} {change : Json → Json}
    (h : ∀ item, condition (change item) = condition item) (items : List Json) (index : Nat) :
    (items.modify index change).findIdx? condition = items.findIdx? condition := by
  induction items generalizing index with
  | nil => simp
  | cons item rest ih =>
    cases index with
    | zero => simp [List.findIdx?_cons, h]
    | succ index => simp [List.findIdx?_cons, ih]

/-- A write does not change the slots that steps lead to. -/
theorem slot?_writeAt (step : Step) (json : Json) (hname : name ≠ "name") :
    step.slot? (writeAt place name value json) = step.slot? json := by
  cases json with
  | array items =>
    rcases place with _ | ⟨key | index, rest⟩
    · rfl
    · rfl
    · cases step with
      | child own => rfl
      | named own =>
        have hnamed (item : Json) : Conversion.isNamed own (writeAt rest name value item) =
            Conversion.isNamed own item := by
          simp only [Conversion.isNamed, isSome_asObject?_writeAt, getString?_writeAt _ hname]
        simp only [writeAt_cons, Slot.modify, Step.slot?, findIdx?_modify hnamed]
  | _ => rcases place with _ | ⟨_ | _, rest⟩ <;> cases step <;> rfl

/-- A leaf that is written ends the routes through it. -/
theorem place?_setMember_cons (step : Step) (rest : List Step) (json : Json) (hname : name ≠ "name")
    (hleaf : value.isLeaf) :
    place? (step :: rest) (setMember name value json) = some found ↔
      place? (step :: rest) json = some found ∧ ¬ [.member name] <+: found := by
  rw [place?_cons_eq_some, place?_cons_eq_some, ← writeAt_nil, slot?_writeAt step json hname,
    writeAt_nil]
  constructor
  · rintro ⟨slot, inner, below, hslot, hinner, hbelow, rfl⟩
    have hne : slot ≠ .member name := by
      rintro rfl
      rw [get?_setMember_self hinner, place?_of_isLeaf hleaf] at hbelow
      exact absurd hbelow nofun
    rw [get?_setMember_of_ne json hne] at hinner
    exact ⟨⟨slot, inner, below, hslot, hinner, hbelow, rfl⟩, by simp [Ne.symm hne]⟩
  · rintro ⟨⟨slot, inner, below, hslot, hinner, hbelow, rfl⟩, hthrough⟩
    have hne : slot ≠ .member name := by
      rintro rfl
      exact hthrough (by simp)
    exact ⟨slot, inner, below, hslot, (get?_setMember_of_ne json hne).trans hinner, hbelow, rfl⟩

/-- After a write of a leaf, a route leads where it led, unless it leads through the member
written. -/
theorem place?_writeAt (hname : name ≠ "name") (hleaf : value.isLeaf) :
    place? route (writeAt place name value json) = some found ↔
      place? route json = some found ∧ ¬ place ++ [Slot.member name] <+: found := by
  induction route generalizing place json found with
  | nil =>
    rw [place?_nil_eq_some, place?_nil_eq_some, isSome_asObject?_writeAt]
    refine (and_iff_left_of_imp ?_).symm
    rintro ⟨-, rfl⟩
    simp
  | cons step rest ih =>
    cases place with
    | nil => exact place?_setMember_cons step rest json hname hleaf
    | cons own place =>
      rw [place?_cons_eq_some, place?_cons_eq_some, slot?_writeAt step json hname]
      constructor
      · rintro ⟨slot, inner, below, hslot, hinner, hbelow, rfl⟩
        by_cases hown : slot = own
        · subst hown
          rw [writeAt_cons, Slot.get?_modify_self] at hinner
          obtain ⟨old, hold, rfl⟩ := Option.map_eq_some_iff.mp hinner
          obtain ⟨hbelow, hthrough⟩ := ih.mp hbelow
          exact ⟨⟨slot, old, below, hslot, hold, hbelow, rfl⟩, by simpa using hthrough⟩
        · rw [writeAt_cons, Slot.get?_modify_of_ne _ _ hown] at hinner
          exact ⟨⟨slot, inner, below, hslot, hinner, hbelow, rfl⟩, by simp [Ne.symm hown]⟩
      · rintro ⟨⟨slot, inner, below, hslot, hinner, hbelow, rfl⟩, hthrough⟩
        by_cases hown : slot = own
        · subst hown
          refine ⟨slot, writeAt place name value inner, below, hslot, ?_, ?_, rfl⟩
          · rw [writeAt_cons, Slot.get?_modify_self, hinner, Option.map_some]
          · exact ih.mpr ⟨hbelow, fun h => hthrough (List.cons_prefix_cons.mpr ⟨rfl, h⟩)⟩
        · exact ⟨slot, inner, below, hslot,
            (Slot.get?_modify_of_ne _ _ hown).trans hinner, hbelow, rfl⟩

end ClientGen.Json
