import Mathlib.Data.List.Induction
import ClientGen.Proofs.Conversion.Places
import ClientGen.Proofs.Conversion.Pointers

/-!
# Recovering a second time

What an older document says is written into the converted one, piece by piece. Doing so a second
time changes nothing any more. Whether the second time also reports nothing depends on the pieces:
each finds its parameter by name alone, and where two of them come to one object and say different
things of it, they overwrite each other every time, and both are reported.

## Main definitions

* `ClientGen.Conversion.Fix.place?` — the place in a document that a piece of information is
  written at.
* `ClientGen.Conversion.Fix.IsWritten` — a document that has a piece of information.
* `ClientGen.Conversion.Attempt` — how it turns out to write a member along a route.
* `ClientGen.Conversion.Consistent` — information of which no two pieces contradict each other.

## Main results

* `ClientGen.Conversion.attempt_apply` — what becomes of one piece of information.
* `ClientGen.Conversion.run_run` — writing everything twice is writing it once.
* `ClientGen.Conversion.recover_again` — the second recovery.

## Implementation notes

Two writes of different members of one object would leave the members in the order of the writes.
That does not arise, since the last step of a route determines the member that is written.
-/

set_option autoImplicit false

namespace ClientGen.Conversion

open Json

/-! ## Where a piece of information is written -/

/-- The name of the member that a piece of information is written as. -/
def Fix.member : Fix → String
  | .bodyRequired .. => "required"
  | .style .. => "style"

/-- The value that a piece of information is written as. -/
def Fix.value : Fix → Json
  | .bodyRequired _ required => .bool required
  | .style _ _ _ recovered => .string recovered.name

/-- The way from an operation to the object that a piece of information is about. -/
def Fix.inOperation : Fix → List Step
  | .bodyRequired .. => [.child "requestBody"]
  | .style _ name _ _ => [.child "parameters", .named name]

/-- The way from a document to the object that a piece of information is about. -/
def Fix.route (fix : Fix) : List Step :=
  ((Pointer.steps? (operationPointer fix.operation)).getD []).map .child ++ fix.inOperation

/-- The place of the object that a piece of information is about. -/
def Fix.place? (fix : Fix) (converted : Json) : Option (List Slot) :=
  Json.place? fix.route converted

/-- A document with a piece of information written into it. -/
def Fix.write (fix : Fix) (converted : Json) : Json :=
  match fix.place? converted with
  | none => converted
  | some place => writeAt place fix.member fix.value converted

/-- Whether a piece of information stands in a document, or has no place in it. -/
def Fix.IsWritten (fix : Fix) (converted : Json) : Prop :=
  ∀ place, fix.place? converted = some place →
    follow? (place ++ [.member fix.member]) converted = some fix.value

/-- Whether pieces of information that come to one object of a document say the same of it. -/
def Consistent (fixes : List Fix) (converted : Json) : Prop :=
  ∀ fix ∈ fixes, ∀ other ∈ fixes, ∀ place,
    fix.place? converted = some place → other.place? converted = some place →
      fix.value = other.value

/-! ## Attempts to write -/

/-- How it turns out to write a member along a route. -/
inductive Attempt (route : List Step) (name : String) (value before : Json) :
    Json × Bool → Prop where
  /-- The route leads nowhere. -/
  | lost (hplace : Json.place? route before = none) :
      Attempt route name value before (before, false)
  /-- The member has the value already. -/
  | kept (place : List Slot) (hplace : Json.place? route before = some place)
      (hvalue : follow? (place ++ [.member name]) before = some value) :
      Attempt route name value before (before, false)
  /-- The member is written. -/
  | written (place : List Slot) (hplace : Json.place? route before = some place)
      (hvalue : follow? (place ++ [.member name]) before ≠ some value) :
      Attempt route name value before (writeAt place name value before, true)

/-- A list in which no item is found stays as it is. -/
theorem changeFirst_of_findIdx?_none {condition : Json → Bool} {change : Json → Json × Bool}
    {items : List Json} (h : items.findIdx? condition = none) :
    changeFirst condition change items = (items, false) := by
  induction items with
  | nil => rfl
  | cons item rest ih =>
    obtain ⟨hitem, hrest⟩ : condition item = false ∧ ∀ other ∈ rest, condition other = false := by
      simpa using h
    simp [changeFirst, hitem, ih (List.findIdx?_eq_none_iff.mpr hrest)]

/-- The item that is found is changed. -/
theorem changeFirst_of_findIdx?_some {condition : Json → Bool} {change : Json → Json × Bool}
    {items : List Json} {index : Nat} {item : Json} (h : items.findIdx? condition = some index)
    (hitem : items[index]? = some item) :
    changeFirst condition change items =
      (items.modify index (fun _ => (change item).1), (change item).2) := by
  induction items generalizing index with
  | nil => simp at hitem
  | cons first rest ih =>
    by_cases hfirst : condition first = true
    · obtain rfl : 0 = index := by simpa [List.findIdx?_cons, hfirst] using h
      obtain rfl : first = item := by simpa using hitem
      simp [changeFirst, hfirst]
    · obtain ⟨below, hbelow, rfl⟩ : ∃ below, rest.findIdx? condition = some below ∧
          below + 1 = index := by
        simpa [List.findIdx?_cons, hfirst] using h
      simp [changeFirst, hfirst, ih hbelow (by simpa using hitem)]

/-- A step of a pointer leads to the value in its slot. -/
theorem child?_eq (json : Json) (key : String) :
    json.child? key = ((Step.child key).slot? json).bind (·.get? json) := by
  cases json with
  | array items => cases h : Pointer.index? key <;> simp [child?, Step.slot?, Slot.get?, h]
  | _ => rfl

/-- Changing the value that a step of a pointer leads to. -/
theorem modifyChild_eq {json : Json} {key : String} {slot : Slot} (change : Json → Json)
    (h : (Step.child key).slot? json = some slot) :
    json.modifyChild key change = slot.modify change json := by
  cases json with
  | object members =>
    obtain rfl : Slot.member key = slot := Option.some.inj h
    rfl
  | array items =>
    obtain ⟨index, hindex, rfl⟩ := Option.map_eq_some_iff.mp h
    simp [modifyChild, hindex, Slot.modify]
  | _ => simp [Step.slot?] at h

namespace Attempt

variable {route : List Step} {name : String} {value before after inner inner' : Json}
  {changed : Bool} {first : Step} {slot : Slot} {key : String}

/-- What has not been changed is as it was. -/
theorem eq_of_unchanged (h : Attempt route name value before (after, false)) : after = before := by
  cases h <;> rfl

/-- Writing a member of the object itself. -/
theorem of_writeMember {isKept : Json → Bool} (hkept : ∀ old, isKept old = true ↔ old = value)
    (object : Json) : Attempt [] name value object (writeMember name value isKept object) := by
  cases object with
  | object members =>
    have hfollow : follow? ([] ++ [Slot.member name]) (.object members) = members.lookup name := by
      simp [follow?, Slot.get?]
    have hany : (members.lookup name).any isKept = true ↔ members.lookup name = some value := by
      simp [Option.any_eq_true, hkept]
    rw [writeMember]
    split
    · exact .kept [] rfl (hfollow.trans (hany.mp ‹_›))
    · exact .written [] rfl (hfollow ▸ mt hany.mpr ‹_›)
  | _ => exact .lost rfl

/-- A first step that leads nowhere. -/
theorem lost_of_slot? (h : ∀ slot, first.slot? before = some slot → slot.get? before = none) :
    Attempt (first :: route) name value before (before, false) := by
  refine .lost (Option.eq_none_iff_forall_ne_some.mpr fun found hfound => ?_)
  obtain ⟨slot, inner, below, hslot, hinner, -⟩ := place?_cons_eq_some.mp hfound
  simp [h slot hslot] at hinner

/-- A first step, and what is attempted from there. -/
theorem through (hslot : first.slot? before = some slot) (hinner : slot.get? before = some inner)
    (h : Attempt route name value inner (inner', changed)) :
    Attempt (first :: route) name value before (slot.modify (fun _ => inner') before, changed) := by
  have hsame : slot.modify (fun _ => inner) before = before :=
    Slot.modify_of_get? fun old hold => Option.some.inj (hinner.symm.trans hold)
  have hplace : Json.place? (first :: route) before =
      (Json.place? route inner).map (slot :: ·) := by
    rw [Json.place?, hslot, Option.bind_some, hinner, Option.bind_some]
  have hfollow (place : List Slot) : follow? (slot :: place) before = follow? place inner := by
    rw [follow?, hinner, Option.bind_some]
  cases h with
  | lost hnone =>
    rw [hsame]
    exact .lost (by rw [hplace, hnone, Option.map_none])
  | kept place hsome hvalue =>
    rw [hsame]
    exact .kept (slot :: place) (by rw [hplace, hsome, Option.map_some])
      ((hfollow _).trans hvalue)
  | written place hsome hvalue =>
    have hwrite : slot.modify (fun _ => writeAt place name value inner) before =
        writeAt (slot :: place) name value before :=
      Slot.modify_congr fun old hold =>
        congrArg (writeAt place name value) (Option.some.inj (hinner.symm.trans hold))
    rw [hwrite]
    exact .written (slot :: place) (by rw [hplace, hsome, Option.map_some])
      (by rw [List.cons_append, hfollow]; exact hvalue)

/-- A first step to the member of an object. -/
theorem through_get? (hinner : before.get? key = some inner)
    (h : Attempt route name value inner (inner', changed)) :
    Attempt (.child key :: route) name value before
      (before.modifyChild key (fun _ => inner'), changed) := by
  cases before with
  | object members =>
    have hslot : (Step.child key).slot? (.object members) = some (.member key) := rfl
    exact through hslot hinner h
  | _ => simp [get?] at hinner

/-- A first step to a member that is not there. The name does not count as a position. -/
theorem lost_of_get? (hindex : Pointer.index? key = none) (hinner : before.get? key = none) :
    Attempt (.child key :: route) name value before (before, false) := by
  refine lost_of_slot? fun slot hslot => ?_
  cases before with
  | object members =>
    obtain rfl : Slot.member key = slot := Option.some.inj hslot
    exact hinner
  | array items => simp [Step.slot?, hindex] at hslot
  | _ => simp [Step.slot?] at hslot

/-- A first step to the item with a name. -/
theorem through_changeFirst (own : String) (items : List Json) {change : Json → Json × Bool}
    (h : ∀ item, Attempt route name value item (change item)) :
    Attempt (.named own :: route) name value (.array items)
      (.array (changeFirst (isNamed own) change items).1,
        (changeFirst (isNamed own) change items).2) := by
  cases hfind : items.findIdx? (isNamed own) with
  | none =>
    rw [changeFirst_of_findIdx?_none hfind]
    exact lost_of_slot? fun slot hslot => by simp [Step.slot?, hfind] at hslot
  | some index =>
    obtain ⟨item, hitem⟩ : ∃ item, items[index]? = some item := by
      obtain ⟨hlt, -⟩ := List.findIdx?_eq_some_iff_getElem.mp hfind
      exact ⟨items[index], List.getElem?_eq_getElem hlt⟩
    rw [changeFirst_of_findIdx?_some hfind hitem]
    have hslot : (Step.named own).slot? (.array items) = some (.item index) := by
      simp [Step.slot?, hfind]
    exact through hslot hitem (h item)

/-- Steps of a pointer, and what is attempted from there. -/
theorem through_at? {steps : List String} (hinner : before.at? steps = some inner)
    (h : Attempt route name value inner (inner', changed)) :
    Attempt (steps.map .child ++ route) name value before
      (before.modifyAt (fun _ => inner') steps, changed) := by
  induction steps generalizing before with
  | nil =>
    obtain rfl : before = inner := Option.some.inj hinner
    exact h
  | cons key rest ih =>
    obtain ⟨next, hnext, hrest⟩ := Option.bind_eq_some_iff.mp hinner
    rw [child?_eq] at hnext
    obtain ⟨slot, hslot, hget⟩ := Option.bind_eq_some_iff.mp hnext
    have hmodify : before.modifyAt (fun _ => inner') (key :: rest) =
        slot.modify (fun _ => next.modifyAt (fun _ => inner') rest) before := by
      rw [Json.modifyAt, modifyChild_eq _ hslot]
      exact Slot.modify_congr fun old hold =>
        congrArg (modifyAt _ rest) (Option.some.inj (hold.symm.trans hget))
    rw [hmodify]
    exact through hslot hget (ih hrest)

/-- Steps of a pointer that lead nowhere. -/
theorem lost_of_at? {steps : List String} (h : before.at? steps = none) :
    Attempt (steps.map .child ++ route) name value before (before, false) := by
  refine .lost ?_
  induction steps generalizing before with
  | nil => exact absurd h (Option.some_ne_none before)
  | cons key rest ih =>
    refine Option.eq_none_iff_forall_ne_some.mpr fun found hfound => ?_
    obtain ⟨slot, next, below, hslot, hnext, hbelow, -⟩ := place?_cons_eq_some.mp hfound
    have hchild : before.child? key = some next := by
      rw [child?_eq, hslot, Option.bind_some, hnext]
    have hrest : next.at? rest = none := by
      rwa [Json.at?, hchild, Option.bind_some] at h
    exact Option.some_ne_none below (hbelow.symm.trans (ih hrest))

end Attempt

variable (fix : Fix) (converted : Json)

/-- What becomes of a piece of information in the operation that it is about. -/
theorem attempt_applyToOperation (operation : Json) :
    Attempt fix.inOperation fix.member fix.value operation (applyToOperation fix operation) := by
  cases fix with
  | bodyRequired subject required =>
    have hkept (old : Json) : decide (old.asBool? = some required) = true ↔
        old = .bool required := by
      cases old <;> simp [asBool?]
    cases hbody : operation.get? "requestBody" with
    | none =>
      simp only [applyToOperation, hbody]
      exact Attempt.lost_of_get? (by decide) hbody
    | some body =>
      simp only [applyToOperation, hbody]
      exact Attempt.through_get? hbody (Attempt.of_writeMember hkept body)
  | style subject name format recovered =>
    have hkept (old : Json) : decide (old.asString? = some recovered.name) = true ↔
        old = .string recovered.name := by
      cases old <;> simp [asString?]
    cases hparameters : operation.get? "parameters" with
    | none =>
      simp only [applyToOperation, hparameters, Option.bind_none]
      exact Attempt.lost_of_get? (by decide) hparameters
    | some parameters =>
      cases hitems : parameters.asArray? with
      | none =>
        have hslot (slot : Slot) : (Step.named name).slot? parameters = some slot →
            slot.get? parameters = none := by
          cases parameters <;> simp_all [asArray?, Step.slot?]
        have hinner : Attempt [.named name] "style" (.string recovered.name) parameters
            (parameters, false) := Attempt.lost_of_slot? hslot
        have h := Attempt.through_get? hparameters hinner
        rw [h.eq_of_unchanged] at h
        simp only [applyToOperation, hparameters, Option.bind_some, hitems]
        exact h
      | some items =>
        obtain rfl : parameters = .array items := by
          cases parameters <;> simp_all [asArray?]
        simp only [applyToOperation, hparameters, Option.bind_some, hitems]
        exact Attempt.through_get? hparameters
          (Attempt.through_changeFirst name items (Attempt.of_writeMember hkept))

/-- What becomes of a piece of information. -/
theorem attempt_apply :
    Attempt fix.route fix.member fix.value converted (apply converted fix) := by
  obtain ⟨steps, hsteps⟩ : ∃ steps, Pointer.steps? (operationPointer fix.operation) = some steps :=
    ⟨_, steps?_operationPointer fix.operation⟩
  have hroute : fix.route = steps.map .child ++ fix.inOperation := by
    rw [Fix.route, hsteps, Option.getD_some]
  rw [hroute, apply]
  simp only [hsteps, pointer?, Option.bind_some]
  cases hop : converted.at? steps with
  | none => exact Attempt.lost_of_at? hop
  | some operation =>
    have hinner := attempt_applyToOperation fix operation
    simp only
    generalize applyToOperation fix operation = result at hinner ⊢
    obtain ⟨operation', changed⟩ := result
    have h := Attempt.through_at? hop hinner
    cases changed with
    | true => exact h
    | false =>
      rwa [h.eq_of_unchanged] at h

/-- A document after a piece of information. -/
theorem apply_fst : (apply converted fix).1 = fix.write converted := by
  have h := attempt_apply fix converted
  rw [Fix.write, Fix.place?]
  generalize apply converted fix = result at h ⊢
  cases h with
  | lost hplace => rw [hplace]
  | kept place hplace hvalue => simp only [hplace, writeAt_of_follow? hvalue]
  | written place hplace hvalue => rw [hplace]

/-- A piece of information is passed over if the document has it, or no place for it. -/
theorem apply_snd : (apply converted fix).2 = false ↔ fix.IsWritten converted := by
  have h := attempt_apply fix converted
  rw [Fix.IsWritten, Fix.place?]
  generalize apply converted fix = result at h ⊢
  cases h with
  | lost hplace => simp [hplace]
  | kept place hplace hvalue => simp [hplace, hvalue]
  | written place hplace hvalue => simp [hplace, hvalue]

/-! ## What a piece of information is written as -/

theorem Fix.member_ne_name : fix.member ≠ "name" := by
  cases fix <;> simp [Fix.member]

theorem Fix.isLeaf_value : fix.value.isLeaf := by
  cases fix <;> rfl

variable {fix converted} {other : Fix} {place : List Slot}

/-- The last slot of a place is the one that the last step of the route leads to. -/
theorem exists_slot?_of_place?_concat {route : List Step} {last : Step} {json : Json}
    (h : Json.place? (route ++ [last]) json = some place) :
    ∃ init slot inner, place = init ++ [slot] ∧ last.slot? inner = some slot := by
  induction route generalizing json place with
  | nil =>
    obtain ⟨slot, inner, below, hslot, hinner, hbelow, rfl⟩ := place?_cons_eq_some.mp h
    obtain ⟨-, rfl⟩ := place?_nil_eq_some.mp hbelow
    exact ⟨[], slot, json, rfl, hslot⟩
  | cons step rest ih =>
    obtain ⟨slot, inner, below, hslot, hinner, hbelow, rfl⟩ := place?_cons_eq_some.mp h
    obtain ⟨init, slot', inner', rfl, hslot'⟩ := ih hbelow
    exact ⟨slot :: init, slot', inner', rfl, hslot'⟩

/-- A piece of information is about a body if its place is the member of that name, and about a
parameter if its place is an item. -/
theorem Fix.exists_last (h : fix.place? converted = some place) :
    (fix.member = "required" ∧ place.getLast? = some (.member "requestBody")) ∨
      (fix.member = "style" ∧ ∃ index, place.getLast? = some (.item index)) := by
  cases fix with
  | bodyRequired subject required =>
    obtain ⟨init, slot, inner, rfl, hslot⟩ := exists_slot?_of_place?_concat h
    have hindex : Pointer.index? "requestBody" = none := by decide
    refine .inl ⟨rfl, ?_⟩
    cases inner <;> simp_all [Step.slot?]
  | style subject name format recovered =>
    rw [Fix.place?, Fix.route, Fix.inOperation, List.append_cons] at h
    obtain ⟨init, slot, inner, rfl, hslot⟩ := exists_slot?_of_place?_concat h
    refine .inr ⟨rfl, ?_⟩
    cases inner with
    | array items =>
      obtain ⟨index, -, rfl⟩ := Option.map_eq_some_iff.mp hslot
      exact ⟨index, by simp⟩
    | _ => simp [Step.slot?] at hslot

/-- Pieces of information that come to one object write the same member of it. -/
theorem Fix.member_eq (h : fix.place? converted = some place)
    (h' : other.place? converted = some place) : fix.member = other.member := by
  rcases Fix.exists_last h with ⟨hm, hl⟩ | ⟨hm, index, hl⟩ <;>
    rcases Fix.exists_last h' with ⟨hm', hl'⟩ | ⟨hm', index', hl'⟩
  · rw [hm, hm']
  · exact absurd (hl.symm.trans hl') (by simp)
  · exact absurd (hl.symm.trans hl') (by simp)
  · rw [hm, hm']

/-! ## Writing one piece after another -/

theorem Fix.write_of_place?_none (h : fix.place? converted = none) :
    fix.write converted = converted := by
  rw [Fix.write, h]

theorem Fix.write_of_place? (h : fix.place? converted = some place) :
    fix.write converted = writeAt place fix.member fix.value converted := by
  rw [Fix.write, h]

/-- A document that has a piece of information stays as it is when it is written. -/
theorem Fix.IsWritten.write_eq (h : fix.IsWritten converted) : fix.write converted = converted := by
  cases hplace : fix.place? converted with
  | none => exact Fix.write_of_place?_none hplace
  | some place => rw [Fix.write_of_place? hplace, writeAt_of_follow? (h place hplace)]

/-- After another piece of information has been written, a place is where it was, unless the other
one has been written over the way to it. -/
theorem Fix.place?_write (hother : other.place? converted = some place) {found : List Slot} :
    fix.place? (other.write converted) = some found ↔
      fix.place? converted = some found ∧ ¬ place ++ [Slot.member other.member] <+: found := by
  rw [Fix.write_of_place? hother]
  exact place?_writeAt other.member_ne_name other.isLeaf_value

/-- No place lies below a member of the object at it. -/
theorem not_below_member {slot : Slot} {found : List Slot} (h : found <+: place) :
    ¬ place ++ [slot] <+: found := fun h' => by
  have hlength := (h'.trans h).length_le
  rw [List.length_append, List.length_singleton] at hlength
  omega

/-- A place is where it was after what is written there. -/
theorem Fix.place?_write_self (h : fix.place? converted = some place) :
    fix.place? (fix.write converted) = some place :=
  (Fix.place?_write h).mpr ⟨h, not_below_member (List.prefix_refl _)⟩

/-- Writing a piece of information twice is writing it once. -/
theorem Fix.write_write : fix.write (fix.write converted) = fix.write converted := by
  cases hplace : fix.place? converted with
  | none => rw [Fix.write_of_place?_none hplace, Fix.write_of_place?_none hplace]
  | some place =>
    rw [Fix.write_of_place? (Fix.place?_write_self hplace), Fix.write_of_place? hplace,
      writeAt_writeAt]

/-- A piece of information that is written again after another one need not have been written
before. -/
theorem Fix.write_absorb :
    fix.write (other.write (fix.write converted)) = fix.write (other.write converted) := by
  cases hplace : fix.place? converted with
  | none => rw [Fix.write_of_place?_none hplace]
  | some place =>
    -- Either the other place is lost after the first write, or it is where it was.
    have hlost (h : ∀ found, other.place? (fix.write converted) ≠ some found) :
        other.write (fix.write converted) = fix.write converted :=
      Fix.write_of_place?_none (Option.eq_none_iff_forall_ne_some.mpr h)
    cases hother : other.place? converted with
    | none =>
      rw [hlost fun found h => ?_, Fix.write_of_place?_none hother, Fix.write_write]
      simp [(Fix.place?_write hplace).mp h] at hother
    | some place' =>
      by_cases hthrough : place ++ [Slot.member fix.member] <+: place'
      · have hkept : fix.place? (other.write converted) = some place :=
          (Fix.place?_write hother).mpr ⟨hplace, not_below_member
            ((List.prefix_append _ _).trans hthrough)⟩
        rw [hlost fun found h => ?_, Fix.write_write, Fix.write_of_place? hkept,
          Fix.write_of_place? hother, writeAt_of_below _ hthrough, Fix.write_of_place? hplace]
        obtain ⟨hfound, hnot⟩ := (Fix.place?_write hplace).mp h
        exact hnot (Option.some.inj (hother.symm.trans hfound) ▸ hthrough)
      · have hother' : other.place? (fix.write converted) = some place' :=
          (Fix.place?_write hplace).mpr ⟨hother, hthrough⟩
        by_cases hthrough' : place' ++ [Slot.member other.member] <+: place
        · rw [Fix.write_of_place? hother', Fix.write_of_place? hplace,
            writeAt_of_below _ hthrough', Fix.write_of_place? hother]
        · have hkept : fix.place? (other.write converted) = some place :=
            (Fix.place?_write hother).mpr ⟨hplace, hthrough'⟩
          have hkept' : fix.place? (other.write (fix.write converted)) = some place :=
            (Fix.place?_write hother').mpr ⟨Fix.place?_write_self hplace, hthrough'⟩
          have hmember (h : place = place') : fix.member = other.member :=
            Fix.member_eq hplace (h ▸ hother)
          rw [Fix.write_of_place? hkept', Fix.write_of_place? hother', Fix.write_of_place? hplace,
            Fix.write_of_place? hkept, Fix.write_of_place? hother,
            writeAt_absorb _ hmember hthrough hthrough']

/-! ## Writing all of them -/

/-- A document with pieces of information written into it one after the other. -/
def run (fixes : List Fix) (converted : Json) : Json :=
  fixes.foldl (fun converted fix => fix.write converted) converted

variable {fixes first : List Fix}

@[simp] theorem run_nil : run [] converted = converted := rfl

@[simp] theorem run_cons : run (fix :: fixes) converted = run fixes (fix.write converted) :=
  List.foldl_cons ..

theorem run_append : run (first ++ fixes) converted = run fixes (run first converted) :=
  List.foldl_append

/-- A piece of information that is written again after others need not have been written
before. -/
theorem write_run_write (fix : Fix) (fixes : List Fix) (converted : Json) :
    fix.write (run fixes (fix.write converted)) = fix.write (run fixes converted) := by
  induction fixes generalizing converted with
  | nil => rw [run_nil, run_nil, Fix.write_write]
  | cons other rest ih =>
    rw [run_cons, run_cons]
    calc fix.write (run rest (other.write (fix.write converted)))
        = fix.write (run rest (fix.write (other.write (fix.write converted)))) := (ih _).symm
      _ = fix.write (run rest (fix.write (other.write converted))) := by rw [Fix.write_absorb]
      _ = fix.write (run rest (other.write converted)) := ih _

/-- A piece of information that is among others need not be written before them. -/
theorem run_write (h : fix ∈ fixes) : run fixes (fix.write converted) = run fixes converted := by
  obtain ⟨before, after, rfl⟩ := List.append_of_mem h
  simp only [run_append, run_cons, write_run_write]

/-- Writing all pieces of information twice is writing them once. -/
theorem run_run : run fixes (run fixes converted) = run fixes converted := by
  suffices h : ∀ first : List Fix, (∀ fix ∈ first, fix ∈ fixes) →
      run fixes (run first converted) = run fixes converted from h fixes fun _ h => h
  intro first hfirst
  induction first generalizing converted with
  | nil => rfl
  | cons fix rest ih =>
    rw [run_cons, ih fun other h => hfirst other (List.mem_cons_of_mem _ h),
      run_write (hfirst fix List.mem_cons_self)]

/-- The document after all pieces of information. -/
theorem applyAll_snd : (applyAll fixes converted).2 = run fixes converted := by
  induction fixes generalizing converted with
  | nil => rfl
  | cons fix rest ih => simp only [applyAll, ih, apply_fst, run_cons]

/-- Nothing is reported exactly if the document has all pieces of information. -/
theorem applyAll_fst_eq_nil :
    (applyAll fixes converted).1 = [] ↔ ∀ fix ∈ fixes, fix.IsWritten converted := by
  induction fixes generalizing converted with
  | nil => simp [applyAll]
  | cons fix rest ih =>
    have hsnd := apply_snd fix converted
    simp only [applyAll, apply_fst, List.forall_mem_cons]
    cases hchanged : (apply converted fix).2 with
    | true => simp [← hsnd, hchanged]
    | false =>
      have hwritten : fix.IsWritten converted := hsnd.mp hchanged
      simp [hwritten, hwritten.write_eq, ih]

/-! ## Recovering a second time -/

/-- In a document with all pieces of information written into it, each object that one of them
comes to has what one of them says of it. -/
theorem exists_written (hmem : fix ∈ fixes)
    (hplace : fix.place? (run fixes converted) = some place) :
    ∃ other ∈ fixes, other.place? (run fixes converted) = some place ∧
      follow? (place ++ [Slot.member other.member]) (run fixes converted) = some other.value := by
  -- The last piece that comes to the object has the last word, so the list is taken from its end.
  induction fixes using List.reverseRecOn generalizing fix with
  | nil => exact absurd hmem List.not_mem_nil
  | append_singleton fixes last ih =>
    rw [run_append, run_cons, run_nil] at hplace ⊢
    have hfixes (h : fix ≠ last) : fix ∈ fixes :=
      (List.mem_append.mp hmem).resolve_right fun hlast => h (List.mem_singleton.mp hlast)
    cases hlast : last.place? (run fixes converted) with
    | none =>
      rw [Fix.write_of_place?_none hlast] at hplace ⊢
      have hne : fix ≠ last := by
        rintro rfl
        exact absurd (hlast.symm.trans hplace) nofun
      obtain ⟨other, hother, h⟩ := ih (hfixes hne) hplace
      exact ⟨other, List.mem_append_left _ hother, h⟩
    | some place' =>
      by_cases hsame : place' = place
      · subst hsame
        obtain ⟨members, hmembers⟩ := exists_follow?_of_place? hlast
        refine ⟨last, by simp, Fix.place?_write_self hlast, ?_⟩
        rw [Fix.write_of_place? hlast]
        exact follow?_writeAt_self hmembers
      · obtain ⟨hbefore, hthrough⟩ := (Fix.place?_write hlast).mp hplace
        have hne : fix ≠ last := by
          rintro rfl
          exact hsame (Option.some.inj (hlast.symm.trans hbefore))
        obtain ⟨other, hother, hplace', hvalue⟩ := ih (hfixes hne) hbefore
        refine ⟨other, List.mem_append_left _ hother,
          (Fix.place?_write hlast).mpr ⟨hplace', hthrough⟩, ?_⟩
        rw [Fix.write_of_place? hlast]
        refine follow?_writeAt_of_isLeaf other.isLeaf_value hvalue fun h => ?_
        rcases List.prefix_concat_iff.mp h with heq | hbelow
        · exact hsame (List.append_inj_left' heq rfl)
        · exact hthrough hbelow

/-- A document with all pieces of information written into it has all of them exactly if no two
contradict each other. -/
theorem forall_isWritten_run_iff :
    (∀ fix ∈ fixes, fix.IsWritten (run fixes converted)) ↔
      Consistent fixes (run fixes converted) := by
  constructor
  · intro h fix hfix other hother place hplace hplace'
    have hvalue := h fix hfix place hplace
    rw [Fix.member_eq hplace hplace'] at hvalue
    exact Option.some.inj (hvalue.symm.trans (h other hother place hplace'))
  · intro h fix hfix place hplace
    obtain ⟨other, hother, hplace', hvalue⟩ := exists_written hfix hplace
    rw [Fix.member_eq hplace hplace', h fix hfix other hother place hplace hplace', hvalue]

/-- Recovering a second time changes nothing. It reports nothing either exactly if no two pieces
of information that come to one object of the document contradict each other. -/
theorem recover_again (older converted : Json) :
    (recover older (recover older converted).2).2 = (recover older converted).2 ∧
      ((recover older (recover older converted).2).1 = [] ↔
        Consistent (fixesOf older) (recover older converted).2) := by
  simp only [recover, applyAll_snd, applyAll_fst_eq_nil]
  exact ⟨run_run, forall_isWritten_run_iff⟩

/-! ### A sample -/

/-- An operation with two parameters of one name, as a document that has only this operation. -/
def twoNamedIds (first second : List (String × Json)) : Json :=
  .object [("paths", .object [("/items", .object [("get", .object [
    ("operationId", .string "all"),
    ("parameters", .array [
      .object ([("name", .string "ids"), ("in", .string "query")] ++ first),
      .object ([("name", .string "ids"), ("in", .string "header")] ++ second)])])])])]

/-- The older sample document, which states a format of each parameter. -/
def olderIds : Json :=
  twoNamedIds [("collectionFormat", .string "csv")] [("collectionFormat", .string "pipes")]

/-- What is reported of the sample documents, each time. -/
theorem recover_olderIds_fst :
    (recover olderIds (twoNamedIds [] [])).1 =
        ["/items::all ids 'csv' -> 'simple'", "/items::all ids 'pipes' -> 'pipeDelimited'"] ∧
      (recover olderIds (recover olderIds (twoNamedIds [] [])).2).1 =
        (recover olderIds (twoNamedIds [] [])).1 := by
  decide

/-- Both formats of the sample are written into the first of its parameters, and are reported
again the second time, although the document does not change. -/
theorem recover_again_olderIds :
    (recover olderIds (recover olderIds (twoNamedIds [] [])).2).2 =
        (recover olderIds (twoNamedIds [] [])).2 ∧
      ¬Consistent (fixesOf olderIds) (recover olderIds (twoNamedIds [] [])).2 := by
  obtain ⟨hsame, hreported⟩ := recover_again olderIds (twoNamedIds [] [])
  obtain ⟨hfirst, hsecond⟩ := recover_olderIds_fst
  refine ⟨hsame, fun hconsistent => ?_⟩
  rw [hreported.mpr hconsistent, hfirst] at hsecond
  exact absurd hsecond nofun

end ClientGen.Conversion
