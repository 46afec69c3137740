import ClientGen.Proofs.Conversion.Styles

/-!
# What recovering leaves as it is

Recovering writes members of objects, one for each line that it reports. The members are styles of
parameters, and whether a body is required, of the values that an operation of the older document
points at. Outside of these members the converted document keeps its values. Arrays keep their
items, and objects keep their members in order; a member that is new comes last.

A write may end the way to a place, where it overwrites what lay on it, but it never opens a new
one. So it can be told from the document at the start which members are open to be written.

## Main definitions

* `ClientGen.Json.Write`, `ClientGen.Json.Performs` — writes of members, and a document after some
  of them.
* `ClientGen.Json.SameForm` — values that are the same but for what is inside them, and for members
  that are new.
* `ClientGen.Conversion.PointsAt` — the values that an older document points at.
* `ClientGen.Conversion.IsOpen` — the members that are open to be written.

## Main results

* `ClientGen.Json.rel_follow?_writeAt`, `ClientGen.Json.Performs.rel_follow?` — what one write, and
  what a run of writes, keeps of the parts that it does not overwrite.
* `ClientGen.Conversion.exists_performs` — recovering is a run of writes, one for each line.
* `ClientGen.Conversion.recover_frame` — what recovering leaves as it is.
-/

set_option autoImplicit false

namespace ClientGen

namespace Json

/-! ## The form of a value -/

/-- The second value is the first one, but for what is inside its members and items, and for members
that are new, which come last. -/
inductive SameForm (isNew : String → Prop) : Json → Json → Prop
  /-- A value without an inside. -/
  | leaf {json : Json} : json.isLeaf = true → SameForm isNew json json
  /-- An array with as many items. -/
  | array {items items' : List Json} : items'.length = items.length →
      SameForm isNew (.array items) (.array items')
  /-- An object with the same names in order, and with new ones after them. -/
  | object {members members' : List (String × Json)} (added : List String) :
      members'.map (·.1) = members.map (·.1) ++ added →
      (∀ name ∈ added, isNew name ∧ name ∉ members.map (·.1)) →
      SameForm isNew (.object members) (.object members')

namespace SameForm

variable {isNew : String → Prop} {first second third : Json}

/-- A value has its own form. -/
lemma refl (json : Json) : SameForm isNew json json := by
  cases json with
  | array items => exact .array rfl
  | object members => exact .object [] (List.append_nil _).symm fun _ h => absurd h List.not_mem_nil
  | _ => exact .leaf rfl

/-- Forms are kept one after the other. -/
lemma trans (h₁ : SameForm isNew first second) (h₂ : SameForm isNew second third) :
    SameForm isNew first third := by
  cases h₁ with
  | leaf _ => exact h₂
  | array hlength =>
    cases h₂ with
    | leaf hleaf => exact absurd hleaf Bool.noConfusion
    | array hlength' => exact .array (hlength'.trans hlength)
  | object added hnames hadded =>
    cases h₂ with
    | leaf hleaf => exact absurd hleaf Bool.noConfusion
    | object added' hnames' hadded' =>
      refine .object (added ++ added') (by rw [hnames', hnames, List.append_assoc]) ?_
      intro name hname
      rcases List.mem_append.mp hname with hold | hlate
      · exact hadded name hold
      · obtain ⟨hnew, hnot⟩ := hadded' name hlate
        rw [hnames] at hnot
        exact ⟨hnew, fun hc => hnot (List.mem_append_left _ hc)⟩

/-- A part that may be missing has its own form. -/
lemma rel_refl (found : Option Json) : Option.Rel (SameForm isNew) found found := by
  cases found with
  | none => exact .none
  | some json => exact .some (refl json)

/-- Forms of parts that may be missing are kept one after the other. -/
lemma rel_trans {first second third : Option Json}
    (h₁ : Option.Rel (SameForm isNew) first second)
    (h₂ : Option.Rel (SameForm isNew) second third) :
    Option.Rel (SameForm isNew) first third := by
  cases h₁ with
  | none => exact h₂
  | some h =>
    cases h₂ with
    | some h' => exact .some (h.trans h')

end SameForm

/-! ## One write -/

variable {place chain : List Slot} {name : String} {value json : Json} {isNew : String → Prop}

/-- Changing a member keeps the names. -/
lemma map_fst_modifyMember (change : Json → Json) (members : List (String × Json)) :
    (modifyMember name change members).map (·.1) = members.map (·.1) := by
  induction members with
  | nil => rfl
  | cons member rest ih =>
    obtain ⟨key, old⟩ := member
    rw [modifyMember]
    split
    · rfl
    · rw [List.map_cons, List.map_cons, ih]

/-- Writing a member keeps the names, or puts a new one after them. -/
lemma map_fst_insertMember (members : List (String × Json)) :
    (insertMember name value members).map (·.1) =
      members.map (·.1) ++ if name ∈ members.map (·.1) then [] else [name] := by
  induction members with
  | nil => rfl
  | cons member rest ih =>
    obtain ⟨key, old⟩ := member
    rw [insertMember]
    by_cases hkey : key = name
    · simp [hkey]
    · have hmem : name ∈ key :: rest.map (·.1) ↔ name ∈ rest.map (·.1) := by
        rw [List.mem_cons]
        exact or_iff_right (Ne.symm hkey)
      rw [if_neg hkey, List.map_cons, ih, List.map_cons, List.cons_append]
      simp only [hmem]

/-- Changing a slot keeps the form. -/
lemma sameForm_modify (slot : Slot) (change : Json → Json) (json : Json) :
    SameForm isNew json (slot.modify change json) := by
  cases slot with
  | member key =>
    cases json with
    | object members =>
      refine .object [] ?_ fun _ h => absurd h List.not_mem_nil
      rw [List.append_nil]
      exact map_fst_modifyMember change members
    | _ => exact .refl _
  | item index =>
    cases json with
    | array items => exact .array (List.length_modify ..)
    | _ => exact .refl _

/-- Writing a member keeps the form, if the member may be new. -/
lemma sameForm_setMember (hnew : isNew name) (json : Json) :
    SameForm isNew json (setMember name value json) := by
  cases json with
  | object members =>
    refine .object _ (map_fst_insertMember members) fun other hother => ?_
    split_ifs at hother with hmem
    · exact absurd hother List.not_mem_nil
    · obtain rfl := List.mem_singleton.mp hother
      exact ⟨hnew, hmem⟩
  | _ => exact .refl _

/-- A write keeps the form of each part that is not in the member written. -/
theorem rel_follow?_writeAt (hthrough : ¬ place ++ [Slot.member name] <+: chain)
    (hnew : chain = place → isNew name) :
    Option.Rel (SameForm isNew) (follow? chain json)
      (follow? chain (writeAt place name value json)) := by
  by_cases hpass : chain <+: place
  · -- The part lies on the way to the member, so it is changed inside or has the member itself.
    obtain ⟨below, rfl⟩ := hpass
    rw [follow?_writeAt_append]
    cases follow? chain json with
    | none => exact .none
    | some inner =>
      cases below with
      | nil => exact .some (sameForm_setMember (hnew (List.append_nil _).symm) inner)
      | cons slot below => exact .some (sameForm_modify slot _ inner)
  · rw [follow?_writeAt_of_not_isPrefix hthrough hpass]
    exact SameForm.rel_refl _

/-! ## A run of writes -/

/-- A write of a member of an object. -/
structure Write where
  /-- The place of the object. -/
  place : List Slot
  /-- The name of the member. -/
  name : String
  /-- The value that is written. -/
  value : Json

/-- The member that is written. -/
def Write.target (write : Write) : List Slot := write.place ++ [.member write.name]

/-- Writes one after the other. Each finds an object at its place, whose member does not have the
value yet. -/
inductive Performs : List Write → Json → Json → Prop
  /-- No write. -/
  | nil (json : Json) : Performs [] json json
  /-- A write, and more of them. -/
  | cons {write : Write} {rest : List Write} {members : List (String × Json)}
      {before after : Json} :
      follow? write.place before = some (.object members) →
      members.lookup write.name ≠ some write.value →
      Performs rest (writeAt write.place write.name write.value before) after →
      Performs (write :: rest) before after

namespace Performs

variable {writes : List Write} {before after : Json} {opened : List Slot → Prop}

/-- Without a write nothing changes. -/
lemma eq_of_nil (h : Performs [] before after) : after = before := by
  cases h
  rfl

/-- Writes keep the form of each part that is not in one of the members that they write. -/
theorem rel_follow? (h : Performs writes before after)
    (hopened : ∀ write ∈ writes, opened write.target)
    (hchain : ∀ target, opened target → ¬ target <+: chain) :
    Option.Rel (SameForm fun name => opened (chain ++ [Slot.member name])) (follow? chain before)
      (follow? chain after) := by
  induction h with
  | nil json => exact SameForm.rel_refl _
  | @cons write rest members before after _ _ _ ih =>
    obtain ⟨hwrite, hrest⟩ := List.forall_mem_cons.mp hopened
    refine SameForm.rel_trans (rel_follow?_writeAt (hchain _ hwrite) ?_) (ih hrest)
    rintro rfl
    exact hwrite

/-- Writes keep each part that has none of the members that they write, and is in none of them. -/
theorem follow?_eq (h : Performs writes before after)
    (hopened : ∀ write ∈ writes, opened write.target)
    (hchain : ∀ target, opened target → ¬ target <+: chain ∧ ¬ chain <+: target) :
    follow? chain after = follow? chain before := by
  induction h with
  | nil json => rfl
  | cons _ _ _ ih =>
    obtain ⟨hwrite, hrest⟩ := List.forall_mem_cons.mp hopened
    obtain ⟨hthrough, hpass⟩ := hchain _ hwrite
    rw [ih hrest, follow?_writeAt_of_not_isPrefix hthrough]
    exact fun hc => hpass (hc.trans (List.prefix_append _ _))

end Performs

end Json

namespace Conversion

open Json

/-! ## What is open to be written -/

/-- An operation that an older document states: a path, and a member of what stands there. -/
def IsStated (older : Json) (operation : Operation) : Prop :=
  ∃ path declaration,
    (operation.endpoint, path) ∈ ((older.get? "paths").bind asObject?).getD [] ∧
    (operation.key, declaration) ∈ path.asObject?.getD [] ∧
    operation.operationId = declaration.text "operationId"

/-- There is an object in a converted document at the place that the pointer to an operation of an
older document leads to. -/
def PointsAt (older converted : Json) (place : List Slot) : Prop :=
  ∃ operation steps, IsStated older operation ∧
    Pointer.steps? (operationPointer operation) = some steps ∧
    Json.place? (steps.map .child) converted = some place

/-- The members of a converted document that are open to be written. -/
inductive IsOpen (older converted : Json) : List Slot → Prop
  /-- The style of an object among the parameters of an operation. -/
  | style {place : List Slot} {items : List Json} {index : Nat}
      {members : List (String × Json)} : PointsAt older converted place →
      follow? (place ++ [.member "parameters"]) converted = some (.array items) →
      items[index]? = some (.object members) →
      IsOpen older converted
        (place ++ [.member "parameters", .item index, .member "style"])
  /-- Whether the body of an operation is required. -/
  | required {place : List Slot} {members : List (String × Json)} :
      PointsAt older converted place →
      follow? (place ++ [.member "requestBody"]) converted = some (.object members) →
      IsOpen older converted (place ++ [.member "requestBody", .member "required"])

variable {older converted : Json} {fix : Fix} {place : List Slot}

/-- What an older document says is about operations that it states. -/
lemma isStated_of_mem_fixesOf (h : fix ∈ fixesOf older) : IsStated older fix.operation := by
  obtain ⟨⟨endpoint, path⟩, hpath, h⟩ := List.mem_flatMap.mp h
  obtain ⟨⟨key, declaration⟩, hdeclaration, h⟩ := List.mem_flatMap.mp h
  obtain ⟨parameter, -, h⟩ := List.mem_flatMap.mp h
  rw [operation_of_mem_fixesOfParameter h]
  exact ⟨path, declaration, hpath, hdeclaration, rfl⟩

/-- A route that goes on leads to a place below that of its beginning, if there is an object. -/
lemma exists_of_place?_append {first second : List Step} {json : Json} {found : List Slot}
    (h : Json.place? (first ++ second) json = some found) :
    ∃ init inner below, follow? init json = some inner ∧ Json.place? second inner = some below ∧
      found = init ++ below ∧
      (inner.asObject?.isSome = true → Json.place? first json = some init) := by
  induction first generalizing json found with
  | nil =>
    exact ⟨[], json, found, rfl, h, rfl, fun hobject => place?_nil_eq_some.mpr ⟨hobject, rfl⟩⟩
  | cons step rest ih =>
    obtain ⟨slot, next, below, hslot, hnext, hbelow, rfl⟩ := place?_cons_eq_some.mp h
    obtain ⟨init, inner, last, hinit, hlast, rfl, hobject⟩ := ih hbelow
    refine ⟨slot :: init, inner, last, ?_, hlast, rfl, fun ho => ?_⟩
    · rw [follow?, hnext, Option.bind_some, hinit]
    · exact place?_cons_eq_some.mpr ⟨slot, next, init, hslot, hnext, hobject ho, rfl⟩

/-- A step of a pointer that is no position leads to a member of an object. -/
lemma slot?_child_eq_some {key : String} (hindex : Pointer.index? key = none) {json : Json}
    {slot : Slot} (h : (Step.child key).slot? json = some slot) :
    slot = .member key ∧ json.asObject?.isSome = true := by
  cases json with
  | object members => exact ⟨(Option.some.inj h).symm, rfl⟩
  | array items => simp [Step.slot?, hindex] at h
  | _ => simp [Step.slot?] at h

/-- A route to the member of an object leads there from the place of the object. -/
lemma exists_of_place?_member {first rest : List Step} {key : String} {found : List Slot}
    (hindex : Pointer.index? key = none)
    (h : Json.place? (first ++ .child key :: rest) converted = some found) :
    ∃ init inner below, Json.place? first converted = some init ∧
      follow? (init ++ [Slot.member key]) converted = some inner ∧
      Json.place? rest inner = some below ∧ found = init ++ .member key :: below := by
  obtain ⟨init, inner, last, hinit, hlast, rfl, hobject⟩ := exists_of_place?_append h
  obtain ⟨slot, next, below, hslot, hnext, hbelow, rfl⟩ := place?_cons_eq_some.mp hlast
  obtain ⟨rfl, ho⟩ := slot?_child_eq_some hindex hslot
  refine ⟨init, next, below, hobject ho, ?_, hbelow, rfl⟩
  rw [follow?_append, hinit, Option.bind_some, follow?, hnext]
  rfl

/-- What an older document says is written into members that are open. -/
lemma isOpen_of_place? (hfix : fix ∈ fixesOf older) (h : fix.place? converted = some place) :
    IsOpen older converted (place ++ [Slot.member fix.member]) := by
  have hstated := isStated_of_mem_fixesOf hfix
  obtain ⟨steps, hsteps⟩ : ∃ steps, Pointer.steps? (operationPointer fix.operation) = some steps :=
    ⟨_, steps?_operationPointer fix.operation⟩
  rw [Fix.place?, Fix.route, hsteps, Option.getD_some] at h
  cases fix with
  | bodyRequired operation required =>
    obtain ⟨init, body, below, hinit, hbody, hbelow, rfl⟩ :=
      exists_of_place?_member (by decide) h
    obtain ⟨hobject, rfl⟩ := place?_nil_eq_some.mp hbelow
    obtain ⟨members, hmembers⟩ := Option.isSome_iff_exists.mp hobject
    obtain rfl : body = .object members := by cases body <;> simp_all [asObject?]
    rw [List.append_assoc]
    exact .required ⟨operation, steps, hstated, hsteps, hinit⟩ hbody
  | style operation name format recovered =>
    obtain ⟨init, list, below, hinit, hlist, hbelow, rfl⟩ :=
      exists_of_place?_member (by decide) h
    obtain ⟨slot, item, last, hslot, hitem, hlast, rfl⟩ := place?_cons_eq_some.mp hbelow
    obtain ⟨hobject, rfl⟩ := place?_nil_eq_some.mp hlast
    obtain ⟨members, hmembers⟩ := Option.isSome_iff_exists.mp hobject
    obtain rfl : item = .object members := by cases item <;> simp_all [asObject?]
    cases list with
    | array items =>
      obtain ⟨index, -, rfl⟩ := Option.map_eq_some_iff.mp hslot
      rw [List.append_assoc]
      exact .style ⟨operation, steps, hstated, hsteps, hinit⟩ hlist hitem
    | _ => simp [Step.slot?] at hslot

/-! ## Recovering as a run of writes -/

/-- The write says what a piece of information says, at the place that it has in a document. -/
structure Fix.IsWriteIn (fix : Fix) (converted : Json) (write : Write) : Prop where
  place_eq : fix.place? converted = some write.place
  name_eq : write.name = fix.member
  value_eq : write.value = fix.value

/-- Recovering is a run of writes, one for each line. The line tells of a piece of information, and
the write is at the place that this has in the document at the start.

**Proof sketch.** Induction on the pieces of information. One that is passed over leaves the
document as it is. After one that is written, the others have the places that they had, or none. -/
theorem exists_performs (fixes : List Fix) (converted : Json) :
    ∃ written : List (Fix × Write),
      (applyAll fixes converted).1 = written.map (fun entry => entry.1.line) ∧
      Performs (written.map (·.2)) converted (applyAll fixes converted).2 ∧
      ∀ entry ∈ written, entry.1 ∈ fixes ∧ entry.1.IsWriteIn converted entry.2 := by
  induction fixes generalizing converted with
  | nil => exact ⟨[], rfl, .nil converted, fun _ h => absurd h List.not_mem_nil⟩
  | cons fix rest ih =>
    have hfix := attempt_apply fix converted
    rw [applyAll]
    rcases hr : apply converted fix with ⟨mid, changed⟩
    rw [hr] at hfix
    obtain ⟨written, hlines, hperforms, hplaces⟩ := ih mid
    dsimp only
    cases hfix with
    | lost _ =>
      exact ⟨written, hlines, hperforms, fun entry he =>
        (hplaces entry he).imp_left (List.mem_cons_of_mem _)⟩
    | kept _ _ _ =>
      exact ⟨written, hlines, hperforms, fun entry he =>
        (hplaces entry he).imp_left (List.mem_cons_of_mem _)⟩
    | written place hplace hvalue =>
      obtain ⟨members, hmembers⟩ := exists_follow?_of_place? hplace
      have hnot : members.lookup fix.member ≠ some fix.value := by
        intro hc
        refine hvalue ?_
        rw [follow?_append, hmembers]
        simp [follow?, Slot.get?, hc]
      refine ⟨(fix, ⟨place, fix.member, fix.value⟩) :: written, ?_, .cons hmembers hnot hperforms,
        List.forall_mem_cons.mpr ⟨⟨List.mem_cons_self, hplace, rfl, rfl⟩, ?_⟩⟩
      · rw [if_pos rfl, hlines, List.map_cons]
      · intro entry he
        obtain ⟨hmem, hwhere, hname, hwritten⟩ := hplaces entry he
        have hbefore := (place?_writeAt fix.member_ne_name fix.isLeaf_value).mp hwhere
        exact ⟨List.mem_cons_of_mem _ hmem, hbefore.1, hname, hwritten⟩

/-- Recovering performs one write for each line that it reports. The line tells of a piece of
information of the older document, and the write is of its value, at a member that is open.

* Every part of the converted document that is not in an open member keeps its form: values without
  an inside and the number of items stay, and objects keep their members in order, with new members
  after them that are open.
* Every part that has no open member and is in none stays as it is.
* If nothing is reported, the document stays as it is. -/
theorem recover_frame (older converted : Json) :
    (∃ written : List (Fix × Write),
      (recover older converted).1 = written.map (fun entry => entry.1.line) ∧
      Performs (written.map (·.2)) converted (recover older converted).2 ∧
      ∀ entry ∈ written, entry.1 ∈ fixesOf older ∧ entry.2.name = entry.1.member ∧
        entry.2.value = entry.1.value ∧ IsOpen older converted entry.2.target) ∧
    (∀ chain, (∀ target, IsOpen older converted target → ¬ target <+: chain) →
      Option.Rel (SameForm fun name => IsOpen older converted (chain ++ [.member name]))
        (follow? chain converted) (follow? chain (recover older converted).2)) ∧
    (∀ chain, (∀ target, IsOpen older converted target → ¬ target <+: chain ∧ ¬ chain <+: target) →
      follow? chain (recover older converted).2 = follow? chain converted) ∧
    ((recover older converted).1 = [] → (recover older converted).2 = converted) := by
  obtain ⟨written, hlines, hperforms, hplaces⟩ := exists_performs (fixesOf older) converted
  have hopen : ∀ entry ∈ written, IsOpen older converted entry.2.target := by
    intro entry hentry
    obtain ⟨hfix, hplace, hname, -⟩ := hplaces entry hentry
    rw [Write.target, hname]
    exact isOpen_of_place? hfix hplace
  have hopened : ∀ write ∈ written.map (·.2), IsOpen older converted write.target :=
    List.forall_mem_map.mpr hopen
  refine ⟨⟨written, hlines, hperforms, fun entry hentry => ?_⟩,
    fun chain hchain => hperforms.rel_follow? hopened hchain,
    fun chain hchain => hperforms.follow?_eq hopened hchain, fun hnil => ?_⟩
  · obtain ⟨hfix, -, hname, hvalue⟩ := hplaces entry hentry
    exact ⟨hfix, hname, hvalue, hopen entry hentry⟩
  · obtain rfl : written = [] := List.map_eq_nil_iff.mp (hlines.symm.trans hnil)
    exact hperforms.eq_of_nil

end Conversion

end ClientGen
