import ClientGen.Proofs.Operations

/-!
# Groups and uses as views of the methods

The groups of the tags, and the operations that use a type, repeat what the methods say. Both are
written when an operation is read, and leaving out methods restricts the groups with them. So they
tell of all operations that were read. The table of methods tells of the last operation of each
identifier only. Hence the groups and the uses are views of the methods exactly if no operation
that another one has replaced has a tag, or uses a type, that the other one has not.

## Main definitions

* `ClientGen.Model.retainAll` — a model after several selections of methods.
* `ClientGen.Model.GroupsFollow`, `ClientGen.Model.UsesFollow` — that the groups, and the uses of
  types, are views of the methods.

## Main results

* `ClientGen.Model.mem_group_retain`, `ClientGen.Model.mem_tags_retain` — the groups after methods
  have been left out.
* `ClientGen.Model.mem_group_retainAll` — so what the groups are after several selections.
* `ClientGen.Model.views_of_methods` — when the groups and the uses in the model of a document are
  views of its methods.
-/

set_option autoImplicit false

namespace ClientGen.Model

variable {model : Model} {included excluded : List String} {tag operationId : String}

/-! ## Leaving out methods -/

/-- The methods after some have been left out. -/
lemma getElem?_methods_retain (model : Model) (included excluded : List String)
    (operationId : String) : (model.retain included excluded).methods[operationId]? =
      model.methods[operationId]?.filter fun _ => isSelected included excluded operationId :=
  Std.TreeMap.getElem?_filter'

/-- A method is there after some have been left out if it was there and is selected. -/
lemma mem_methods_retain : operationId ∈ (model.retain included excluded).methods ↔
    operationId ∈ model.methods ∧ isSelected included excluded operationId := by
  rw [Std.TreeMap.mem_iff_isSome_getElem?, getElem?_methods_retain, Option.isSome_filter,
    Std.TreeMap.mem_iff_isSome_getElem?]
  cases model.methods[operationId]? <;> simp

/-- The group of a tag after methods have been left out: what is left of it, unless that is
empty. -/
lemma getElem?_tags_retain (model : Model) (included excluded : List String) (tag : String) :
    (model.retain included excluded).tags[tag]? =
      (model.tags[tag]?.map fun ids =>
        ids.filter (model.retain included excluded).methods.contains).filter (!·.isEmpty) := by
  show ((model.tags.map _).filter _)[tag]? = _
  rw [Std.TreeMap.getElem?_filter', Std.TreeMap.getElem?_map]
  rfl

/-- An operation is in a group after methods have been left out if it was in it and its method is
there. -/
lemma mem_group_retain : operationId ∈ (model.retain included excluded).tags.getD tag ∅ ↔
    operationId ∈ model.tags.getD tag ∅ ∧
      operationId ∈ (model.retain included excluded).methods := by
  rw [Std.TreeMap.getD_eq_getD_getElem?, getElem?_tags_retain, Std.TreeMap.getD_eq_getD_getElem?]
  cases model.tags[tag]? with
  | none => simp
  | some ids =>
    have hmem : operationId ∈ ids.filter (model.retain included excluded).methods.contains ↔
        operationId ∈ ids ∧ operationId ∈ (model.retain included excluded).methods := by
      simp [Std.TreeSet.mem_filter]
    simp only [Option.map_some, Option.getD_some, Option.filter_some]
    split_ifs with hempty
    · exact hmem
    · -- nothing is left of the group
      have hnone := Std.TreeSet.isEmpty_iff_forall_not_mem.mp (by simpa using hempty)
      rw [← hmem]
      exact ⟨fun hc => absurd hc Std.TreeSet.not_mem_emptyc, fun hc => absurd hc (hnone _)⟩

/-- No group is empty after methods have been left out. -/
lemma mem_tags_retain : tag ∈ (model.retain included excluded).tags ↔
    ∃ operationId, operationId ∈ (model.retain included excluded).tags.getD tag ∅ := by
  rw [Std.TreeMap.mem_iff_isSome_getElem?, Std.TreeMap.getD_eq_getD_getElem?,
    getElem?_tags_retain]
  cases model.tags[tag]? with
  | none => simp
  | some ids =>
    simp only [Option.map_some, Option.filter_some]
    split_ifs with hempty
    · exact iff_of_true rfl (Std.TreeSet.isEmpty_eq_false_iff_exists_mem.mp (by simpa using hempty))
    · simp

/-! ## Several selections -/

/-- The model after selections of methods, one after the other. Each selection is a list of included
and a list of excluded identifiers. -/
def retainAll (model : Model) (selections : List (List String × List String)) : Model :=
  selections.foldl (fun mid selection => mid.retain selection.1 selection.2) model

/-- Whether the identifier of an operation is selected by all selections. -/
def isSelectedByAll (selections : List (List String × List String)) (operationId : String) : Bool :=
  selections.all fun selection => isSelected selection.1 selection.2 operationId

/-- The methods after several selections. -/
lemma getElem?_methods_retainAll (operationId : String) :
    ∀ (selections : List (List String × List String)) (model : Model),
      (model.retainAll selections).methods[operationId]? =
        model.methods[operationId]?.filter fun _ => isSelectedByAll selections operationId
  | [], model => by
    show model.methods[operationId]? = _
    cases model.methods[operationId]? <;> rfl
  | selection :: rest, model => by
    show ((model.retain selection.1 selection.2).retainAll rest).methods[operationId]? = _
    rw [getElem?_methods_retainAll operationId rest, getElem?_methods_retain, Option.filter_filter]
    rfl

/-- The groups after several selections, if each operation of a group has a method to begin with. -/
lemma mem_group_retainAll : ∀ (selections : List (List String × List String)) {model : Model},
    (∀ tag operationId : String, operationId ∈ model.tags.getD tag ∅ →
      operationId ∈ model.methods) →
    (operationId ∈ (model.retainAll selections).tags.getD tag ∅ ↔
      operationId ∈ model.tags.getD tag ∅ ∧ isSelectedByAll selections operationId)
  | [], model, _ => by
    show operationId ∈ model.tags.getD tag ∅ ↔ _
    simp [isSelectedByAll]
  | selection :: rest, model, h => by
    have hnext : ∀ tag operationId : String,
        operationId ∈ (model.retain selection.1 selection.2).tags.getD tag ∅ →
          operationId ∈ (model.retain selection.1 selection.2).methods :=
      fun _ _ hm => (mem_group_retain.mp hm).2
    show operationId ∈ ((model.retain selection.1 selection.2).retainAll rest).tags.getD tag ∅ ↔ _
    rw [mem_group_retainAll rest hnext, mem_group_retain, mem_methods_retain, isSelectedByAll,
      isSelectedByAll, List.all_cons, Bool.and_eq_true]
    exact ⟨fun ⟨⟨hm, _, hs⟩, hrest⟩ => ⟨hm, hs, hrest⟩,
      fun ⟨hm, hs, hrest⟩ => ⟨⟨hm, h tag operationId hm, hs⟩, hrest⟩⟩

/-- No group is empty after several selections, if none is to begin with. -/
lemma mem_tags_retainAll (h : ∀ tag : String, tag ∈ model.tags ↔
      ∃ operationId, operationId ∈ model.tags.getD tag ∅)
    (selections : List (List String × List String)) (tag : String) :
    tag ∈ (model.retainAll selections).tags ↔
      ∃ operationId, operationId ∈ (model.retainAll selections).tags.getD tag ∅ :=
  List.foldlRecOn (motive := fun mid : Model => ∀ tag : String,
      tag ∈ mid.tags ↔ ∃ operationId, operationId ∈ mid.tags.getD tag ∅)
    selections (fun mid selection => mid.retain selection.1 selection.2) h
    (fun _ _ _ _ _ => mem_tags_retain) tag

/-! ## Views -/

/-- The operations of each group are those whose methods are in it. -/
def GroupsFollow (model : Model) : Prop :=
  ∀ operationId tag : String, operationId ∈ model.tags.getD tag ∅ ↔
    ∃ method, model.methods[operationId]? = some method ∧ tag ∈ method.groups

/-- The operations that use a type are those whose methods use it. -/
def UsesFollow (model : Model) : Prop :=
  ∀ (operationId : String) (type : TypeId), operationId ∈ (model.node type).methodRefs ↔
    ∃ method, model.methods[operationId]? = some method ∧ model.Uses method type

/-- A table that tells for all methods that were read what holds of them is a view of those that are
stored exactly if that holds of a stored method whenever it holds of one that was read for the same
operation. -/
lemma follows_iff {α : Type} {read : List Method} {stored : String → Option Method}
    {table : String → α → Prop} (holds : Method → α → Prop)
    (hstored : ∀ operationId last, stored operationId = some last →
      last ∈ read ∧ last.operationId = operationId)
    (htable : ∀ operationId item, table operationId item ↔ (stored operationId).isSome ∧
      ∃ method ∈ read, method.operationId = operationId ∧ holds method item) :
    (∀ operationId item, table operationId item ↔
      ∃ method, stored operationId = some method ∧ holds method item) ↔
      ∀ earlier ∈ read, ∀ last, stored earlier.operationId = some last →
        ∀ item, holds earlier item → holds last item := by
  constructor
  · intro hview earlier hearlier last hlast item hitem
    have hin : table earlier.operationId item :=
      (htable _ _).mpr ⟨by rw [hlast]; rfl, earlier, hearlier, rfl, hitem⟩
    obtain ⟨method, hmethod, hholds⟩ := (hview _ _).mp hin
    rw [hlast] at hmethod
    rwa [Option.some.inj hmethod]
  · intro hlast operationId item
    rw [htable]
    constructor
    · rintro ⟨hsome, earlier, hearlier, rfl, hitem⟩
      obtain ⟨last, heq⟩ := Option.isSome_iff_exists.mp hsome
      exact ⟨last, heq, hlast earlier hearlier last heq item hitem⟩
    · rintro ⟨method, hmethod, hitem⟩
      obtain ⟨hread, hid⟩ := hstored operationId method hmethod
      exact ⟨by rw [hmethod]; rfl, method, hread, hid, hitem⟩

namespace Accounts

variable {start : Model} {outs : List Outcome}

/-- A stored method is one of those that were read. -/
lemma mem_of_stored (h : Accounts start outs model) {last : Method}
    (hlast : model.methods[operationId]? = some last) :
    last ∈ successes outs ∧ last.operationId = operationId := by
  rw [h.methods_eq] at hlast
  obtain ⟨hread, hid⟩ := List.mem_filter.mp (List.mem_of_getLast? hlast)
  exact ⟨hread, of_decide_eq_true hid⟩

/-- An operation that was read has a method. -/
lemma isSome_of_mem (h : Accounts start outs model) {method : Method}
    (hm : method ∈ successes outs) : (model.methods[method.operationId]?).isSome := by
  rw [h.methods_eq, List.getLast?_isSome]
  exact List.ne_nil_of_mem (List.mem_filter.mpr ⟨hm, decide_eq_true rfl⟩)

/-- The groups after several selections: of the operations that were read and are selected. -/
lemma mem_group_retainAll (h : Accounts start outs model)
    (selections : List (List String × List String)) (operationId tag : String) :
    operationId ∈ (model.retainAll selections).tags.getD tag ∅ ↔
      (model.retainAll selections).methods[operationId]?.isSome ∧
        ∃ method ∈ successes outs, method.operationId = operationId ∧ tag ∈ method.groups := by
  have hthere : ∀ tag operationId : String, operationId ∈ model.tags.getD tag ∅ →
      operationId ∈ model.methods := by
    intro tag operationId hm
    obtain ⟨method, hread, rfl, -⟩ := (h.mem_group tag operationId).mp hm
    rw [Std.TreeMap.mem_iff_isSome_getElem?]
    exact h.isSome_of_mem hread
  rw [Model.mem_group_retainAll selections hthere, h.mem_group, getElem?_methods_retainAll,
    Option.isSome_filter]
  constructor
  · rintro ⟨⟨method, hread, rfl, htag⟩, hselected⟩
    obtain ⟨last, hlast⟩ := Option.isSome_iff_exists.mp (h.isSome_of_mem hread)
    exact ⟨by simpa [hlast] using hselected, method, hread, rfl, htag⟩
  · rintro ⟨hsome, hread⟩
    refine ⟨hread, ?_⟩
    cases hm : model.methods[operationId]? <;> simp_all

/-- No group is empty. -/
lemma mem_tags_iff (h : Accounts start outs model) (tag : String) :
    tag ∈ model.tags ↔ ∃ operationId, operationId ∈ model.tags.getD tag ∅ := by
  simp only [h.mem_tags, h.mem_group]
  exact ⟨fun ⟨method, hm, ht⟩ => ⟨_, method, hm, rfl, ht⟩,
    fun ⟨_, method, hm, _, ht⟩ => ⟨method, hm, ht⟩⟩

/-- After several selections, the groups are a view of the methods exactly if no stored method lacks
a tag of one that was read for the same operation. -/
lemma groupsFollow_iff (h : Accounts start outs model)
    (selections : List (List String × List String)) :
    (model.retainAll selections).GroupsFollow ↔
      ∀ earlier ∈ successes outs, ∀ last,
        (model.retainAll selections).methods[earlier.operationId]? = some last →
          ∀ tag ∈ earlier.groups, tag ∈ last.groups := by
  refine follows_iff (fun method tag => tag ∈ method.groups) (fun operationId last hl => ?_)
    (h.mem_group_retainAll selections)
  rw [getElem?_methods_retainAll] at hl
  exact h.mem_of_stored (Option.filter_eq_some_iff.mp hl).1

/-- The uses of types are a view of the methods exactly if every type that a method uses that was
read is used by the method stored for the same operation. -/
lemma usesFollow_iff (h : Accounts start outs model) :
    model.UsesFollow ↔ ∀ earlier ∈ successes outs, ∀ last,
      model.methods[earlier.operationId]? = some last →
        ∀ type, model.Uses earlier type → model.Uses last type := by
  refine follows_iff (fun method type => model.Uses method type)
    (fun _ _ hl => h.mem_of_stored hl) fun operationId type => ?_
  rw [h.mem_methodRefs]
  constructor
  · rintro ⟨method, hread, rfl, huses⟩
    exact ⟨h.isSome_of_mem hread, method, hread, rfl, huses⟩
  · exact fun hm => hm.2

/-- If no two operations have one identifier, each of them is stored. -/
lemma eq_of_nodup (h : Accounts start outs model)
    (hnodup : ((successes outs).map (·.operationId)).Nodup) {earlier last : Method}
    (hearlier : earlier ∈ successes outs)
    (hlast : model.methods[earlier.operationId]? = some last) : earlier = last :=
  have hstored := h.mem_of_stored hlast
  List.inj_on_of_nodup_map hnodup hearlier hstored.1 hstored.2.symm

end Accounts

/-! ## The model of a document -/

/-- In the model of a document, and after any number of selections of its methods, the groups tell
of all operations that were read and whose methods are there, and no group is empty. The uses of
types tell of all operations that were read.

So the groups and the uses are views of the table of methods exactly if each stored method has all
tags, and uses all types, of the methods that were read for the same operation. That is so if no two
operations have one identifier. -/
theorem views_of_methods (document : Document) :
    let read := successes (documentOutcomes document)
    (∀ selections : List (List String × List String),
      let chosen := (ofDocument document).retainAll selections
      (∀ operationId tag : String, operationId ∈ chosen.tags.getD tag ∅ ↔
        chosen.methods[operationId]?.isSome ∧
          ∃ method ∈ read, method.operationId = operationId ∧ tag ∈ method.groups) ∧
      (∀ tag : String, tag ∈ chosen.tags ↔
        ∃ operationId, operationId ∈ chosen.tags.getD tag ∅) ∧
      (chosen.GroupsFollow ↔ ∀ earlier ∈ read, ∀ last,
        chosen.methods[earlier.operationId]? = some last →
          ∀ tag ∈ earlier.groups, tag ∈ last.groups)) ∧
    (∀ (operationId : String) (type : TypeId),
      operationId ∈ ((ofDocument document).node type).methodRefs ↔
        ∃ method ∈ read, method.operationId = operationId ∧
          (ofDocument document).Uses method type) ∧
    ((ofDocument document).UsesFollow ↔ ∀ earlier ∈ read, ∀ last,
      (ofDocument document).methods[earlier.operationId]? = some last →
        ∀ type, (ofDocument document).Uses earlier type → (ofDocument document).Uses last type) ∧
    ((read.map (·.operationId)).Nodup →
      (∀ selections, ((ofDocument document).retainAll selections).GroupsFollow) ∧
        (ofDocument document).UsesFollow) := by
  intro read
  have h : Accounts (initial document).loadTypes (documentOutcomes document)
      (ofDocument document) := accounts_ofDocument document
  refine ⟨fun selections => ⟨h.mem_group_retainAll selections,
      mem_tags_retainAll h.mem_tags_iff selections, h.groupsFollow_iff selections⟩,
    fun operationId type => h.mem_methodRefs type operationId, h.usesFollow_iff,
    fun hnodup => ⟨fun selections => ?_, ?_⟩⟩
  · refine (h.groupsFollow_iff selections).mpr fun earlier hearlier last hlast tag htag => ?_
    rw [getElem?_methods_retainAll] at hlast
    rwa [← h.eq_of_nodup hnodup hearlier (Option.filter_eq_some_iff.mp hlast).1]
  · refine h.usesFollow_iff.mpr fun earlier hearlier last hlast type htype => ?_
    rwa [← h.eq_of_nodup hnodup hearlier hlast]

/-! ### A sample -/

/-- An operation of the sample document, which returns a type that the document declares. -/
def sampleOperation (operationId tag type : String) : Json :=
  .object [("get", .object [
    ("operationId", .string operationId),
    ("tags", .array [.string tag]),
    ("responses", .object [("200", .object [("content", .object [("application/json", .object [
      ("schema", .object [("$ref", .string ("#/components/schemas/" ++ type))])])])])])])]

/-- A document that states the identifier of an operation twice: once for users, once for teams. -/
def repeatedDocument : Document where
  root := .object [
    ("components", .object [("schemas", .object [("User", .object []), ("Team", .object [])])]),
    ("paths", .object [
      ("/users", sampleOperation "find" "Users" "User"),
      ("/teams", sampleOperation "find" "Teams" "Team")])]

/-- What the model of the sample document says of the operation. -/
lemma repeatedDocument_find :
    ("find" ∈ ((ofDocument repeatedDocument).retainAll [(["find"], [])]).tags.getD "Users" ∅ ∧
      ((ofDocument repeatedDocument).retainAll [(["find"], [])]).methods["find"]?.map
        Method.groups = some ["Teams"]) ∧
    "find" ∈ ((ofDocument repeatedDocument).node 22).methodRefs ∧
      (ofDocument repeatedDocument).methods["find"]?.map Method.usedTypes = some [23] ∧
      (ofDocument repeatedDocument).customType? 23 = some 23 := by
  decide +kernel

/-- In the sample document the second operation replaces the first one. The first one stays in the
group of users, also if it is selected, and among the operations that use the type of users, while
the method that is stored has neither. -/
theorem views_of_methods_repeated :
    ¬((ofDocument repeatedDocument).retainAll [(["find"], [])]).GroupsFollow ∧
      ¬(ofDocument repeatedDocument).UsesFollow ∧
      ¬((successes (documentOutcomes repeatedDocument)).map (·.operationId)).Nodup := by
  obtain ⟨hchosen, hrefs, huses, hdistinct⟩ := views_of_methods repeatedDocument
  obtain ⟨hgroup, -, hgroups⟩ := hchosen [(["find"], [])]
  obtain ⟨⟨htagged, htags⟩, hused, htypes, hcustom⟩ := repeatedDocument_find
  have hnotGroups :
      ¬((ofDocument repeatedDocument).retainAll [(["find"], [])]).GroupsFollow := by
    intro hfollow
    obtain ⟨-, earlier, hread, hid, htag⟩ := (hgroup "find" "Users").mp htagged
    obtain ⟨last, hlast, hlastTags⟩ := Option.map_eq_some_iff.mp htags
    have hin := hgroups.mp hfollow earlier hread last (hid ▸ hlast) "Users" htag
    rw [hlastTags] at hin
    exact absurd hin (by decide)
  refine ⟨hnotGroups, fun hfollow => ?_, fun hnodup => hnotGroups ((hdistinct hnodup).1 _)⟩
  obtain ⟨earlier, hread, hid, huse⟩ := (hrefs "find" 22).mp hused
  obtain ⟨last, hlast, hlastTypes⟩ := Option.map_eq_some_iff.mp htypes
  obtain ⟨type, htype, hsame⟩ := huses.mp hfollow earlier hread last (hid ▸ hlast) 22 huse
  rw [hlastTypes] at htype
  obtain rfl := List.mem_singleton.mp htype
  rw [hcustom] at hsame
  exact absurd hsame (by decide)

end ClientGen.Model
