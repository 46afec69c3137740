import Mathlib.Data.List.Nodup
import Mathlib.Logic.Relation
import ClientGen.Proofs.Generation.Rounds
import ClientGen.Proofs.Reachable
import ClientGen.Search

/-!
# Searching types

Whether a search finds a type is decided by a walk through the properties of types. The walk enters
each type once, also where types refer to each other in circles, and it ends as soon as it finds
something. All that it has visited before is shared by what it goes on to. So a type that it passes
over for the second time has either been looked at in full, or is still being looked at.

When a walk has found nothing, the types that it has visited show nothing, and those of their
properties are among them. As this holds for all that the first call has visited, nothing that can
be reached from there shows anything.

## Main definitions

* `ClientGen.Model.HasPropertyOf` — that a type has a property of another type.
* `ClientGen.Searcher.Shows` — that what is looked for stands in a type itself.
* `ClientGen.Searcher.HasRoom` — that a walk can still go deep enough.
* `ClientGen.Searcher.Passes` — what a walk has visited if it has found nothing.

## Main results

* `ClientGen.Searcher.exists_shows_of_visitType` — what is found is there.
* `ClientGen.Searcher.passes_visitType` — what is not found is not there.
* `ClientGen.Searcher.result_types_iff` — which types a search lists.
-/

set_option autoImplicit false

namespace ClientGen

/-- The first type has a property of the second one. -/
def Model.HasPropertyOf (model : Model) (id other : TypeId) : Prop :=
  ∃ property ∈ (model.node id).properties, property.type = other

namespace Searcher

variable {searcher : Searcher} {depth depth' : Nat} {id : TypeId}
  {visit visit' : TypeId → List TypeId → Bool × List TypeId} {properties : List Property}
  {visited mid after : List TypeId}

/-- What is looked for stands in the text of a type, or in that of one of its properties. -/
def Shows (searcher : Searcher) (id : TypeId) : Prop :=
  searcher.isMatch (searcher.typeText (searcher.model.node id)) = true ∨
    ∃ property ∈ (searcher.model.node id).properties,
      searcher.isMatch (searcher.propertyText property) = true

/-! ## What a walk finds -/

/-- If one of the properties is found, then by its text or at its type. -/
lemma exists_of_visitProperties (h : (searcher.visitProperties visit properties visited).1 = true) :
    ∃ property ∈ properties, searcher.isMatch (searcher.propertyText property) = true ∨
      ∃ mid, (visit property.type mid).1 = true := by
  induction properties generalizing visited with
  | nil => exact absurd h Bool.false_ne_true
  | cons property rest ih =>
    rw [visitProperties] at h
    split at h
    next hmatch => exact ⟨property, List.mem_cons_self, Or.inl hmatch⟩
    next =>
      rcases hvisit : visit property.type visited with ⟨_ | _, mid⟩ <;> rw [hvisit] at h
      · obtain ⟨other, hother, hfound⟩ := ih h
        exact ⟨other, List.mem_cons_of_mem _ hother, hfound⟩
      · exact ⟨property, List.mem_cons_self, Or.inr ⟨visited, by rw [hvisit]⟩⟩

/-- If a walk finds something, a type that it can reach shows it. -/
theorem exists_shows_of_visitType (h : (searcher.visitType depth id visited).1 = true) :
    ∃ other, Relation.ReflTransGen searcher.model.HasPropertyOf id other ∧
      searcher.Shows other := by
  induction depth generalizing id visited with
  | zero => exact absurd h Bool.false_ne_true
  | succ depth ih =>
    rw [visitType] at h
    split at h
    next => exact absurd h Bool.false_ne_true
    dsimp only at h
    split at h
    next hmatch => exact ⟨id, .refl, Or.inl hmatch⟩
    split at h
    next =>
      obtain ⟨property, hproperty, hmatch | ⟨mid, hmid⟩⟩ := exists_of_visitProperties h
      · exact ⟨id, .refl, Or.inr ⟨property, hproperty, hmatch⟩⟩
      · obtain ⟨other, hreach, hshows⟩ := ih hmid
        exact ⟨other, .head ⟨property, hproperty, rfl⟩ hreach, hshows⟩
    next => exact absurd h Bool.false_ne_true

/-! ## What a walk leaves behind -/

/-- The visited types are there and none is listed twice, and a walk from them may go as deep as
there are others. -/
structure HasRoom (searcher : Searcher) (depth : Nat) (visited : List TypeId) : Prop where
  nodup : visited.Nodup
  lt_size : ∀ id ∈ visited, id < searcher.model.nodes.size
  size_lt : searcher.model.nodes.size < depth + visited.length

/-- A walk has gone on from some visited types to more of them. What is new shows nothing, and has
properties of visited types only. -/
structure Passes (searcher : Searcher) (visited after : List TypeId) : Prop where
  nodup : after.Nodup
  lt_size : ∀ id ∈ after, id < searcher.model.nodes.size
  subset : visited ⊆ after
  not_shows : ∀ id ∈ after, id ∉ visited → ¬searcher.Shows id
  closed : ∀ id ∈ after, id ∉ visited →
    ∀ property ∈ (searcher.model.node id).properties, property.type ∈ after

/-- Types without repetitions are no more than there are. -/
lemma HasRoom.length_le (h : searcher.HasRoom depth visited) :
    visited.length ≤ searcher.model.nodes.size := by
  have hsub : visited ⊆ List.range searcher.model.nodes.size := fun id hid =>
    List.mem_range.mpr (h.lt_size id hid)
  simpa using (h.nodup.subperm hsub).length_le

/-- There is no room at depth zero, since not more than all types are visited. -/
lemma HasRoom.depth_ne_zero (h : searcher.HasRoom depth visited) : depth ≠ 0 := by
  have hsize := h.size_lt
  have hlength := h.length_le
  omega

/-- Entering one more type takes one step of depth. -/
lemma HasRoom.cons (h : searcher.HasRoom (depth + 1) visited) (hid : id ∉ visited)
    (hlt : id < searcher.model.nodes.size) : searcher.HasRoom depth (id :: visited) where
  nodup := List.nodup_cons.mpr ⟨hid, h.nodup⟩
  lt_size := List.forall_mem_cons.mpr ⟨hlt, h.lt_size⟩
  size_lt := by
    have hsize := h.size_lt
    rw [List.length_cons]
    omega

namespace Passes

/-- Where nothing has been visited, nothing is new. -/
lemma refl (h : searcher.HasRoom depth visited) : searcher.Passes visited visited where
  nodup := h.nodup
  lt_size := h.lt_size
  subset := List.Subset.refl _
  not_shows _ hid hnot := absurd hid hnot
  closed _ hid hnot := absurd hid hnot

/-- Walks one after the other. -/
lemma trans (h : searcher.Passes visited mid) (h' : searcher.Passes mid after) :
    searcher.Passes visited after where
  nodup := h'.nodup
  lt_size := h'.lt_size
  subset _ hid := h'.subset (h.subset hid)
  not_shows id hid hnot := by
    by_cases hmid : id ∈ mid
    · exact h.not_shows id hmid hnot
    · exact h'.not_shows id hid hmid
  closed id hid hnot property hproperty := by
    by_cases hmid : id ∈ mid
    · exact h'.subset (h.closed id hmid hnot property hproperty)
    · exact h'.closed id hid hmid property hproperty

/-- After a walk there is room for walks as deep. -/
lemma hasRoom (h : searcher.Passes visited after) (hroom : searcher.HasRoom depth visited) :
    searcher.HasRoom depth after where
  nodup := h.nodup
  lt_size := h.lt_size
  size_lt := by
    have hlength := (hroom.nodup.subperm h.subset).length_le
    have hsize := hroom.size_lt
    omega

/-- A type has been looked at in full when its own text has been, and its properties have, after
the type itself has been entered. -/
lemma of_entered (h : searcher.Passes (id :: visited) after)
    (htext : searcher.isMatch (searcher.typeText (searcher.model.node id)) ≠ true)
    (hproperties : ∀ property ∈ (searcher.model.node id).properties,
      searcher.isMatch (searcher.propertyText property) ≠ true ∧ property.type ∈ after) :
    id ∈ after ∧ searcher.Passes visited after where
  left := h.subset List.mem_cons_self
  right := {
    nodup := h.nodup
    lt_size := h.lt_size
    subset := fun other hother => h.subset (List.mem_cons_of_mem _ hother)
    not_shows := fun other hother hnot => by
      by_cases heq : other = id
      · subst heq
        rintro (hmatch | ⟨property, hproperty, hmatch⟩)
        · exact htext hmatch
        · exact (hproperties property hproperty).1 hmatch
      · exact h.not_shows other hother (by simp [heq, hnot])
    closed := fun other hother hnot property hproperty => by
      by_cases heq : other = id
      · subst heq
        exact (hproperties property hproperty).2
      · exact h.closed other hother (by simp [heq, hnot]) property hproperty }

/-- Among types that are visited together with those of their properties, what can be reached from
one of them shows nothing. -/
lemma not_shows_of_reaches (h : searcher.Passes [] after) (hid : id ∈ after) {other : TypeId}
    (hreach : Relation.ReflTransGen searcher.model.HasPropertyOf id other) :
    ¬searcher.Shows other := by
  have hmem : other ∈ after := by
    induction hreach with
    | refl => exact hid
    | tail _ hedge ih =>
      obtain ⟨property, hproperty, rfl⟩ := hedge
      exact h.closed _ ih List.not_mem_nil property hproperty
  exact h.not_shows other hmem List.not_mem_nil

end Passes

/-- What looking at a type does: unless it finds something, it visits the type and passes on. -/
def Visits (searcher : Searcher) (depth : Nat)
    (visit : TypeId → List TypeId → Bool × List TypeId) : Prop :=
  ∀ id mid, id < searcher.model.nodes.size → searcher.HasRoom depth mid →
    (visit id mid).1 = false → id ∈ (visit id mid).2 ∧ searcher.Passes mid (visit id mid).2

/-- Properties among which nothing is found show nothing, and their types are visited. -/
lemma Visits.visitProperties (hvisit : searcher.Visits depth visit)
    (hlt : ∀ property ∈ properties, property.type < searcher.model.nodes.size)
    (hroom : searcher.HasRoom depth visited)
    (h : (searcher.visitProperties visit properties visited).1 = false) :
    searcher.Passes visited (searcher.visitProperties visit properties visited).2 ∧
      ∀ property ∈ properties, searcher.isMatch (searcher.propertyText property) ≠ true ∧
        property.type ∈ (searcher.visitProperties visit properties visited).2 := by
  induction properties generalizing visited with
  | nil => exact ⟨.refl hroom, fun _ hproperty => absurd hproperty List.not_mem_nil⟩
  | cons property rest ih =>
    obtain ⟨hfirst, hrest⟩ := List.forall_mem_cons.mp hlt
    rw [Searcher.visitProperties] at h ⊢
    split at h
    next => exact absurd h.symm Bool.false_ne_true
    next hmatch =>
      rw [if_neg hmatch]
      have hvisited := hvisit property.type visited hfirst hroom
      rcases hresult : visit property.type visited with ⟨_ | _, mid⟩ <;> rw [hresult] at h hvisited
      · obtain ⟨hmem, hpasses⟩ := hvisited rfl
        obtain ⟨hafter, hall⟩ := ih hrest (hpasses.hasRoom hroom) h
        exact ⟨hpasses.trans hafter,
          List.forall_mem_cons.mpr ⟨⟨hmatch, hafter.subset hmem⟩, hall⟩⟩
      · exact absurd h.symm Bool.false_ne_true

section Walk

variable (hwf : searcher.model.WellFormed) (hlooks : searcher.looksAtProperties = true)

include hwf hlooks

/-- A walk that finds nothing passes on.

**Proof sketch.** Induction on the depth. The room for the walk excludes depth zero. A type that is
visited already is passed over. Another one is entered first, which leaves room for walks from its
properties that are one step less deep, and after them it has been looked at in full. -/
theorem passes_visitType : searcher.Visits depth (searcher.visitType depth) := by
  induction depth with
  | zero => exact fun _ _ _ hroom _ => absurd rfl hroom.depth_ne_zero
  | succ depth ih =>
    intro id visited hlt hroom h
    rw [visitType] at h ⊢
    split at h
    next hmem =>
      rw [if_pos hmem]
      exact ⟨by simpa using hmem, .refl hroom⟩
    next hmem =>
      have hid : id ∉ visited := by simpa using hmem
      rw [if_neg hmem]
      dsimp only at h ⊢
      split at h
      next => exact absurd h.symm Bool.false_ne_true
      next htext =>
        rw [if_neg htext, if_pos hlooks]
        obtain ⟨hpasses, hproperties⟩ :=
          ih.visitProperties (hwf.property_lt id) (hroom.cons hid hlt) h
        exact hpasses.of_entered htext hproperties

end Walk

/-! ## The bound on the depth -/

/-- Looking at properties only depends on what looking at their types does where there is room. -/
lemma Visits.visitProperties_congr (hvisit : searcher.Visits depth visit)
    (hlt : ∀ property ∈ properties, property.type < searcher.model.nodes.size)
    (hroom : searcher.HasRoom depth visited)
    (hsame : ∀ id mid, id < searcher.model.nodes.size → searcher.HasRoom depth mid →
      visit' id mid = visit id mid) :
    searcher.visitProperties visit' properties visited =
      searcher.visitProperties visit properties visited := by
  induction properties generalizing visited with
  | nil => rfl
  | cons property rest ih =>
    obtain ⟨hfirst, hrest⟩ := List.forall_mem_cons.mp hlt
    rw [Searcher.visitProperties, Searcher.visitProperties, hsame _ _ hfirst hroom]
    split
    next => rfl
    next =>
      have hvisited := hvisit property.type visited hfirst hroom
      rcases hresult : visit property.type visited with ⟨_ | _, mid⟩ <;> rw [hresult] at hvisited
      exact ih hrest ((hvisited rfl).2.hasRoom hroom)

/-- The bound on the depth of a walk does not show where there is room. -/
theorem visitType_eq_of_hasRoom (hwf : searcher.model.WellFormed) {more : Nat}
    (hlt : id < searcher.model.nodes.size) (hroom : searcher.HasRoom depth visited) :
    searcher.visitType (depth + more) id visited = searcher.visitType depth id visited := by
  induction depth generalizing id visited with
  | zero => exact absurd rfl hroom.depth_ne_zero
  | succ depth ih =>
    rw [Nat.add_right_comm, visitType, visitType]
    split
    next => rfl
    next hmem =>
      have hid : id ∉ visited := by simpa using hmem
      dsimp only
      split
      next => rfl
      next =>
        split
        next hlooks =>
          exact (passes_visitType hwf hlooks).visitProperties_congr (hwf.property_lt id)
            (hroom.cons hid hlt) fun other mid hother hmid => ih hother hmid
        next => rfl

/-- There is room for a walk that begins and may go deeper than there are types. -/
lemma hasRoom_nil (h : searcher.model.nodes.size < depth) : searcher.HasRoom depth [] where
  nodup := List.nodup_nil
  lt_size _ hid := absurd hid List.not_mem_nil
  size_lt := by simpa using h

/-! ## Finding types -/

/-- A type is found by its own text, or, if properties are looked at one by one, by what can be
reached through properties from it. -/
theorem findsType_iff (hwf : searcher.model.WellFormed)
    (htypes : searcher.looksAtTypes = true) (hlt : id < searcher.model.nodes.size) :
    searcher.findsType id = true ↔
      searcher.isMatch (searcher.typeText (searcher.model.node id)) = true ∨
        searcher.looksAtProperties = true ∧
          ∃ other, Relation.ReflTransGen searcher.model.HasPropertyOf id other ∧
            searcher.Shows other := by
  rw [findsType, htypes, Bool.true_and]
  constructor
  · intro h
    cases hlooks : searcher.looksAtProperties with
    | true => exact Or.inr ⟨rfl, exists_shows_of_visitType h⟩
    | false =>
      rw [visitType] at h
      simp only [List.contains_nil, Bool.false_eq_true, if_false, hlooks] at h
      split at h
      next hmatch => exact Or.inl hmatch
      next => exact absurd h Bool.false_ne_true
  · rintro (hmatch | ⟨hlooks, other, hreach, hshows⟩)
    · rw [visitType]
      simp only [List.contains_nil, Bool.false_eq_true, if_false, hmatch, if_true]
    · by_contra hnot
      obtain ⟨hid, hpasses⟩ := passes_visitType hwf hlooks id [] hlt
        (hasRoom_nil (Nat.lt_succ_self _)) (Bool.eq_false_iff.mpr hnot)
      exact hpasses.not_shows_of_reaches hid hreach hshows

/-- One of some criteria is among those of a search. -/
lemma looksAtAny_eq_true {criteria : List Criterion} :
    searcher.looksAtAny criteria = true ↔ ∃ criterion ∈ criteria,
      criterion ∈ searcher.criteria := by
  simp [looksAtAny, looksAt]

/-- The types that a search lists by name. -/
lemma getElem?_types_result {name : String} :
    searcher.result.types[name]? = some id ↔ (name, id) ∈ searcher.types := by
  have hdistinct : searcher.types.Pairwise fun first second =>
      ¬compare first.1 second.1 = .eq := by
    unfold types
    split
    · exact Std.TreeMap.distinct_keys_toList.filter _
    · exact List.Pairwise.nil
  have hsome : ∀ {other : TypeId}, (name, other) ∈ searcher.types →
      searcher.result.types[name]? = some other := fun hmem =>
    Std.TreeMap.getElem?_ofList_of_mem Std.ReflCmp.compare_self hdistinct hmem
  refine ⟨fun h => ?_, hsome⟩
  have hkey : name ∈ searcher.result.types :=
    Std.TreeMap.mem_iff_isSome_getElem?.mpr (by rw [h]; rfl)
  rw [result, Std.TreeMap.mem_ofList] at hkey
  obtain ⟨⟨_, other⟩, hmem, rfl⟩ := List.mem_map.mp (List.contains_iff_mem.mp hkey)
  obtain rfl := Option.some.inj ((hsome hmem).symm.trans h)
  exact hmem

/-- In a model that can be reached, a search that looks at types lists a named type just when it is
no container and is found: by its own text, or, if properties are looked at too, by the text of a
type, or of a property of a type, that can be reached through properties from it. A walk needs to go
no deeper than there are types, and a pattern that can be understood is searched for like this.

**Proof sketch.** What a walk finds can be reached. If a walk from a type finds nothing, all that it
has visited shows nothing, and what can be reached from there is among that. -/
theorem result_types_iff (searcher : Searcher) (h : searcher.model.Reachable)
    (hcriteria : Criterion.type ∈ searcher.criteria ∨ Criterion.status ∈ searcher.criteria) :
    (∀ (name : String) (id : TypeId), searcher.result.types[name]? = some id ↔
      searcher.model.names[name]? = some id ∧ (searcher.model.node id).element? = none ∧
        (searcher.isMatch (searcher.typeText (searcher.model.node id)) = true ∨
          (Criterion.property ∈ searcher.criteria ∨ Criterion.status ∈ searcher.criteria) ∧
            ∃ other, Relation.ReflTransGen searcher.model.HasPropertyOf id other ∧
              searcher.Shows other)) ∧
    (∀ (id : TypeId) (depth : Nat), id < searcher.model.nodes.size →
      searcher.model.nodes.size < depth →
        searcher.visitType depth id [] =
          searcher.visitType (searcher.model.nodes.size + 1) id []) ∧
    ∀ (text : String) (pattern : Pattern), Pattern.compile? text = some pattern →
      searcher.isMatch = pattern.isMatch →
        (searcher.model.search text searcher.criteria).result = searcher.result := by
  have hwf := h.settled.toWellFormed
  have htypes : searcher.looksAtTypes = true := looksAtAny_eq_true.mpr (by simpa using hcriteria)
  have hlisted : searcher.looksAtAny [.type, .title, .status] = true := by
    refine looksAtAny_eq_true.mpr ?_
    rcases hcriteria with htype | hstatus
    · exact ⟨.type, by simp, htype⟩
    · exact ⟨.status, by simp, hstatus⟩
  have hlooks : searcher.looksAtProperties = true ↔
      Criterion.property ∈ searcher.criteria ∨ Criterion.status ∈ searcher.criteria := by
    rw [looksAtProperties, looksAtAny_eq_true]
    simp
  refine ⟨fun name id => ?_, fun id depth hlt hdepth => ?_, fun text pattern hpattern hsame => ?_⟩
  · rw [getElem?_types_result, types, if_pos hlisted, List.mem_filter, ← hlooks, Bool.and_eq_true,
      Option.isNone_iff_eq_none, hwf.mem_types_iff, hwf.names_iff]
    refine and_congr_right fun hid => and_congr_right fun _ => ?_
    exact findsType_iff hwf htypes hid.1
  · obtain ⟨more, rfl⟩ := Nat.exists_eq_add_of_lt hdepth
    rw [Nat.add_right_comm]
    exact visitType_eq_of_hasRoom hwf hlt (hasRoom_nil (Nat.lt_succ_self _))
  · obtain ⟨model, isMatch, criteria⟩ := searcher
    obtain rfl := hsame
    rw [Model.search, hpattern]
    rfl

/-! ## A sample -/

/-- A document of boards and folders, which refer to each other. Who owns a folder is described. -/
def sampleDocument : Document where
  root := .object [
    ("swagger", .string "2.0"),
    ("definitions", .object [
      ("Board", .object [("properties",
        .object [("folder", Model.Reachable.sampleReference "Folder")])]),
      ("Folder", .object [("properties", .object [
        ("board", Model.Reachable.sampleReference "Board"),
        ("owner", .object [
          ("type", .string "string"), ("description", .string "who owns it")])])])])]

/-- A search of the sample document for what is described as its owner. -/
def sample : Searcher where
  model := Model.ofDocument sampleDocument
  isMatch text := text == "who owns it\t"
  criteria := [.type, .status, .description]

/-- The two types of the sample document have properties of each other, and the owner of a folder
is described. -/
lemma sample_nodes :
    sample.model.names["Board"]? = some 22 ∧ (sample.model.node 22).element? = none ∧
      sample.isMatch (sample.typeText (sample.model.node 22)) = false ∧
      (∃ property ∈ (sample.model.node 22).properties, property.type = 23) ∧
      (∃ property ∈ (sample.model.node 23).properties, property.type = 22) ∧
      ∃ property ∈ (sample.model.node 23).properties,
        sample.isMatch (sample.propertyText property) = true := by
  decide

/-- A board is listed since who owns its folder is described. -/
theorem result_types_sample :
    sample.result.types["Board"]? = some 22 ∧
      sample.isMatch (sample.typeText (sample.model.node 22)) = false ∧
      sample.model.HasPropertyOf 22 23 ∧ sample.model.HasPropertyOf 23 22 ∧ sample.Shows 23 := by
  obtain ⟨hname, helement, htext, hfolder, hboard, howner⟩ := sample_nodes
  obtain ⟨hiff, -, -⟩ := result_types_iff sample (.ofDocument sampleDocument) (by decide)
  have hshows : sample.Shows 23 := Or.inr howner
  have hlisted := (hiff "Board" 22).mpr
    ⟨hname, helement, Or.inr ⟨by decide, 23, .single hfolder, hshows⟩⟩
  exact ⟨hlisted, htext, hfolder, hboard, hshows⟩

end Searcher

end ClientGen
