import ClientGen.Proofs.Registry
import ClientGen.Proofs.Generation.Outcomes

/-!
# What a pass refers to

A file refers to the types that its pass counts, and a container stands for the type inside it. The
names that a file refers to do not change when further types are derived, since types keep their
names and containers keep their elements. Spelling a type refers to the type inside it, and its
outcome is a function of the model and of the kind of the file.

## Main definitions

* `ClientGen.Model.customName?` — the name that a reference to a type is one to.
* `ClientGen.Pass.RefersTo` — that the file of a pass refers to a name.
* `ClientGen.Pass.Sound` — passes over models that can be reached, which count types of the model.
* `ClientGen.TypeSpellings.spelled` — a type as it is written, as a function of the model.
* `ClientGen.Rendering.Results` — the outcome of rendering, the model and the references afterwards.

## Main results

* `ClientGen.Pass.mem_referencedNames`, `ClientGen.Pass.pairwise_referencedNames` — the names that
  the head of a file lists.
* `ClientGen.Rendering.run_spell` — the outcome of spelling a type, and what is counted.
* `ClientGen.Rendering.results_spell` — what spelling a type does.
-/

set_option autoImplicit false

namespace ClientGen

/-! ## Names that are referred to -/

namespace Model

variable {limit : Nat} {model old new : Model} {id first second : Nat}

/-- The name that a reference to a type is one to: that of the type inside all containers, unless
that is built in. -/
def customName? (model : Model) (id : TypeId) : Option String :=
  (model.customType? id).map model.nameOf

/-- A type refers to the name of the type inside it, if that is not built in. -/
lemma customName?_eq (model : Model) (id : Nat) :
    model.customName? id = if (model.node (model.innermost id)).isIntrinsic then none
      else some (model.nameOf (model.innermost id)) := by
  unfold customName? customType?
  dsimp only
  split_ifs <;> rfl

namespace Extends

/-- In an extension a type with the same type inside it is referred to by the same name. -/
lemma customName?_eq_of_innermost (he : Extends limit old new) (hold : old.WellFormed)
    (hfirst : first < old.nodes.size) (hin : new.innermost second = old.innermost first) :
    new.customName? second = old.customName? first := by
  have hlt : old.innermost first < old.nodes.size :=
    Nat.lt_of_le_of_lt (hold.innermost_le first) hfirst
  rw [Model.customName?_eq, Model.customName?_eq, hin, he.isIntrinsic_eq hlt, he.nameOf_eq hlt]

/-- In an extension a type is referred to by the same name. -/
lemma customName?_eq (he : Extends limit old new) (hold : old.WellFormed) (hnew : new.WellFormed)
    (hid : id < old.nodes.size) : new.customName? id = old.customName? id :=
  he.customName?_eq_of_innermost hold hid (he.innermost_eq hold hnew hid)

end Extends

end Model

/-! ## Passes -/

namespace Pass

variable {pass : Pass} {name : String} {id : Nat} {new : Model}

/-- The file that is rendered refers to the name so far. -/
def RefersTo (pass : Pass) (name : String) : Prop :=
  ∃ id ∈ pass.counts, pass.model.customName? id = some name

/-- The names that the head of a file lists are those that the file refers to. -/
theorem mem_referencedNames : name ∈ pass.referencedNames ↔ pass.RefersTo name := by
  rw [referencedNames, Std.TreeSet.mem_toList, referenced, Std.TreeSet.mem_ofList,
    List.contains_iff_mem, List.mem_map]
  constructor
  · rintro ⟨inner, hmem, hname⟩
    obtain ⟨id, hid, hinner⟩ := List.mem_filterMap.mp hmem
    refine ⟨id, Std.TreeMap.mem_keys.mp hid, ?_⟩
    rw [Model.customName?, hinner, Option.map_some, hname]
  · rintro ⟨id, hid, hname⟩
    obtain ⟨inner, hinner, hname⟩ := Option.map_eq_some_iff.mp hname
    exact ⟨inner, List.mem_filterMap.mpr ⟨id, Std.TreeMap.mem_keys.mpr hid, hinner⟩, hname⟩

/-- The names that the head of a file lists are in order, and none is there twice. -/
theorem pairwise_referencedNames (pass : Pass) : pass.referencedNames.Pairwise (· < ·) := by
  have h := pass.referenced.ordered_toList
  exact h.imp fun hlt => compareOfLessAndEq_eq_lt.mp hlt

/-- No name is listed twice. -/
lemma nodup_referencedNames (pass : Pass) : pass.referencedNames.Nodup := by
  refine pass.pairwise_referencedNames.imp fun hlt heq => ?_
  subst heq
  exact String.lt_irrefl _ hlt

/-- Passes that refer to the same names list the same names. -/
lemma referencedNames_congr {other : Pass}
    (h : ∀ name, other.RefersTo name ↔ pass.RefersTo name) :
    other.referencedNames = pass.referencedNames := by
  have hperm : other.referencedNames.Perm pass.referencedNames :=
    (List.perm_ext_iff_of_nodup other.nodup_referencedNames pass.nodup_referencedNames).mpr
      fun name => by rw [mem_referencedNames, mem_referencedNames, h]
  exact hperm.eq_of_pairwise (fun _ _ _ _ h₁ h₂ => absurd (String.lt_trans h₁ h₂)
    (String.lt_irrefl _)) other.pairwise_referencedNames pass.pairwise_referencedNames

/-- One more reference to a type is one more reference to its name. -/
lemma refersTo_countReference :
    (pass.countReference id).RefersTo name ↔
      pass.RefersTo name ∨ pass.model.customName? id = some name := by
  have hmem : ∀ i : Nat, i ∈ pass.counts.insert id (pass.count id + 1) ↔
      i = id ∨ i ∈ pass.counts := fun i => by
    rw [Std.TreeMap.mem_insert, Std.LawfulEqCmp.compare_eq_iff_eq, eq_comm]
  constructor
  · rintro ⟨i, hi, hname⟩
    rcases (hmem i).mp hi with rfl | hi
    · exact Or.inr hname
    · exact Or.inl ⟨i, hi, hname⟩
  · rintro (⟨i, hi, hname⟩ | hname)
    · exact ⟨i, (hmem i).mpr (Or.inr hi), hname⟩
    · exact ⟨id, (hmem id).mpr (Or.inl rfl), hname⟩

/-- The pass after one more reference to each of the types. -/
def countReferences (pass : Pass) (ids : List TypeId) : Pass := ids.foldl countReference pass

/-- References change nothing but what is counted. -/
lemma countReferences_eq (ids : List TypeId) (pass : Pass) :
    pass.countReferences ids = { pass with counts := (pass.countReferences ids).counts } := by
  induction ids generalizing pass with
  | nil => rfl
  | cons id ids ih => exact ih (pass.countReference id)

/-- More references are references to their names. -/
lemma refersTo_countReferences {ids : List TypeId} :
    (pass.countReferences ids).RefersTo name ↔
      pass.RefersTo name ∨ ∃ id ∈ ids, pass.model.customName? id = some name := by
  induction ids generalizing pass with
  | nil => simp [countReferences]
  | cons id ids ih =>
    show ((pass.countReference id).countReferences ids).RefersTo name ↔ _
    rw [ih, refersTo_countReference, List.exists_mem_cons_iff, or_assoc]
    rfl

/-- A pass over a model that can be reached, which has counted references to types of the model
only. -/
structure Sound (pass : Pass) : Prop where
  reachable : pass.model.Reachable
  counted_lt : ∀ id ∈ pass.counts, id < pass.model.nodes.size

namespace Sound

/-- The model of the pass is settled. -/
lemma settled (h : pass.Sound) : pass.model.Settled := h.reachable.settled

/-- A reference to a type of the model keeps a pass sound. -/
lemma countReference (h : pass.Sound) (hid : id < pass.model.nodes.size) :
    (pass.countReference id).Sound := by
  refine ⟨h.reachable, fun i hi => ?_⟩
  have hmem : i ∈ pass.counts.insert id (pass.count id + 1) := hi
  rw [Std.TreeMap.mem_insert, Std.LawfulEqCmp.compare_eq_iff_eq] at hmem
  rcases hmem with rfl | hi
  · exact hid
  · exact h.counted_lt i hi

/-- References to types of the model keep a pass sound. -/
lemma countReferences {ids : List TypeId} (h : pass.Sound)
    (hids : ∀ id ∈ ids, id < pass.model.nodes.size) : (pass.countReferences ids).Sound := by
  induction ids generalizing pass with
  | nil => exact h
  | cons id ids ih =>
    exact ih (h.countReference (hids id List.mem_cons_self))
      fun other hother => hids other (List.mem_cons_of_mem _ hother)

/-- Going on to another file keeps a pass sound. -/
lemma beginFile (h : pass.Sound) (file : FileKind) :
    ({ pass with file, counts := ∅ } : Pass).Sound :=
  ⟨h.reachable, fun _ hid => absurd hid Std.TreeMap.not_mem_emptyc⟩

/-- Deriving types keeps a pass sound, and the file refers to the same names. -/
lemma derivesTo (h : pass.Sound) (hd : pass.model.DerivesTo new) :
    ({ pass with model := new } : Pass).Sound ∧
      ∀ name, ({ pass with model := new } : Pass).RefersTo name ↔ pass.RefersTo name := by
  have he := h.settled.extends_of_derivesTo hd
  have hnew : new.WellFormed := (h.settled.derivesTo hd).toWellFormed
  refine ⟨⟨h.reachable.derivesTo hd,
    fun id hid => Nat.lt_of_lt_of_le (h.counted_lt id hid) he.size_le⟩, fun name => ?_⟩
  refine exists_congr fun id => and_congr_right fun hid => ?_
  rw [he.customName?_eq h.settled.toWellFormed hnew (h.counted_lt id hid)]

end Sound

/-- A file that has just begun refers to nothing. -/
lemma not_refersTo_beginFile (file : FileKind) :
    ¬({ pass with file, counts := ∅ } : Pass).RefersTo name :=
  fun ⟨_, hid, _⟩ => absurd hid Std.TreeMap.not_mem_emptyc

end Pass

/-! ## Spellings -/

namespace TypeSpellings

variable {spellings : TypeSpellings} {old new : Model} {first second limit : Nat}

/-- A type that is no container as it is written in a file of some kind. -/
def leafIn (spellings : TypeSpellings) (file : FileKind) (node : TypeNode) :
    Except Failure Spelling :=
  if node.isIntrinsic then
    match spellings.intrinsic? node.name with
    | some spelling => .ok spelling
    | none => .error (.backend (.unknownIntrinsic spellings.language node.name))
  else if node.name.isEmpty && node.element?.isNone then
    .error (.spec (.namelessType node.schema))
  else .ok (spellings.declared file node.name)

/-- The containers of the given shapes, from outside, around a type that is written in the given
way. -/
def around (spellings : TypeSpellings) (file : FileKind) (wrappers : List Wrapper)
    (inner : Spelling) : Spelling :=
  wrappers.foldr (fun wrapper spelling => spellings.container file wrapper spelling.name) inner

/-- A type as it is written in a file of some kind: the type inside all containers, in those
containers. -/
def spelled (spellings : TypeSpellings) (file : FileKind) (model : Model) (id : TypeId) :
    Except Failure Spelling :=
  (spellings.leafIn file (model.node (model.innermost id))).map
    (spellings.around file (model.unwrap id).1)

/-- Only the name, the kind and the schema of a type that is no container matter for how it is
written. -/
lemma leafIn_congr (spellings : TypeSpellings) (file : FileKind) {node other : TypeNode}
    (h : other.bare = node.bare) : spellings.leafIn file other = spellings.leafIn file node := by
  have hname : other.name = node.name := (congrArg TypeNode.name h :)
  have hkind : other.kind = node.kind := (congrArg TypeNode.kind h :)
  have hschema : other.schema = node.schema := (congrArg TypeNode.schema h :)
  have hintrinsic : other.isIntrinsic = node.isIntrinsic := by
    rw [TypeNode.isIntrinsic, TypeNode.isIntrinsic, hkind]
  have helement : other.element? = node.element? := by
    rw [TypeNode.element?, TypeNode.element?, hkind]
  rw [leafIn, leafIn, hname, hintrinsic, helement, hschema]

/-- In an extension a type with the same containers around the same type inside is written the
same. -/
lemma spelled_of_extends (spellings : TypeSpellings) (file : FileKind)
    (he : old.Extends limit new) (hold : old.WellFormed) (hfirst : first < old.nodes.size)
    (hun : new.unwrap second = old.unwrap first) :
    spellings.spelled file new second = spellings.spelled file old first := by
  have hin : new.innermost second = old.innermost first := congrArg Prod.snd hun
  have hlt : old.innermost first < old.nodes.size :=
    Nat.lt_of_le_of_lt (hold.innermost_le first) hfirst
  rw [spelled, spelled, hun, hin, leafIn_congr spellings file (he.bare_eq _ hlt)]

/-- Spelling a type that is no container changes nothing. -/
lemma run_leaf (spellings : TypeSpellings) (node : TypeNode) (pass : Pass) :
    (spellings.leaf node).run.run pass = (spellings.leafIn pass.file node, pass) := by
  unfold leaf leafIn Rendering.ensureNamed
  split_ifs
  · cases spellings.intrinsic? node.name <;> rfl
  · rfl
  · rfl

end TypeSpellings

/-! ## Outcomes -/

namespace Rendering

variable {α β : Type} {pass : Pass} {id : Nat}

/-- Rendering ends with the given outcome, leaves the given model, and refers to some names more
than before. All else of the pass stays. -/
def Results (rendering : Rendering α) (pass : Pass) (result : Except Failure α) (model : Model)
    (names : String → Prop) : Prop :=
  ∃ counts, rendering.run.run pass = (result, { pass with model, counts }) ∧
    ({ pass with model, counts } : Pass).Sound ∧
    ∀ name, ({ pass with model, counts } : Pass).RefersTo name ↔ pass.RefersTo name ∨ names name

/-- Spelling a type ends with the type as it is written, in a pass that has counted a reference to
the type and to types inside it, all of them to one name.

**Proof sketch.** Induction along the walk to the type inside. At a container the spelling goes on
at the element, in a pass that has counted a reference to the container, which is one to the same
name. -/
lemma run_spell (spellings : TypeSpellings) (h : pass.model.WellFormed) (id : TypeId) :
    ∃ inner : List TypeId,
      (spellings.spell id).run.run pass =
        (spellings.spelled pass.file pass.model id, pass.countReferences (id :: inner)) ∧
      ∀ i ∈ inner, i < id ∧ pass.model.customName? i = pass.model.customName? id := by
  generalize hm : pass.model = model at h ⊢
  induction id using h.container_induction generalizing pass with
  | leaf id hleaf =>
    subst hm
    refine ⟨[], ?_, fun _ hi => absurd hi List.not_mem_nil⟩
    rw [TypeSpellings.spell, Model.spellWithin_of_not_container hleaf, TypeSpellings.run_leaf,
      TypeSpellings.spelled, Model.unwrap_of_not_container hleaf,
      Model.innermost_of_not_container hleaf]
    show (spellings.leafIn pass.file _, _) = _
    cases spellings.leafIn pass.file (pass.model.node id) <;> rfl
  | container id wrapper element hk ih =>
    subst hm
    have hlt : element < id := h.element_lt id wrapper element hk
    have hun := h.unwrap_container hk
    have hname : pass.model.customName? element = pass.model.customName? id := by
      rw [Model.customName?_eq, Model.customName?_eq, Model.innermost, Model.innermost, hun]
    obtain ⟨inner, hrun, hinner⟩ := @ih (pass.countReference id) rfl
    refine ⟨element :: inner, ?_, fun i hi => ?_⟩
    · obtain ⟨n, rfl⟩ := Nat.exists_eq_succ_of_ne_zero (Nat.ne_of_gt (Nat.zero_lt_of_lt hlt))
      generalize hafter : pass.countReferences ((n + 1 : Nat) :: element :: inner) = after
      have hfile : after.file = pass.file := by
        rw [← hafter, Pass.countReferences_eq]
      have hinnerRun : (spellings.spell element).run.run (pass.countReference (n + 1)) =
          (spellings.spelled pass.file pass.model element, after) := hrun.trans (hafter ▸ rfl)
      rw [TypeSpellings.spell, Model.spellWithin_container hk, ExceptT.run_bind]
      show StateT.run _ _ = _
      rw [StateT.run_bind, Model.WellFormed.spellWithin_eq spellings element n
        (Nat.le_of_lt_succ hlt) (pass.countReference _) h, hinnerRun, TypeSpellings.spelled,
        TypeSpellings.spelled, Model.innermost, Model.innermost, hun]
      cases spellings.leafIn pass.file (pass.model.node (pass.model.unwrap element).2) with
      | error failure => rfl
      | ok leaf => exact congrArg (fun file => (Except.ok (spellings.container file wrapper
          (spellings.around pass.file (pass.model.unwrap element).1 leaf).name), after)) hfile
    · obtain rfl | hi := List.mem_cons.mp hi
      · exact ⟨hlt, hname⟩
      · exact ⟨Nat.lt_trans (hinner i hi).1 hlt, (hinner i hi).2.trans hname⟩

/-- What spelling a type does: it refers to the name of the type inside. -/
theorem results_spell (spellings : TypeSpellings) (h : pass.Sound)
    (hid : id < pass.model.nodes.size) :
    (spellings.spell id).Results pass (spellings.spelled pass.file pass.model id) pass.model
      fun name => pass.model.customName? id = some name := by
  obtain ⟨inner, hrun, hinner⟩ := run_spell spellings h.settled.toWellFormed id
  have hids : ∀ i ∈ id :: inner, i < pass.model.nodes.size := by
    intro i hi
    obtain rfl | hi := List.mem_cons.mp hi
    · exact hid
    · exact Nat.lt_trans (hinner i hi).1 hid
  have hsound := h.countReferences hids
  have hrefers : ∀ name, (pass.countReferences (id :: inner)).RefersTo name ↔
      pass.RefersTo name ∨ pass.model.customName? id = some name := by
    intro name
    rw [Pass.refersTo_countReferences, List.exists_mem_cons_iff]
    refine or_congr_right (or_iff_left_of_imp ?_)
    rintro ⟨i, hi, hname⟩
    exact (hinner i hi).2.symm.trans hname
  rw [Pass.countReferences_eq] at hrun hsound hrefers
  exact ⟨_, hrun, hsound, hrefers⟩

end Rendering

end ClientGen
