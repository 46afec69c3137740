import ClientGen.Proofs.Generation.Declarations

/-!
# The rounds of a file of types

The file of types is rendered in rounds, since rendering a type may derive its write type. A round
looks at the types that have not been looked at, once each. The types that it adds are write types
and containers. Nothing is derived from those, so the second round adds no types, and there is
nothing to do in the third one. The bound on the number of rounds does not show.

## Main definitions

* `ClientGen.Declarations.pending` — the types that have not been looked at.
* `ClientGen.Backend.Round` — how far a round is.
* `ClientGen.Backend.WalkedAll` — that all types have been looked at.

## Main results

* `ClientGen.Backend.RendersTypes.round` — a round looks at all types that were pending.
* `ClientGen.Backend.RendersTypes.declareRounds` — two rounds or more look at all types.
* `ClientGen.Backend.declareRounds_add`, `ClientGen.Backend.RendersTypes.exists_declareRounds` —
  more rounds give the same.
-/

set_option autoImplicit false

namespace ClientGen

open Rendering

variable {backend : Backend} {fails : Prop} {Item : Model → TypeId → String → Prop}
  {model start : Model} {declarations : Declarations} {pass : Pass} {name : String} {id : Nat}

/-! ## What is pending -/

namespace Model

/-- The types of a model, by name. -/
lemma WellFormed.mem_types_iff (h : model.WellFormed) :
    (name, id) ∈ model.types ↔ id < model.nodes.size ∧ model.nameOf id = name := by
  rw [types, Std.TreeMap.mem_toList_iff_getElem?_eq_some, h.names_iff]

/-- A model has no type twice. -/
lemma WellFormed.nodup_types (h : model.WellFormed) : (model.types.map Prod.snd).Nodup := by
  refine List.pairwise_map.mpr ?_
  refine (Std.TreeMap.distinct_keys_toList (t := model.names)).imp_of_mem ?_
  rintro ⟨first, id⟩ ⟨second, other⟩ hfirst hsecond hne heq
  have hid : id = other := heq
  subst hid
  rw [(h.mem_types_iff.mp hfirst).2.symm, (h.mem_types_iff.mp hsecond).2.symm] at hne
  exact hne Std.ReflCmp.compare_self

/-- A write type has no write type. -/
lemma Settled.writeType_of_isWritten (h : model.Settled) (hw : (model.node id).kind.IsWritten)
    (hd : (model.node id).kind.IsDeclarable) : Model.writeType id model = (none, model) := by
  have hleaf : (model.node id).element? = none := Backend.element?_of_isDeclarable hd
  apply writeType_of_not
  rw [innermost_of_not_container hleaf]
  cases hk : (model.node id).kind with
  | write source => exact h.not_hasWriteType_of_write hk
  | container wrapper element => rw [hk] at hd; exact hd.elim
  | _ => rw [hk] at hw; exact hw.elim

end Model

/-- The types of a model that have not been looked at. -/
def Declarations.pending (declarations : Declarations) (model : Model) : List (String × TypeId) :=
  model.types.filter fun (_, id) => !declarations.visited.contains id

/-- A type is pending exactly if it is there and has not been looked at. -/
lemma Declarations.mem_pending_iff (h : model.WellFormed) :
    (name, id) ∈ declarations.pending model ↔
      (id < model.nodes.size ∧ model.nameOf id = name) ∧ id ∉ declarations.visited := by
  simp [pending, h.mem_types_iff]

/-- If all types have been looked at, none is pending. -/
lemma Declarations.pending_eq_nil (h : model.WellFormed)
    (hall : ∀ id < model.nodes.size, id ∈ declarations.visited) :
    declarations.pending model = [] := by
  refine List.eq_nil_iff_forall_not_mem.mpr ?_
  rintro ⟨name, id⟩ hmem
  obtain ⟨⟨hlt, -⟩, hnot⟩ := (mem_pending_iff h).mp hmem
  exact hnot (hall id hlt)

namespace Backend

/-! ## A round -/

/-- How far a round is that began at a model with some types to look at, some of which are left. -/
structure Round (backend : Backend) (fails : Prop) (Item : Model → TypeId → String → Prop)
    (start : Model) (pending left : List (String × TypeId)) (declarations : Declarations)
    (model : Model) : Prop where
  walked : Walked backend Item declarations model
  settled : model.Settled
  isNamed : fails ∨ model.IsNamed
  derivesTo : start.DerivesTo model
  /-- The types that have been added are write types and containers. -/
  isWritten : ∀ id : TypeId, start.nodes.size ≤ id → id < model.nodes.size →
    (model.node id).kind.IsWritten
  /-- Looking at write types and containers only adds nothing. -/
  unchanged : (∀ entry ∈ pending, (start.node entry.2).kind.IsWritten) → model = start
  subset : left ⊆ pending
  not_visited : ∀ entry ∈ left, entry.2 ∉ declarations.visited
  nodup : (left.map Prod.snd).Nodup
  /-- The types to begin with have been looked at or are left. -/
  covers : ∀ id < start.nodes.size, id ∈ declarations.visited ∨ id ∈ left.map Prod.snd

/-- A round begins with all types that have not been looked at. -/
lemma Round.begin (hset : start.Settled) (hnamed : fails ∨ start.IsNamed)
    (hw : Walked backend Item declarations start) :
    Round backend fails Item start (declarations.pending start) (declarations.pending start)
      declarations start where
  walked := hw
  settled := hset
  isNamed := hnamed
  derivesTo := .refl
  isWritten _ hle hlt := absurd hlt (Nat.not_lt_of_le hle)
  unchanged _ := rfl
  subset _ h := h
  not_visited entry hmem := ((Declarations.mem_pending_iff hset.toWellFormed).mp hmem).2
  nodup := hset.toWellFormed.nodup_types.sublist (List.filter_sublist.map Prod.snd)
  covers id hid := by
    by_cases hv : id ∈ declarations.visited
    · exact Or.inl hv
    · have hmem : (start.nameOf id, id) ∈ declarations.pending start :=
        (Declarations.mem_pending_iff hset.toWellFormed).mpr ⟨⟨hid, rfl⟩, hv⟩
      exact Or.inr (List.mem_map.mpr ⟨_, hmem, rfl⟩)

/-- Looking at the next type of a round. -/
lemma RendersTypes.step (hb : backend.RendersTypes fails Item) (hstart : start.Settled)
    {pending rest : List (String × TypeId)} {entry : String × TypeId}
    (hpending : ∀ entry ∈ pending, start.names[entry.1]? = some entry.2)
    (h : Round backend fails Item start pending (entry :: rest) declarations pass.model) :
    (backend.declare declarations entry).Ensures fails pass fun walked after =>
      Round backend fails Item start pending rest walked after.model := by
  obtain ⟨name, id⟩ := entry
  have hmem : (name, id) ∈ pending := h.subset List.mem_cons_self
  have hext : start.Extends start.nodes.size pass.model :=
    hstart.extends_of_derivesTo h.derivesTo
  have hname : pass.model.names[name]? = some id := hext.names_le _ _ (hpending _ hmem)
  obtain ⟨hnot, hnodup⟩ := List.nodup_cons.mp h.nodup
  refine (hb.declare h.settled h.isNamed h.walked (h.not_visited _ List.mem_cons_self) hname).imp
    fun walked after hafter => ?_
  obtain ⟨hwalked, hvisited, hmodel⟩ := hafter
  have hkeeps : ∀ {P : Model → Prop}, P pass.model → P (pass.model.writeType id).2 →
      P after.model := by
    intro P hsame hwritten
    rcases hmodel with he | ⟨-, he⟩ <;> rwa [he]
  exact {
    walked := hwalked
    settled := hkeeps h.settled (h.settled.writeType id)
    isNamed := hkeeps (P := fun mid => fails ∨ mid.IsNamed) h.isNamed
      (h.isNamed.imp_right fun hn => hn.writeType h.settled id)
    derivesTo := hkeeps h.derivesTo (h.derivesTo.writeType id)
    isWritten := hkeeps (P := Model.HasKinds (fun kind _ => kind.IsWritten) start.nodes.size)
      h.isWritten (h.settled.isWritten_writeType h.isWritten id)
    unchanged := by
      intro hall
      have hsame : pass.model = start := h.unchanged hall
      rcases hmodel with he | ⟨hd, he⟩
      · rw [he, hsame]
      · rw [hsame] at hd he
        rw [he, hstart.writeType_of_isWritten (hall _ hmem) (isDeclarable_of_declares hd)]
    subset := fun _ hr => h.subset (List.mem_cons_of_mem _ hr)
    not_visited := by
      intro other ho
      rw [hvisited, List.mem_cons, not_or]
      refine ⟨?_, h.not_visited other (List.mem_cons_of_mem _ ho)⟩
      intro heq
      exact hnot (heq ▸ List.mem_map_of_mem ho)
    nodup := hnodup
    covers := by
      intro other ho
      rw [hvisited, List.mem_cons]
      rcases h.covers other ho with hv | hl
      · exact Or.inl (Or.inr hv)
      · rcases List.mem_cons.mp hl with heq | hr
        · exact Or.inl (Or.inl heq)
        · exact Or.inr hr }

/-- A round looks at all types that were pending. -/
theorem RendersTypes.round (hb : backend.RendersTypes fails Item) (hset : pass.model.Settled)
    (hnamed : fails ∨ pass.model.IsNamed) (hw : Walked backend Item declarations pass.model) :
    ((declarations.pending pass.model).foldlM backend.declare declarations).Ensures fails pass
      fun walked after => Round backend fails Item pass.model (declarations.pending pass.model) []
        walked after.model := by
  have hpending : ∀ entry ∈ declarations.pending pass.model,
      pass.model.names[entry.1]? = some entry.2 := fun entry hmem =>
    (hset.names_iff _ _).mpr ((Declarations.mem_pending_iff hset.toWellFormed).mp hmem).1
  let holds (left : List (String × TypeId)) (walked : Declarations) (mid : Pass) : Prop :=
    Round backend fails Item pass.model (declarations.pending pass.model) left walked mid.model
  have hstep : ∀ entry rest walked mid, holds (entry :: rest) walked mid →
      (backend.declare walked entry).Ensures fails mid (holds rest) :=
    fun _ _ _ _ h => hb.step hset hpending h
  exact Ensures.foldlM hstep _ (Round.begin hset hnamed hw)

/-! ## All rounds -/

/-- All types have been looked at. -/
structure WalkedAll (backend : Backend) (Item : Model → TypeId → String → Prop) (start : Model)
    (declarations : Declarations) (model : Model) : Prop extends
    Walked backend Item declarations model where
  settled : model.Settled
  derivesTo : start.DerivesTo model
  mem_visited : ∀ id < model.nodes.size, id ∈ declarations.visited

/-- One round and the others. -/
lemma run_declareRounds_succ (rounds : Nat) :
    (backend.declareRounds (rounds + 1) declarations).run.run pass =
      if (declarations.pending pass.model).isEmpty then (.ok declarations, pass)
      else ((declarations.pending pass.model).foldlM backend.declare declarations >>=
        backend.declareRounds rounds).run.run pass := by
  show StateT.run (ExceptT.run (if (declarations.pending pass.model).isEmpty
    then pure declarations
    else (declarations.pending pass.model).foldlM backend.declare declarations >>=
      backend.declareRounds rounds : Rendering Declarations)) pass = _
  split <;> rfl

/-- There is nothing to do when all types have been looked at. -/
lemma declareRounds_of_visited (h : pass.model.WellFormed)
    (hall : ∀ id < pass.model.nodes.size, id ∈ declarations.visited) (rounds : Nat) :
    (backend.declareRounds rounds declarations).run.run pass = (.ok declarations, pass) := by
  cases rounds with
  | zero => rfl
  | succ rounds =>
    rw [run_declareRounds_succ, Declarations.pending_eq_nil h hall]
    rfl

/-- What one round and the others ensure. -/
lemma ensures_declareRounds_succ {good : Declarations → Pass → Prop} {rounds : Nat}
    (hnil : declarations.pending pass.model = [] → good declarations pass)
    (hcons : ((declarations.pending pass.model).foldlM backend.declare declarations >>=
      backend.declareRounds rounds).Ensures fails pass good) :
    (backend.declareRounds (rounds + 1) declarations).Ensures fails pass good := by
  unfold Ensures at hcons ⊢
  rw [run_declareRounds_succ]
  by_cases hp : (declarations.pending pass.model).isEmpty = true
  · rw [if_pos hp]
    exact hnil (List.isEmpty_iff.mp hp)
  · rwa [if_neg hp]

/-- If nothing is pending, all types have been looked at. -/
lemma mem_visited_of_pending_eq_nil (h : model.WellFormed)
    (hnil : declarations.pending model = []) :
    ∀ id < model.nodes.size, id ∈ declarations.visited := by
  intro id hid
  by_contra hnot
  have hmem : (model.nameOf id, id) ∈ declarations.pending model :=
    (Declarations.mem_pending_iff h).mpr ⟨⟨hid, rfl⟩, hnot⟩
  rw [hnil] at hmem
  exact List.not_mem_nil hmem

/-- If only write types and containers have not been looked at, one round or more looks at all
types.

**Proof sketch.** The round adds no types, so all types have been looked at after it. -/
lemma RendersTypes.declareRounds_last (hb : backend.RendersTypes fails Item)
    (hset : pass.model.Settled) (hnamed : fails ∨ pass.model.IsNamed)
    (hw : Walked backend Item declarations pass.model)
    (hwritten : ∀ id : TypeId, id < pass.model.nodes.size → id ∉ declarations.visited →
      (pass.model.node id).kind.IsWritten) (rounds : Nat) :
    (backend.declareRounds (rounds + 1) declarations).Ensures fails pass fun walked after =>
      WalkedAll backend Item pass.model walked after.model := by
  refine ensures_declareRounds_succ (fun hnil => ?_)
    ((hb.round hset hnamed hw).bind fun walked after hround => ?_)
  · exact ⟨hw, hset, .refl, mem_visited_of_pending_eq_nil hset.toWellFormed hnil⟩
  · have hsame : after.model = pass.model := by
      refine hround.unchanged ?_
      rintro ⟨name, id⟩ hmem
      obtain ⟨⟨hlt, -⟩, hnot⟩ := (Declarations.mem_pending_iff hset.toWellFormed).mp hmem
      exact hwritten id hlt hnot
    have hall : ∀ id < after.model.nodes.size, id ∈ walked.visited := by
      intro id hid
      rw [hsame] at hid
      exact (hround.covers id hid).resolve_right List.not_mem_nil
    unfold Ensures
    rw [declareRounds_of_visited hround.settled.toWellFormed hall]
    exact ⟨hround.walked, hround.settled, hround.derivesTo, hall⟩

/-- Two rounds or more look at all types.

**Proof sketch.** After the first round only types that it has added have not been looked at, and
those are write types and containers. -/
theorem RendersTypes.declareRounds (hb : backend.RendersTypes fails Item)
    (hset : pass.model.Settled) (hnamed : fails ∨ pass.model.IsNamed)
    (hw : Walked backend Item declarations pass.model) (rounds : Nat) :
    (backend.declareRounds (rounds + 2) declarations).Ensures fails pass fun walked after =>
      WalkedAll backend Item pass.model walked after.model := by
  refine ensures_declareRounds_succ (fun hnil => ?_)
    ((hb.round hset hnamed hw).bind fun walked after hround => ?_)
  · exact ⟨hw, hset, .refl, mem_visited_of_pending_eq_nil hset.toWellFormed hnil⟩
  · refine (hb.declareRounds_last hround.settled hround.isNamed hround.walked ?_ rounds).imp
      fun last final hlast => ?_
    · intro id hlt hnot
      refine hround.isWritten id (Nat.le_of_not_lt fun hold => hnot ?_) hlt
      exact (hround.covers id hold).resolve_right List.not_mem_nil
    · exact ⟨hlast.toWalked, hlast.settled, hround.derivesTo.trans hlast.derivesTo,
        hlast.mem_visited⟩

/-- If all types have been looked at after some rounds, more rounds give the same.

**Proof sketch.** Induction on the number of rounds. After the last one there is nothing to do. -/
theorem declareRounds_add {rounds : Nat} {walked : Declarations} {after : Pass}
    (hrun : (backend.declareRounds rounds declarations).run.run pass = (.ok walked, after))
    (h : after.model.WellFormed) (hall : ∀ id < after.model.nodes.size, id ∈ walked.visited)
    (more : Nat) :
    (backend.declareRounds (rounds + more) declarations).run.run pass = (.ok walked, after) := by
  induction rounds generalizing declarations pass with
  | zero =>
    obtain ⟨hok, rfl⟩ := Prod.mk.inj hrun
    obtain rfl := Except.ok.inj hok
    exact declareRounds_of_visited h hall _
  | succ rounds ih =>
    rw [Nat.succ_add, run_declareRounds_succ]
    rw [run_declareRounds_succ] at hrun
    split_ifs at hrun ⊢
    · exact hrun
    · rw [ExceptT.run_bind, StateT.run_bind] at hrun ⊢
      rcases hr : ((declarations.pending pass.model).foldlM backend.declare declarations).run.run
        pass with ⟨error | value, mid⟩ <;> rw [hr] at hrun
      · have herror : (Except.error error, mid) = (Except.ok walked, after) := hrun
        simp at herror
      · exact ih hrun

/-- If rendering may fail in no case, two rounds or more look at all types and give the same. -/
theorem RendersTypes.exists_declareRounds (hb : backend.RendersTypes False Item)
    (hset : pass.model.Settled) (hnamed : pass.model.IsNamed) :
    ∃ walked after, WalkedAll backend Item pass.model walked after.model ∧
      ∀ rounds : Nat, 2 ≤ rounds →
        (backend.declareRounds rounds {}).run.run pass = (.ok walked, after) := by
  have htwo : (backend.declareRounds 2 {}).Ensures False pass fun walked after =>
      WalkedAll backend Item pass.model walked after.model :=
    hb.declareRounds hset (Or.inr hnamed) (.empty backend Item _) 0
  obtain ⟨walked, after, hrun, hall⟩ := htwo.exists_ok
  refine ⟨walked, after, hall, fun rounds hle => ?_⟩
  obtain ⟨more, rfl⟩ := Nat.exists_eq_add_of_le hle
  exact declareRounds_add hrun hall.settled.toWellFormed hall.mem_visited more

end Backend

end ClientGen
