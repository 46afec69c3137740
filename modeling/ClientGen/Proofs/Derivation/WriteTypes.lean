import Mathlib.Data.Finset.Card
import Mathlib.Data.Finset.Range
import ClientGen.Proofs.Graph.Resolution
import ClientGen.Proofs.Derivation.Coherence

/-!
# Deriving write types

Deriving the write type of a type derives the write types of the types of its properties, and so
on. The recursion is bounded, but the bound does not show: each level registers the shape of a
type below the limit that led nowhere before, so no more levels than such types are needed.

## Main definitions

* `ClientGen.Model.unrecorded` — how many types below a limit have a shape that leads nowhere.
* `ClientGen.Model.Repoints`, `ClientGen.Model.Writes` — what pointing properties at write types
  and deriving a write type have to do.

## Main results

* `ClientGen.Model.writeCore_spec`, `ClientGen.Model.writeAround_spec` — one level of the recursion.
* `ClientGen.Model.writeType_spec` — deriving a write type.
* `ClientGen.Model.writeType_of_not`, `ClientGen.Model.writeType_of_recorded` — a type without a
  write type, and a type whose write type is there, leave the model as it is.
-/

set_option autoImplicit false

namespace ClientGen.Model

variable {limit depth : Nat} {pending : List TypeId} {model old new : Model} {id : Nat}

/-! ## What is left to do -/

/-- How many types below a limit have a shape that leads nowhere. -/
def unrecorded (limit : Nat) (model : Model) : Nat :=
  ((Finset.range limit).filter fun id => model.derived[model.writeKey id]? = none).card

/-- No more types than there are below the limit have a shape that leads nowhere. -/
lemma unrecorded_le (limit : Nat) (model : Model) : unrecorded limit model ≤ limit :=
  (Finset.card_filter_le _ _).trans_eq (Finset.card_range limit)

/-- In an extension fewer shapes lead nowhere. -/
lemma ClosedBelow.unrecorded_subset (h : old.ClosedBelow limit) (he : old.Extends limit new)
    (hnew : new.WellFormed) :
    ((Finset.range limit).filter fun id => new.derived[new.writeKey id]? = none) ⊆
      (Finset.range limit).filter fun id => old.derived[old.writeKey id]? = none := by
  intro id hid
  obtain ⟨hmem, hnone⟩ := Finset.mem_filter.mp hid
  refine Finset.mem_filter.mpr ⟨hmem, ?_⟩
  rw [h.writeKey_eq he hnew (Finset.mem_range.mp hmem)] at hnone
  cases hold : old.derived[old.writeKey id]? with
  | none => rfl
  | some write => exact absurd (he.derived_le _ _ hold) (by rw [hnone]; simp)

/-- In an extension no more shapes lead nowhere. -/
lemma ClosedBelow.unrecorded_mono (h : old.ClosedBelow limit) (he : old.Extends limit new)
    (hnew : new.WellFormed) : unrecorded limit new ≤ unrecorded limit old :=
  Finset.card_le_card (h.unrecorded_subset he hnew)

/-- In an extension in which one more shape leads somewhere, fewer lead nowhere. -/
lemma ClosedBelow.unrecorded_lt (h : old.ClosedBelow limit) (he : old.Extends limit new)
    (hnew : new.WellFormed) (hid : id < limit) (hold : old.derived[old.writeKey id]? = none)
    (hkey : new.derived[old.writeKey id]? ≠ none) :
    unrecorded limit new < unrecorded limit old := by
  have hmem : id ∈ (Finset.range limit).filter fun id => old.derived[old.writeKey id]? = none :=
    Finset.mem_filter.mpr ⟨Finset.mem_range.mpr hid, hold⟩
  have hnot : id ∉ (Finset.range limit).filter fun id => new.derived[new.writeKey id]? = none := by
    intro hc
    rw [Finset.mem_filter, h.writeKey_eq he hnew hid] at hc
    exact hkey hc.2
  exact Finset.card_lt_card
    (Finset.ssubset_iff.mpr ⟨id, hnot, Finset.insert_subset hmem (h.unrecorded_subset he hnew)⟩)

/-! ## Containers -/

/-- Wrapping a type looks up containers, and the type that it leads to is in those containers. -/
lemma wrap_spec (h : model.WellFormed) (hid : id < model.nodes.size) :
    ∀ wrappers : List Wrapper, model.GrowsTo (wrap wrappers id model).2 ∧
      (wrap wrappers id model).1 < (wrap wrappers id model).2.nodes.size ∧
      (wrap wrappers id model).2.unwrap (wrap wrappers id model).1 =
        (wrappers ++ (model.unwrap id).1, (model.unwrap id).2)
  | [] => ⟨.refl, hid, rfl⟩
  | wrapper :: wrappers => by
    obtain ⟨hgrows, hlt, hunwrap⟩ := wrap_spec h hid wrappers
    rw [wrap]
    generalize wrap wrappers id model = wrapped at hgrows hlt hunwrap
    obtain ⟨element, mid⟩ := wrapped
    have hmid : mid.WellFormed := hgrows.wellFormed h
    have hnew : (mid.container wrapper element).2.WellFormed := hmid.container wrapper hlt
    have he : mid.Extends 0 (mid.container wrapper element).2 := .container (Nat.zero_le _) _ _
    refine ⟨hgrows.container wrapper hlt, fst_container_lt mid wrapper element, ?_⟩
    rw [hnew.unwrap_container (kind_container mid wrapper element),
      he.unwrap_eq hmid hnew hlt, hunwrap]
    rfl

/-! ## Specifications -/

/-- Pointing properties at write types keeps a model coherent and extends it. Each property is of
the type that it is sent as. -/
structure Repoints (limit : Nat) (pending : List TypeId) (model : Model)
    (sources : List Property) (result : List Property × Model) : Prop where
  coherent : result.2.Coherent limit pending
  toExtends : model.Extends limit result.2
  isRepointed : List.Forall₂ result.2.IsRepointed sources result.1
  lt_size : ∀ p ∈ result.1, p.type < result.2.nodes.size

/-- Deriving the write type of a type keeps a model coherent and extends it. There is a write type
exactly if the type inside all containers has one, and without one the model stays as it is. -/
structure Writes (limit : Nat) (pending : List TypeId) (model : Model) (id : TypeId)
    (result : Derivation) : Prop where
  coherent : result.2.Coherent limit pending
  toExtends : model.Extends limit result.2
  lt_size : result.1.getD id < result.2.nodes.size
  isResent : result.2.IsResent id (result.1.getD id)
  none_iff : result.1 = none ↔ ¬model.HasWriteType (model.innermost id)
  unchanged : result.1 = none → result.2 = model

/-- Deriving write types with `derive` does what it has to where few shapes lead nowhere. -/
def WritesWithin (limit depth : Nat) (derive : TypeId → Model → Derivation) : Prop :=
  ∀ {pending : List TypeId} {model : Model}, model.Coherent limit pending →
    unrecorded limit model < depth → ∀ id : TypeId, id < limit →
      Writes limit pending model id (derive id model)

/-- Pointing properties at write types.

**Proof sketch.** Induction on the properties. The types that the first one is sent as are still
those after the others have been pointed at theirs, since that only extends the model. -/
lemma pointAtWriteTypes_spec {derive : TypeId → Model → Derivation}
    (hderive : WritesWithin limit depth derive) :
    ∀ (sources : List Property) {model : Model}, model.Coherent limit pending →
      unrecorded limit model < depth → (∀ p ∈ sources, p.type < limit) →
      Repoints limit pending model sources (pointAtWriteTypes derive sources model)
  | [], model, h, _, _ => ⟨h, .refl limit model, .nil, fun _ hp => absurd hp List.not_mem_nil⟩
  | source :: rest, model, h, hm, ht => by
    have hsource : source.type < limit := ht source List.mem_cons_self
    have hfirst := hderive h hm source.type hsource
    rw [pointAtWriteTypes]
    generalize derive source.type model = derived at hfirst
    obtain ⟨write, mid⟩ := derived
    have hmono := h.toClosedBelow.unrecorded_mono hfirst.toExtends hfirst.coherent.toWellFormed
    have hrest := pointAtWriteTypes_spec hderive rest hfirst.coherent (Nat.lt_of_le_of_lt hmono hm)
      fun p hp => ht p (List.mem_cons_of_mem _ hp)
    dsimp only
    generalize pointAtWriteTypes derive rest mid = others at hrest
    obtain ⟨results, new⟩ := others
    refine ⟨hrest.coherent, hfirst.toExtends.trans hrest.toExtends,
      .cons ⟨?_, rfl⟩ hrest.isRepointed, fun p hp => ?_⟩
    · exact hfirst.isResent.of_extends hfirst.coherent.toClosedBelow hrest.toExtends
        hrest.coherent.toWellFormed hsource hfirst.lt_size
    · rcases List.mem_cons.mp hp with rfl | hp
      · exact Nat.lt_of_lt_of_le hfirst.lt_size hrest.toExtends.size_le
      · exact hrest.lt_size p hp

/-! ## One level -/

/-- A type without a write type, which is no container. -/
lemma writeCore_of_not {derive : TypeId → Model → Derivation} (h : ¬model.HasWriteType id) :
    writeCore derive id model = (none, model) := by
  rw [hasWriteType_iff, not_not] at h
  rw [writeCore]
  dsimp only
  rw [if_pos h]

/-- A type whose write type is there, which is no container. -/
lemma writeCore_of_recorded {derive : TypeId → Model → Derivation} {write : TypeId}
    (h : model.HasWriteType id) (hk : model.derived[model.writeKey id]? = some write) :
    writeCore derive id model = (some write, model) := by
  rw [hasWriteType_iff] at h
  rw [writeKey] at hk
  rw [writeCore]
  dsimp only
  rw [if_neg h, hk]

/-- The model after a write type is registered, for a type that is no container. -/
def registerWrite (model : Model) (id : TypeId) : Model :=
  model.register (model.writeKey id) ("Write" ++ (model.node id).name) (.write id)
    (describedAs (writeDescription (model.node id) (model.writtenProperties id)))

/-- The model after a write type got its properties, and its source refers to it. -/
def fillWrite (model : Model) (id write : TypeId) (source : TypeNode) (properties : List Property) :
    Model :=
  let customTypes := (model.customTypeNames properties).insert source.name
  let model := model.modify write fun node =>
    { node with properties, customTypes, methodRefs := source.methodRefs }
  model.refer id (model.nameOf write)

/-- All types keep their kinds when a write type is filled in. -/
lemma kind_fillWrite {source write : Nat} {node : TypeNode} {properties : List Property} (i : Nat) :
    ((model.fillWrite source write node properties).node i).kind = (model.node i).kind :=
  (kind_refer i).trans (node_modify_keeps (·.kind) (fun _ => by rfl) i)

/-- All types keep their names when a write type is filled in. -/
lemma nameOf_fillWrite {source write : Nat} {node : TypeNode} {properties : List Property}
    (i : Nat) : (model.fillWrite source write node properties).nameOf i = model.nameOf i :=
  (nameOf_refer i).trans (node_modify_keeps (·.name) (fun _ => by rfl) i)

/-- A type whose write type is not there yet, which is no container. -/
lemma writeCore_of_new {derive : TypeId → Model → Derivation} (h : model.HasWriteType id)
    (hk : model.derived[model.writeKey id]? = none) :
    writeCore derive id model =
      (some model.nodes.size,
        (pointAtWriteTypes derive (model.writtenProperties id) (model.registerWrite id)).2.fillWrite
          id model.nodes.size (model.node id)
          (pointAtWriteTypes derive (model.writtenProperties id) (model.registerWrite id)).1) := by
  rw [hasWriteType_iff] at h
  rw [writeKey] at hk
  rw [writeCore]
  dsimp only
  rw [if_neg h, hk]
  rfl

/-- Filling in a pending write type finishes it.

**Proof sketch.** What the properties are sent as is the same after the contents of the write type
have been filled in. Its origin is that of its kind, and so are those properties. -/
lemma Coherent.fillWrite {write source : Nat} {properties results : List Property}
    (h : model.Coherent limit (write :: pending)) (node : TypeNode) (hnot : write ∉ pending)
    (hk : (model.node write).kind = .write source)
    (hw : model.writtenProperties source = properties)
    (hr : List.Forall₂ model.IsRepointed properties results)
    (hlt : ∀ p ∈ results, p.type < model.nodes.size) :
    (model.fillWrite source write node results).Coherent limit pending ∧
      model.Extends limit (model.fillWrite source write node results) := by
  have hwlt : write < model.nodes.size := h.pending_lt write List.mem_cons_self
  have hge : limit ≤ write := h.pending_ge write List.mem_cons_self
  have hslt : source < limit := h.source_lt_limit hk
  unfold Model.fillWrite
  dsimp only
  generalize hchange : (fun node' : TypeNode => { node' with
    properties := results
    customTypes := (model.customTypeNames results).insert node.name
    methodRefs := node.methodRefs }) = change
  have hbare : ∀ node, (change node).bare = node.bare := fun _ => by rw [← hchange]; rfl
  have hself : ((model.modify write change).node write).properties = results := by
    rw [node_modify_self hwlt, ← hchange]
  have he : model.Extends limit (model.modify write change) := .modify hge hbare
  have hmid : (model.modify write change).Coherent limit (write :: pending) := by
    refine h.fill List.mem_cons_self hbare fun p hp => ?_
    rw [← hchange] at hp
    exact hlt p hp
  have hkind : ((model.modify write change).node write).kind = .write source :=
    (he.kind_eq hwlt).trans hk
  have hname : (model.modify write change).nameOf write ∈ (model.modify write change).names :=
    hmid.nameOf_mem_names (hmid.pending_lt write List.mem_cons_self)
  refine ⟨hmid.finishWrite hnot hkind fun found ho => ?_, he.trans (.refer hname)⟩
  rw [hkind] at ho
  have hfound : found = properties := by
    cases ho with
    | write _ _ _ => rw [h.toClosedBelow.writtenProperties_eq he hmid.toWellFormed hslt, hw]
  rw [hfound, hself]
  refine forall₂_isRepointed_of_extends hr h.toClosedBelow he hmid.toWellFormed (fun p hp => ?_) hlt
  rw [← hw] at hp
  exact h.toClosedBelow.writtenType_lt hslt hp

/-- Registering the write type of a type that is no container, where the shape of that leads
nowhere, makes it pending. One shape more leads somewhere. -/
lemma Coherent.registerWrite (h : model.Coherent limit pending) (hid : id < limit)
    (hleaf : (model.node id).element? = none) (hw : model.HasWriteType id)
    (hk : model.derived[model.writeKey id]? = none) :
    (model.registerWrite id).Coherent limit (model.nodes.size :: pending) ∧
      model.Extends limit (model.registerWrite id) ∧
      unrecorded limit (model.registerWrite id) < unrecorded limit model ∧
      ((model.registerWrite id).node model.nodes.size).kind = .write id ∧
      (model.registerWrite id).derived[model.writeKey id]? = some model.nodes.size := by
  have hreg : (model.registerWrite id).Coherent limit (model.nodes.size :: pending) :=
    h.register (.write hid hleaf hw) hk
  have hext : model.Extends limit (model.registerWrite id) :=
    Coherent.extends_register h.limit_le hk
  have hkey : (model.registerWrite id).derived[model.writeKey id]? = some model.nodes.size := by
    rw [Model.registerWrite, Coherent.derived_register, if_pos rfl]
  have hless : unrecorded limit (model.registerWrite id) < unrecorded limit model :=
    h.toClosedBelow.unrecorded_lt hext hreg.toWellFormed hid hk (by rw [hkey]; simp)
  exact ⟨hreg, hext, hless, congrArg TypeNode.kind node_add_self, hkey⟩

/-- Deriving a write type that is not there yet, of a type that is no container, when `derive`
derives write types where one more shape leads somewhere. It is the write type of that type.

**Proof sketch.** The write type is registered, so that fewer shapes lead nowhere and `derive` does
what it has to for the types of the properties. What is derived meanwhile only extends the model,
and then the contents of the write type are filled in. -/
lemma writeCore_spec_new {derive : TypeId → Model → Derivation}
    (hderive : WritesWithin limit depth derive) (h : model.Coherent limit pending)
    (hm : unrecorded limit model < depth + 1) (hid : id < limit)
    (hleaf : (model.node id).element? = none) (hw : model.HasWriteType id)
    (hk : model.derived[model.writeKey id]? = none) :
    ∃ new : Model, writeCore derive id model = (some model.nodes.size, new) ∧
      new.Coherent limit pending ∧ model.Extends limit new ∧
      (new.node model.nodes.size).kind = .write id ∧
      new.derived[model.writeKey id]? = some model.nodes.size := by
  rw [writeCore_of_new hw hk]
  obtain ⟨hreg, hext, hfewer, hkind, hkey⟩ := h.registerWrite hid hleaf hw hk
  have hless : unrecorded limit (model.registerWrite id) < depth := by omega
  have hpoint := pointAtWriteTypes_spec hderive (model.writtenProperties id) hreg hless
    fun p hp => h.toClosedBelow.writtenType_lt hid hp
  generalize pointAtWriteTypes derive (model.writtenProperties id) (model.registerWrite id) =
    pointed at hpoint
  obtain ⟨results, mid⟩ := pointed
  have hnot : model.nodes.size ∉ pending := fun hc => Nat.lt_irrefl _ (h.pending_lt _ hc)
  have hsize : model.nodes.size < (model.registerWrite id).nodes.size :=
    hreg.pending_lt _ List.mem_cons_self
  have hmidKind : (mid.node model.nodes.size).kind = .write id :=
    (hpoint.toExtends.kind_eq hsize).trans hkind
  have hmidProps : mid.writtenProperties id = model.writtenProperties id :=
    h.toClosedBelow.writtenProperties_eq (hext.trans hpoint.toExtends)
      hpoint.coherent.toWellFormed hid
  obtain ⟨hnew, hfill⟩ := hpoint.coherent.fillWrite (model.node id) hnot hmidKind hmidProps
    hpoint.isRepointed hpoint.lt_size
  have hlast := hpoint.toExtends.trans hfill
  exact ⟨_, rfl, hnew, hext.trans hlast, (hlast.kind_eq hsize).trans hkind,
    hlast.derived_le _ _ hkey⟩

/-- A derived type that the shape of the write type of a type leads to is sent in place of that
type, if that is no container. -/
lemma isResent_of_recorded {write : Nat} (hleaf : (model.node id).element? = none)
    (hw : model.HasWriteType id) (hk : model.derived[model.writeKey id]? = some write)
    (hwrite : (model.node write).element? = none) : model.IsResent id write := by
  have hinner : model.innermost id = id := innermost_of_not_container hleaf
  refine ⟨fun _ => ⟨write, ?_, ?_⟩, fun hc => ?_⟩
  · rw [hinner]
    exact hk
  · rw [unwrap_of_not_container hleaf]
    exact unwrap_of_not_container hwrite
  · rw [hinner] at hc
    exact absurd hw hc

/-- Deriving the write type of a type that is no container, when `derive` derives write types where
one more shape leads somewhere. -/
lemma writeCore_spec {derive : TypeId → Model → Derivation}
    (hderive : WritesWithin limit depth derive) (h : model.Coherent limit pending)
    (hm : unrecorded limit model < depth + 1) (hid : id < limit)
    (hleaf : (model.node id).element? = none) :
    Writes limit pending model id (writeCore derive id model) := by
  have hinner : model.innermost id = id := innermost_of_not_container hleaf
  have hlt : id < model.nodes.size := Nat.lt_of_lt_of_le hid h.limit_le
  by_cases hw : model.HasWriteType id
  swap
  · rw [writeCore_of_not hw]
    refine ⟨h, .refl limit model, hlt, ⟨fun hc => ?_, fun _ => rfl⟩, ?_, fun _ => rfl⟩
    · rw [hinner] at hc
      exact absurd hc hw
    · rw [hinner]
      exact iff_of_true rfl hw
  have hsome : ∀ write : TypeId, some write = none ↔ ¬model.HasWriteType (model.innermost id) := by
    rw [hinner]
    exact fun write => iff_of_false (Option.some_ne_none write) (not_not_intro hw)
  cases hk : model.derived[model.writeKey id]? with
  | some write =>
    rw [writeCore_of_recorded hw hk]
    have hwrite := element?_of_isDerived (h.isDerived _ write hk)
    exact ⟨h, .refl limit model, h.derived_lt _ write hk, isResent_of_recorded hleaf hw hk hwrite,
      hsome write, fun _ => rfl⟩
  | none =>
    obtain ⟨new, heq, hnew, he, hkind, hkey⟩ := writeCore_spec_new hderive h hm hid hleaf hw hk
    rw [heq]
    have hwrite : (new.node model.nodes.size).kind.IsDerived := by
      rw [hkind]
      trivial
    refine ⟨hnew, he, lt_size_of_isDerived hwrite, isResent_of_recorded ?_ ?_ ?_
      (element?_of_isDerived hwrite), hsome _, fun hc => absurd hc (Option.some_ne_none _)⟩
    · rw [he.element?_eq hlt, hleaf]
    · rwa [h.toClosedBelow.hasWriteType_iff he hnew.toWellFormed hid]
    · rwa [h.toClosedBelow.writeKey_eq he hnew.toWellFormed hid]

/-! ## Write types -/

/-- Deriving the write type of a type from that of the type inside all containers.

**Proof sketch.** The containers are looked up around the write type, which only grows the model,
so that the shape of the type inside still leads to the write type. -/
lemma writeAround_spec {derive : TypeId → Model → Derivation} (h : model.ClosedBelow limit)
    (hid : id < limit)
    (hinner : Writes limit pending model (model.innermost id) (derive (model.innermost id) model)) :
    Writes limit pending model id (writeAround derive id model) := by
  have hlt : id < model.nodes.size := Nat.lt_of_lt_of_le hid h.limit_le
  have hinlt : model.innermost id < limit := Nat.lt_of_le_of_lt (h.innermost_le id) hid
  have hself : model.innermost (model.innermost id) = model.innermost id :=
    innermost_of_not_container (h.element?_innermost id)
  rw [writeAround]
  dsimp only
  rw [show (model.unwrap id).2 = model.innermost id from rfl]
  generalize derive (model.innermost id) model = derived at hinner
  obtain ⟨write, mid⟩ := derived
  have hnone := hinner.none_iff
  rw [hself] at hnone
  cases write with
  | none =>
    have hmid : mid = model := hinner.unchanged rfl
    subst hmid
    have hno : ¬mid.HasWriteType (mid.innermost id) := hnone.mp rfl
    exact ⟨hinner.coherent, .refl limit mid, hlt, ⟨fun hc => absurd hc hno, fun _ => rfl⟩,
      iff_of_true rfl hno, fun _ => rfl⟩
  | some write =>
    have hyes : model.HasWriteType (model.innermost id) :=
      not_not.mp fun hc => Option.some_ne_none write (hnone.mpr hc)
    have hmid : mid.ClosedBelow limit := hinner.coherent.toClosedBelow
    have hwlt : write < mid.nodes.size := hinner.lt_size
    obtain ⟨hgrows, hnewlt, hunwrap⟩ := wrap_spec hmid.toWellFormed hwlt (model.unwrap id).1
    dsimp only
    generalize wrap (model.unwrap id).1 write mid = wrapped at hgrows hnewlt hunwrap
    obtain ⟨final, new⟩ := wrapped
    have hnew : new.Coherent limit pending := hinner.coherent.grow hgrows
    have hext : mid.Extends limit new := hgrows.toExtends hmid.limit_le
    have hall : model.Extends limit new := hinner.toExtends.trans hext
    have hmidInner : mid.innermost (model.innermost id) = model.innermost id := by
      rw [hinner.toExtends.innermost_eq h.toWellFormed hmid.toWellFormed
        (Nat.lt_of_lt_of_le hinlt h.limit_le), hself]
    have hnewUnwrap : new.unwrap id = model.unwrap id :=
      hall.unwrap_eq h.toWellFormed hnew.toWellFormed hlt
    have hnewInner : new.innermost id = model.innermost id := congrArg Prod.snd hnewUnwrap
    obtain ⟨inside, hkey, hinside⟩ := hinner.isResent.wrapped (by
      rw [hmidInner, h.hasWriteType_iff hinner.toExtends hmid.toWellFormed hinlt]
      exact hyes)
    refine ⟨hnew, hall, hnewlt, ⟨fun _ => ⟨inside, ?_, ?_⟩, fun hc => ?_⟩, ?_, fun hc => ?_⟩
    · rw [hmidInner] at hkey
      rw [hnewInner, hmid.writeKey_eq hext hnew.toWellFormed hinlt]
      exact hext.derived_le _ _ hkey
    · rw [Option.getD_some] at hinside ⊢
      rw [hunwrap, hnewUnwrap, hinside, hinner.toExtends.unwrap_eq h.toWellFormed hmid.toWellFormed
        (Nat.lt_of_lt_of_le hinlt h.limit_le), h.unwrap_innermost, List.append_nil]
    · rw [hnewInner, h.hasWriteType_iff hall hnew.toWellFormed hinlt] at hc
      exact absurd hyes hc
    · exact iff_of_false (Option.some_ne_none _) (not_not_intro hyes)
    · exact absurd hc (Option.some_ne_none _)

/-- Deriving write types within a number of levels does what it has to where fewer shapes lead
nowhere.

**Proof sketch.** Induction on the number of levels. Without any level there is nothing to do,
since no number is less than zero. -/
theorem writesWithin_writeTypeWithin (limit : Nat) :
    ∀ depth, WritesWithin limit depth (writeTypeWithin depth)
  | 0 => fun _ hm => absurd hm (Nat.not_lt_zero _)
  | depth + 1 => fun h hm id hid =>
    writeAround_spec h.toClosedBelow hid
      (writeCore_spec (writesWithin_writeTypeWithin limit depth) h hm
        (Nat.lt_of_le_of_lt (h.innermost_le id) hid) (h.element?_innermost id))

/-- Deriving the write type of a type below the limit. -/
theorem writeType_spec (h : model.Coherent limit pending) (hid : id < limit) :
    Writes limit pending model id (writeType id model) :=
  writesWithin_writeTypeWithin limit (model.nodes.size + 1) h
    (Nat.lt_succ_of_le (Nat.le_trans (unrecorded_le limit model) h.limit_le)) id hid

/-- Deriving the write type of a type that is no container. -/
lemma writeType_of_leaf (hleaf : (model.node id).element? = none) :
    writeType id model = writeCore (writeTypeWithin model.nodes.size) id model := by
  rw [writeType, writeTypeWithin, writeAround, unwrap_of_not_container hleaf]
  dsimp only
  rcases writeCore (writeTypeWithin model.nodes.size) id model with ⟨none | write, new⟩ <;> rfl

/-- A type without a write type leaves the model as it is. -/
theorem writeType_of_not (h : ¬model.HasWriteType (model.innermost id)) :
    writeType id model = (none, model) := by
  rw [writeType, writeTypeWithin, writeAround]
  dsimp only
  rw [show (model.unwrap id).2 = model.innermost id from rfl, writeCore_of_not h]

/-- A type without a write type, which is no container, leaves the model as it is. -/
lemma writeType_of_leaf_of_not (hleaf : (model.node id).element? = none)
    (h : ¬model.HasWriteType id) : writeType id model = (none, model) :=
  writeType_of_not (by rwa [innermost_of_not_container hleaf])

/-- A type that is given a write type, and is no container, has one. -/
lemma hasWriteType_of_writeType {write : TypeId} {new : Model}
    (hleaf : (model.node id).element? = none) (hr : writeType id model = (some write, new)) :
    model.HasWriteType id := by
  by_contra hno
  rw [writeType_of_leaf_of_not hleaf hno] at hr
  exact absurd (congrArg Prod.fst hr) (Option.some_ne_none write).symm

/-- A type whose write type is there, which is no container, leaves the model as it is. -/
theorem writeType_of_recorded {write : TypeId} (hleaf : (model.node id).element? = none)
    (h : model.HasWriteType id) (hk : model.derived[model.writeKey id]? = some write) :
    writeType id model = (some write, model) := by
  rw [writeType_of_leaf hleaf, writeCore_of_recorded h hk]

/-- A type whose write type is not there yet, which is no container, gets one of its own. -/
theorem writeType_of_new (h : model.Settled) (hleaf : (model.node id).element? = none)
    (hw : model.HasWriteType id) (hk : model.derived[model.writeKey id]? = none) :
    ∃ new : Model, writeType id model = (some model.nodes.size, new) ∧ new.Settled ∧
      model.Extends model.nodes.size new ∧ (new.node model.nodes.size).kind = .write id := by
  have hid : id < model.nodes.size := by
    obtain ⟨⟨p, hp, -⟩, -⟩ := hw
    exact lt_size_of_mem_properties hp
  obtain ⟨new, heq, hnew, he, hkind, -⟩ :=
    writeCore_spec_new (writesWithin_writeTypeWithin _ model.nodes.size) h
      (Nat.lt_succ_of_le (unrecorded_le _ _)) hid hleaf hw hk
  exact ⟨new, (writeType_of_leaf hleaf).trans heq, hnew.settled, he, hkind⟩

/-- A number that no type has leads to no write type. -/
lemma not_hasWriteType_of_size_le (h : model.nodes.size ≤ id) :
    ¬model.HasWriteType (model.innermost id) := by
  have hleaf : (model.node id).element? = none := by
    rw [node_of_size_le h]
    rfl
  rw [innermost_of_not_container hleaf]
  rintro ⟨⟨p, hp, -⟩, -⟩
  exact absurd (lt_size_of_mem_properties hp) (Nat.not_lt_of_le h)

end ClientGen.Model
