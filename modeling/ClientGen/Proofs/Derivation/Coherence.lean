import ClientGen.Proofs.Graph.Loading
import ClientGen.Proofs.Derivation.Origins

/-!
# Coherent models

A derived type is registered under its shape before its properties are known, and further types
are derived in between. A model is coherent if each derived type is registered under the shape of
the properties that it was asked for with, and if the properties of those that are finished are
those properties, each of the type that it is sent as. The types that are only being made are
listed as pending. No type below the limit is among them, and nothing that decides what a type is
sent as depends on the others.

## Main definitions

* `ClientGen.Model.Coherent` — coherent models.
* `ClientGen.Model.Settled` — coherent models in which nothing is pending.

## Main results

* `ClientGen.Model.Coherent.register`, `ClientGen.Model.Coherent.fill`,
  `ClientGen.Model.Coherent.finishRequest`, `ClientGen.Model.Coherent.finishWrite` — the steps in
  which a derived type is made.
* `ClientGen.Model.Coherent.settled`, `ClientGen.Model.Fresh.settled`.
-/

set_option autoImplicit false

namespace ClientGen.Model

variable {limit : Nat} {pending : List TypeId} {model old new : Model} {id : Nat}

/-! ## Coherent models -/

/-- The derived types are registered under what they were asked for with, and those that are not
pending are finished. -/
structure Coherent (limit : Nat) (pending : List TypeId) (model : Model) : Prop
    extends model.ClosedBelow limit where
  /-- No pending type is below the limit. -/
  pending_ge : ∀ id ∈ pending, limit ≤ id
  /-- Pending types are types. -/
  pending_lt : ∀ id ∈ pending, id < model.nodes.size
  /-- Shapes lead to derived types. -/
  isDerived : ∀ (key : String) (id : TypeId),
    model.derived[key]? = some id → (model.node id).kind.IsDerived
  /-- A derived type has an origin, and once it is finished the properties of that, each of the
  type that it is sent as. -/
  origin : ∀ id : TypeId, (model.node id).kind.IsDerived → ∃ properties,
    model.HasOrigin limit id properties ∧
      (id ∉ pending → List.Forall₂ model.IsRepointed properties (model.node id).properties)
  /-- A request type that is finished refers to the types of its properties and to its finished
  write types. -/
  customTypes_iff : ∀ (id : TypeId) (operationId : String),
    (model.node id).kind = .request operationId → id ∉ pending → ∀ name : String,
      (name ∈ (model.node id).customTypes ↔
        name ∈ model.customTypeNames (model.node id).properties ∨
          ∃ write : TypeId, write ∉ pending ∧ (model.node write).kind = .write id ∧
            model.nameOf write = name)

/-- A coherent model in which nothing is pending. -/
abbrev Settled (model : Model) : Prop := model.Coherent model.nodes.size []

/-- The model with a derived type registered under a digest, without its contents. -/
def register (model : Model) (key base : String) (kind : TypeKind) (schema : Json) : Model :=
  { (model.add base kind schema).2 with
    derived := model.derived.insert key model.nodes.size }

namespace Coherent

/-- The type that a shape leads to is the one that was asked for with that shape. -/
lemma exists_origin (h : model.Coherent limit pending) {key : String}
    (hk : model.derived[key]? = some id) : ∃ properties,
      model.HasOrigin limit id properties ∧ key = model.shapeDigest properties ∧
      (id ∉ pending → List.Forall₂ model.IsRepointed properties (model.node id).properties) := by
  obtain ⟨properties, ho, hr⟩ := h.origin id (h.isDerived key id hk)
  exact ⟨properties, ho, (ho.derived_iff key).mp hk, hr⟩

/-- An extension keeps the origin of a type, if it keeps what leads to the type and, once the
type is finished, its properties. -/
lemma origin_of_extends (h : old.Coherent limit pending) (he : old.Extends limit new)
    (hnew : new.WellFormed)
    (hderived : ∀ key : String, new.derived[key]? = some id ↔ old.derived[key]? = some id)
    (hprops : id ∉ pending → (new.node id).properties = (old.node id).properties)
    (hd : (old.node id).kind.IsDerived) : ∃ properties,
      new.HasOrigin limit id properties ∧
        (id ∉ pending → List.Forall₂ new.IsRepointed properties (new.node id).properties) := by
  obtain ⟨properties, ⟨ho, hk⟩, hr⟩ := h.origin id hd
  have hlt : ∀ p ∈ properties, p.type < limit := fun p hp => ho.type_lt h.toClosedBelow hp
  refine ⟨properties, ⟨?_, fun key => ?_⟩, fun hid => ?_⟩
  · rw [he.kind_eq (lt_size_of_isDerived hd)]
    exact ho.of_extends h.toClosedBelow he hnew
  · rw [hderived, hk, he.shapeDigest_eq fun p hp => Nat.lt_of_lt_of_le (hlt p hp) h.limit_le]
  · rw [hprops hid]
    exact forall₂_isRepointed_of_extends (hr hid) h.toClosedBelow he hnew hlt (h.property_lt id)

/-! ### Growing and filling -/

/-- The finished write types of a type stay, if none is added. -/
lemma exists_write_iff (he : old.Extends limit new)
    (hnone : ∀ id : TypeId, old.nodes.size ≤ id → ¬(new.node id).kind.IsDerived)
    {source : TypeId} {name : String} :
    (∃ write : TypeId, write ∉ pending ∧ (new.node write).kind = .write source ∧
        new.nameOf write = name) ↔
      ∃ write : TypeId, write ∉ pending ∧ (old.node write).kind = .write source ∧
        old.nameOf write = name := by
  constructor
  · rintro ⟨write, hp, hk, rfl⟩
    have hlt : write < old.nodes.size :=
      Nat.lt_of_not_le fun hle => hnone write hle (by rw [hk]; trivial)
    exact ⟨write, hp, (he.kind_eq hlt).symm.trans hk, (he.nameOf_eq hlt).symm⟩
  · rintro ⟨write, hp, hk, rfl⟩
    have hlt : write < old.nodes.size := lt_size_of_kind_ne (by rw [hk]; exact TypeKind.noConfusion)
    exact ⟨write, hp, (he.kind_eq hlt).trans hk, he.nameOf_eq hlt⟩

/-- An extension stays coherent if it derives no type and changes pending types only. -/
lemma of_extends (h : old.Coherent limit pending) (he : old.Extends limit new)
    (hnew : new.WellFormed) (hderived : new.derived = old.derived)
    (hnone : ∀ id : TypeId, old.nodes.size ≤ id → ¬(new.node id).kind.IsDerived)
    (hnode : ∀ id : TypeId, id < old.nodes.size → id ∉ pending → new.node id = old.node id) :
    new.Coherent limit pending where
  toClosedBelow := h.toClosedBelow.of_extends he hnew
  pending_ge := h.pending_ge
  pending_lt id hid := Nat.lt_of_lt_of_le (h.pending_lt id hid) he.size_le
  isDerived key id hk := by
    rw [hderived] at hk
    rw [he.kind_eq (h.derived_lt key id hk)]
    exact h.isDerived key id hk
  origin id hd := by
    have hlt : id < old.nodes.size := Nat.lt_of_not_le fun hle => hnone id hle hd
    refine h.origin_of_extends he hnew (fun key => by rw [hderived])
      (fun hid => by rw [hnode id hlt hid]) ?_
    rwa [← he.kind_eq hlt]
  customTypes_iff id operationId hk hid name := by
    have hlt : id < old.nodes.size :=
      Nat.lt_of_not_le fun hle => hnone id hle (by rw [hk]; trivial)
    rw [exists_write_iff he hnone, hnode id hlt hid,
      he.customTypeNames_eq h.toWellFormed hnew (h.property_lt id)]
    exact h.customTypes_iff id operationId ((he.kind_eq hlt).symm.trans hk) hid name

/-- Adding a type that is not derived keeps a model coherent. -/
lemma add (h : model.Coherent limit pending) {base : String} {kind : TypeKind} {schema : Json}
    (hk : kind.RefersBelow model.nodes.size) (hd : ¬kind.IsDerived) :
    (model.add base kind schema).2.Coherent limit pending := by
  refine h.of_extends (.add h.limit_le) (h.toWellFormed.add hk) rfl (fun id hle => ?_)
    fun id hlt _ => node_add_of_ne (Nat.ne_of_lt hlt)
  rw [node_add]
  split_ifs with hid
  · exact hd
  · rw [node_of_size_le hle]
    exact not_false

/-- Growing keeps a model coherent. -/
lemma grow (h : model.Coherent limit pending) (hg : model.GrowsTo new) :
    new.Coherent limit pending := by
  induction hg with
  | refl => exact h
  | intrinsic name _ ih => exact keeps_intrinsic ih (ih.add trivial not_false)
  | container wrapper helt _ ih => exact keeps_container ih fun _ => ih.add helt not_false

/-- Filling in the contents of a pending type keeps a model coherent, if the new properties are of
types of the model. -/
lemma fill (h : model.Coherent limit pending) (hid : id ∈ pending) {change : TypeNode → TypeNode}
    (hbare : ∀ node, (change node).bare = node.bare)
    (hp : ∀ p ∈ (change (model.node id)).properties, p.type < model.nodes.size) :
    (model.modify id change).Coherent limit pending := by
  refine h.of_extends (.modify (h.pending_ge id hid) hbare)
    (h.toWellFormed.modify (fun node => (congrArg TypeNode.id (hbare node) :))
      (fun node => (congrArg TypeNode.name (hbare node) :))
      (fun node => (congrArg TypeNode.kind (hbare node) :)) hp) rfl (fun i hle => ?_)
    fun i _ hi => node_modify_of_ne (fun he => hi (he ▸ hid))
  rw [node_of_size_le (by rwa [size_nodes_modify])]
  exact not_false

/-! ### Registering -/

section Register

variable {key base : String} {kind : TypeKind} {schema : Json} {properties : List Property}

/-- Registering a type keeps a model well formed. -/
lemma wellFormed_register (h : model.WellFormed) (hk : kind.RefersBelow model.nodes.size) :
    (model.register key base kind schema).WellFormed := by
  have hadd : (model.add base kind schema).2.WellFormed := h.add hk
  refine { hadd with derived_lt := fun other id hd => ?_ }
  rw [register, Std.TreeMap.getElem?_insert] at hd
  rw [register, size_nodes_add]
  split_ifs at hd
  · obtain rfl := Option.some.inj hd
    exact Nat.lt_succ_self _
  · exact Nat.lt_succ_of_lt (h.derived_lt other id hd)

/-- Registering a type under a shape that leads nowhere extends a model. -/
lemma extends_register (hle : limit ≤ model.nodes.size) (hnone : model.derived[key]? = none) :
    model.Extends limit (model.register key base kind schema) := by
  have he : model.Extends limit (model.add base kind schema).2 := .add hle
  refine { he with derived_le := fun other id hk => ?_ }
  rw [register, Std.TreeMap.getElem?_insert, if_neg]
  · exact hk
  · intro hc
    obtain rfl := Std.LawfulEqCmp.eq_of_compare hc
    rw [hnone] at hk
    exact absurd hk (Option.some_ne_none id).symm

/-- The shapes after a type is registered. -/
lemma derived_register (other : String) : (model.register key base kind schema).derived[other]? =
    if other = key then some model.nodes.size else model.derived[other]? := by
  simp only [register, Std.TreeMap.getElem?_insert, Std.LawfulEqCmp.compare_eq_iff_eq]
  by_cases h : other = key
  · rw [if_pos h.symm, if_pos h]
  · rw [if_neg (Ne.symm h), if_neg h]

/-- Registering a type under the shape of what it was asked for with makes it pending.

**Proof sketch.** The new type has the origin that it was given. No other type is led to by its
shape, so the others keep theirs. -/
theorem register (h : model.Coherent limit pending)
    (ho : model.IsOrigin limit kind properties)
    (hnone : model.derived[model.shapeDigest properties]? = none) :
    (model.register (model.shapeDigest properties) base kind schema).Coherent limit
      (model.nodes.size :: pending) := by
  have hk : kind.RefersBelow model.nodes.size := ho.refersBelow h.limit_le
  have hnew : (model.register (model.shapeDigest properties) base kind schema).WellFormed :=
    wellFormed_register h.toWellFormed hk
  have he : model.Extends limit (model.register (model.shapeDigest properties) base kind schema) :=
    extends_register h.limit_le hnone
  generalize hm : model.register (model.shapeDigest properties) base kind schema = new at hnew he
  have hself : (new.node model.nodes.size).kind = kind := by
    rw [← hm]
    exact congrArg TypeNode.kind node_add_self
  have hother : ∀ id : TypeId, id ≠ model.nodes.size → new.node id = model.node id := by
    intro id hid
    rw [← hm]
    exact node_add_of_ne hid
  have hderived : ∀ key : String, new.derived[key]? =
      if key = model.shapeDigest properties then some model.nodes.size else model.derived[key]? :=
    fun key => by rw [← hm, derived_register]
  refine ⟨h.toClosedBelow.of_extends he hnew, fun id hid => ?_, fun id hid => ?_,
    fun key id hd => ?_, fun id hd => ?_, fun id operationId hk hid name => ?_⟩
  · rcases List.mem_cons.mp hid with rfl | hid
    · exact h.limit_le
    · exact h.pending_ge id hid
  · rcases List.mem_cons.mp hid with rfl | hid
    · exact lt_size_of_isDerived (hself ▸ ho.isDerived)
    · exact Nat.lt_of_lt_of_le (h.pending_lt id hid) he.size_le
  · rw [hderived] at hd
    split_ifs at hd
    · obtain rfl := Option.some.inj hd
      rw [hself]
      exact ho.isDerived
    · rw [hother id (Nat.ne_of_lt (h.derived_lt key id hd))]
      exact h.isDerived key id hd
  · by_cases hid : id = model.nodes.size
    · subst hid
      refine ⟨properties, ⟨?_, fun key => ?_⟩, fun hc => absurd List.mem_cons_self hc⟩
      · rw [hself]
        exact ho.of_extends h.toClosedBelow he hnew
      · have hlt : ∀ p ∈ properties, p.type < model.nodes.size := fun p hp =>
          Nat.lt_of_lt_of_le (ho.type_lt h.toClosedBelow hp) h.limit_le
        rw [hderived, he.shapeDigest_eq hlt]
        split_ifs with heq
        · exact iff_of_true rfl heq
        · exact iff_of_false (fun hc => Nat.lt_irrefl _ (h.derived_lt key _ hc)) heq
    · rw [hother id hid] at hd
      have hiff : ∀ key : String, new.derived[key]? = some id ↔ model.derived[key]? = some id := by
        intro key
        rw [hderived]
        by_cases heq : key = model.shapeDigest properties
        · rw [if_pos heq, heq, hnone]
          exact iff_of_false (fun hc => hid (Option.some.inj hc).symm) (Option.some_ne_none id).symm
        · rw [if_neg heq]
      -- A type that was pending still is, so only the finished ones must have their properties.
      obtain ⟨found, hf, hr⟩ := h.origin_of_extends he hnew hiff (fun _ => by rw [hother id hid]) hd
      exact ⟨found, hf, fun hc => hr fun hp => hc (List.mem_cons_of_mem _ hp)⟩
  · obtain ⟨hne, hid⟩ := not_or.mp (mt List.mem_cons.mpr hid)
    rw [hother id hne] at hk ⊢
    rw [he.customTypeNames_eq h.toWellFormed hnew (h.property_lt id),
      h.customTypes_iff id operationId hk hid name]
    refine or_congr Iff.rfl (exists_congr fun write => ?_)
    by_cases hw : write = model.nodes.size
    · -- The new type is pending after the step, and not there before.
      subst hw
      refine iff_of_false (fun hc => ?_) fun hc => hc.1 List.mem_cons_self
      rw [node_of_size_le (Nat.le_refl _)] at hc
      exact TypeKind.noConfusion hc.2.1
    · rw [List.mem_cons, hother write hw, nameOf, nameOf, hother write hw, or_iff_right hw]

end Register

/-! ### Finishing -/

section Finish

variable {request write source : Nat} {operationId : String}

/-- An extension of which one pending type has the properties of its origin, each of the type that
it is sent as, has the origins of a model in which that type is finished. -/
lemma origin_finish (h : old.Coherent limit (id :: pending)) (he : old.Extends limit new)
    (hnew : new.WellFormed) (hderived : new.derived = old.derived)
    (hkind : ∀ i : TypeId, (new.node i).kind = (old.node i).kind)
    (hprops : ∀ i : TypeId, (new.node i).properties = (old.node i).properties)
    (hdone : ∀ properties, old.IsOrigin limit (old.node id).kind properties →
      List.Forall₂ old.IsRepointed properties (old.node id).properties)
    {i : Nat} (hd : (new.node i).kind.IsDerived) : ∃ properties,
      new.HasOrigin limit i properties ∧
        (i ∉ pending → List.Forall₂ new.IsRepointed properties (new.node i).properties) := by
  rw [hkind] at hd
  by_cases hi : i = id
  · subst hi
    obtain ⟨properties, ⟨ho, hk⟩, -⟩ := h.origin i hd
    have hlt : ∀ p ∈ properties, p.type < limit := fun p hp => ho.type_lt h.toClosedBelow hp
    refine ⟨properties, ⟨?_, fun key => ?_⟩, fun _ => ?_⟩
    · rw [hkind]
      exact ho.of_extends h.toClosedBelow he hnew
    · rw [hderived, hk, he.shapeDigest_eq fun p hp => Nat.lt_of_lt_of_le (hlt p hp) h.limit_le]
    · rw [hprops]
      exact forall₂_isRepointed_of_extends (hdone properties ho) h.toClosedBelow he hnew hlt
        (h.property_lt i)
  · obtain ⟨properties, ho, hr⟩ :=
      h.origin_of_extends he hnew (fun key => by rw [hderived]) (fun _ => hprops i) hd
    exact ⟨properties, ho, fun hp => hr fun hc => (List.mem_cons.mp hc).elim hi hp⟩

/-- A finished type has no write type yet if it is not below the limit. -/
lemma source_lt_limit (h : model.Coherent limit pending)
    (hk : (model.node write).kind = .write source) : source < limit := by
  obtain ⟨properties, ⟨ho, -⟩, -⟩ := h.origin write (by rw [hk]; trivial)
  rw [hk] at ho
  cases ho with
  | write hs _ _ => exact hs

/-- A pending request type is finished once it has the properties of its origin, each of the type
that it is sent as, and refers to the types of those. -/
theorem finishRequest (h : model.Coherent limit (request :: pending))
    (hk : (model.node request).kind = .request operationId)
    (hdone : ∀ properties, model.IsOrigin limit (model.node request).kind properties →
      List.Forall₂ model.IsRepointed properties (model.node request).properties)
    (hcustom : (model.node request).customTypes =
      model.customTypeNames (model.node request).properties) :
    model.Coherent limit pending where
  toClosedBelow := h.toClosedBelow
  pending_ge id hid := h.pending_ge id (List.mem_cons_of_mem _ hid)
  pending_lt id hid := h.pending_lt id (List.mem_cons_of_mem _ hid)
  isDerived := h.isDerived
  origin id hd := h.origin_finish (.refl limit model) h.toWellFormed rfl (fun _ => rfl)
    (fun _ => rfl) hdone hd
  customTypes_iff id otherId hid hp name := by
    have hwrite : ∀ {source write : Nat}, (model.node write).kind = .write source →
        (write ∉ pending ↔ write ∉ request :: pending) := by
      intro source write hw
      have hne : write ≠ request := by
        rintro rfl
        rw [hw] at hk
        exact TypeKind.noConfusion hk
      rw [List.mem_cons, or_iff_right hne]
    by_cases hr : id = request
    · -- Nothing is derived from the request type yet, which is not below the limit.
      subst hr
      rw [hcustom]
      refine (or_iff_left ?_).symm
      rintro ⟨write, -, hw, -⟩
      exact absurd (h.source_lt_limit hw) (Nat.not_lt_of_le (h.pending_ge id List.mem_cons_self))
    · rw [h.customTypes_iff id otherId hid (fun hc => (List.mem_cons.mp hc).elim hr hp) name]
      refine or_congr Iff.rfl (exists_congr fun write => ?_)
      constructor
      · exact fun ⟨hm, hw, hn⟩ => ⟨(hwrite hw).mpr hm, hw, hn⟩
      · exact fun ⟨hm, hw, hn⟩ => ⟨(hwrite hw).mp hm, hw, hn⟩

/-- A pending write type is finished once it has the properties of its origin, each of the type
that it is sent as, and its source refers to it.

**Proof sketch.** Only the references of the source change. If the source is a request type, they
are those that it had and the one to the type that is finished. -/
theorem finishWrite (h : model.Coherent limit (write :: pending)) (hnot : write ∉ pending)
    (hk : (model.node write).kind = .write source)
    (hdone : ∀ properties, model.IsOrigin limit (model.node write).kind properties →
      List.Forall₂ model.IsRepointed properties (model.node write).properties) :
    (model.refer source (model.nameOf write)).Coherent limit pending := by
  have hwlt : write < model.nodes.size := lt_size_of_isDerived (by rw [hk]; trivial)
  have hslt : source < model.nodes.size := h.source_lt write source hk
  have he : model.Extends limit (model.refer source (model.nameOf write)) :=
    .refer (h.nameOf_mem_names hwlt)
  have hnew : (model.refer source (model.nameOf write)).WellFormed :=
    h.toWellFormed.refer source (model.nameOf write)
  refine ⟨h.toClosedBelow.of_extends he hnew,
    fun id hid => h.pending_ge id (List.mem_cons_of_mem _ hid),
    fun id hid => Nat.lt_of_lt_of_le (h.pending_lt id (List.mem_cons_of_mem _ hid)) he.size_le,
    fun key id hd => ?_,
    fun id hd => h.origin_finish he hnew rfl kind_refer properties_refer hdone hd,
    fun id operationId hid hp name => ?_⟩
  · rw [kind_refer]
    exact h.isDerived key id hd
  · rw [kind_refer] at hid
    have hne : id ≠ write := by
      rintro rfl
      rw [hk] at hid
      exact TypeKind.noConfusion hid
    rw [mem_customTypes_refer, and_iff_left hslt, properties_refer,
      he.customTypeNames_eq h.toWellFormed hnew (h.property_lt id),
      h.customTypes_iff id operationId hid (fun hc => (List.mem_cons.mp hc).elim hne hp) name,
      or_assoc]
    refine or_congr Iff.rfl ?_
    simp only [kind_refer, nameOf_refer]
    -- The write types that were finished before, and the one that is finished now.
    constructor
    · rintro (⟨other, ho, hw, hn⟩ | ⟨rfl, hn⟩)
      · exact ⟨other, fun hc => ho (List.mem_cons_of_mem _ hc), hw, hn⟩
      · exact ⟨write, hnot, hk, hn.symm⟩
    · rintro ⟨other, ho, hw, hn⟩
      by_cases hc : other = write
      · subst hc
        rw [hk] at hw
        exact Or.inr ⟨(TypeKind.write.inj hw).symm, hn.symm⟩
      · exact Or.inl ⟨other, fun hm => (List.mem_cons.mp hm).elim hc ho, hw, hn⟩

end Finish

/-! ### Settled models -/

/-- A coherent model in which nothing is pending is settled. -/
theorem settled (h : model.Coherent limit []) : model.Settled where
  toWellFormed := h.toWellFormed
  limit_le := Nat.le_refl _
  type_lt id _ := h.property_lt id
  pending_ge _ hid := absurd hid List.not_mem_nil
  pending_lt _ hid := absurd hid List.not_mem_nil
  isDerived := h.isDerived
  origin id hd := by
    obtain ⟨properties, ⟨ho, hk⟩, hr⟩ := h.origin id hd
    exact ⟨properties, ⟨ho.mono h.limit_le, hk⟩, hr⟩
  customTypes_iff := h.customTypes_iff

end Coherent

/-- A model without derived types is settled. -/
theorem Fresh.settled (h : model.Fresh) : model.Settled where
  toWellFormed := h.toWellFormed
  limit_le := Nat.le_refl _
  type_lt id _ := h.property_lt id
  pending_ge _ hid := absurd hid List.not_mem_nil
  pending_lt _ hid := absurd hid List.not_mem_nil
  isDerived key id hk := by
    rw [h.derived_none] at hk
    exact absurd hk (Option.some_ne_none id).symm
  origin id hd := absurd hd (h.not_isDerived id)
  customTypes_iff id operationId hk := absurd (hk ▸ trivial) (h.not_isDerived id)

namespace Settled

/-- Growing keeps a model settled. -/
lemma grow (h : model.Settled) (hg : model.GrowsTo new) : new.Settled :=
  (Coherent.grow h hg).settled

/-- Leaving out methods keeps a model settled. -/
lemma retain (h : model.Settled) (included excluded : List String) :
    (model.retain included excluded).Settled := by
  have hnodes : (model.retain included excluded).nodes = model.nodes := rfl
  refine ⟨⟨h.toWellFormed.retain included excluded, h.limit_le, h.type_lt⟩, h.pending_ge,
    h.pending_lt, h.isDerived, fun id hd => ?_, fun id operationId hk hid name => ?_⟩
  · obtain ⟨properties, ⟨ho, hk⟩, hr⟩ := h.origin id hd
    refine ⟨properties, ⟨ho.congr hnodes fun _ _ => of_getElem?_methods_retain, fun key => ?_⟩,
      fun hid => ?_⟩
    · rw [shapeDigest_congr hnodes]
      exact hk key
    · exact (hr hid).imp fun source result hrep => ⟨hrep.1.congr hnodes rfl, hrep.2⟩
  · rw [customTypeNames_congr hnodes]
    exact h.customTypes_iff id operationId hk hid name

end Settled

end ClientGen.Model
