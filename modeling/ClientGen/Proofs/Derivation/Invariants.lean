import ClientGen.Proofs.Derivation.RequestTypes

/-!
# What each step of a derivation keeps

Deriving types is a sequence of three steps: a container is added, a derived type is registered,
which makes it pending, and a pending type is filled in. So what each of the steps keeps is kept by
the derivation as a whole, however deep it goes.

## Main definitions

* `ClientGen.Model.IsKeptByWriting` — a property of models, and of the types that are pending in
  them, that the steps in deriving a write type keep.
* `ClientGen.Model.IsKeptByDeriving` — one that the steps in deriving a request type keep, too.

## Main results

* `ClientGen.Model.IsKeptByWriting.writeType` — it is kept by deriving a write type.
* `ClientGen.Model.IsKeptByDeriving.requestType` — it is kept by deriving a request type.
-/

set_option autoImplicit false

namespace ClientGen.Model

variable {limit depth : Nat} {pending : List TypeId} {model : Model} {id : Nat}
  {P : List TypeId → Model → Prop} {derive : TypeId → Model → Derivation}

/-! ## Write types -/

/-- The property is kept by each step in deriving write types of types below a limit. -/
structure IsKeptByWriting (P : List TypeId → Model → Prop) : Prop where
  /-- A container of a type is added, to which its name does not lead. -/
  container : ∀ {limit : Nat} {pending : List TypeId} {model : Model}
    (wrapper : Wrapper) {element : Nat}, model.Coherent limit pending →
      element < model.nodes.size →
        (∀ id, model.names[model.containerName wrapper element]? = some id →
          (model.node id).kind ≠ .container wrapper element) → P pending model →
        P pending (model.add (model.containerName wrapper element) (.container wrapper element)
          .null).2
  /-- The write type of a type is registered. -/
  register : ∀ {limit : Nat} {pending : List TypeId} {model : Model} {source : Nat},
    model.Coherent limit pending → source < limit → P pending model →
      P (model.nodes.size :: pending) (model.registerWrite source)
  /-- A pending write type is filled in. Its source has kept its name and the operations that use
  it since the write type was registered. -/
  fill : ∀ {limit : Nat} {pending : List TypeId} {model : Model} {write source : Nat}
    {node : TypeNode} {properties : List Property}, model.Coherent limit (write :: pending) →
      write ∉ pending → (model.node write).kind = .write source →
        node.name = model.nameOf source → node.methodRefs = (model.node source).methodRefs →
          P (write :: pending) model → P pending (model.fillWrite source write node properties)

/-- Deriving write types with `derive` keeps the property where few shapes lead nowhere. -/
def KeepsWithin (P : List TypeId → Model → Prop) (limit depth : Nat)
    (derive : TypeId → Model → Derivation) : Prop :=
  ∀ {pending : List TypeId} {model : Model}, model.Coherent limit pending →
    unrecorded limit model < depth → ∀ id : TypeId, id < limit → P pending model →
      P pending (derive id model).2

namespace IsKeptByWriting

/-- Looking up a container keeps the property. -/
lemma lookup (hP : IsKeptByWriting P) (h : model.Coherent limit pending) (wrapper : Wrapper)
    {element : Nat} (he : element < model.nodes.size) (hmodel : P pending model) :
    P pending (model.container wrapper element).2 :=
  keeps_container hmodel fun hnot => hP.container wrapper h he hnot hmodel

/-- Wrapping a type keeps the property. -/
lemma wrap (hP : IsKeptByWriting P) (h : model.Coherent limit pending)
    (hid : id < model.nodes.size) (hmodel : P pending model) :
    ∀ wrappers : List Wrapper, P pending (Model.wrap wrappers id model).2
  | [] => hmodel
  | wrapper :: wrappers => by
    obtain ⟨hgrows, hlt, -⟩ := wrap_spec h.toWellFormed hid wrappers
    exact hP.lookup (h.grow hgrows) wrapper hlt (wrap hP h hid hmodel wrappers)

/-- Pointing properties at write types keeps the property, if deriving write types does. -/
lemma pointAtWriteTypes (hwrites : WritesWithin limit depth derive)
    (hkeeps : KeepsWithin P limit depth derive) :
    ∀ (sources : List Property) {model : Model}, model.Coherent limit pending →
      unrecorded limit model < depth → (∀ p ∈ sources, p.type < limit) → P pending model →
        P pending (Model.pointAtWriteTypes derive sources model).2
  | [], _, _, _, _, hmodel => hmodel
  | source :: rest, model, h, hm, ht, hmodel => by
    have hsource : source.type < limit := ht source List.mem_cons_self
    have hfirst := hwrites h hm source.type hsource
    have hmid := hkeeps h hm source.type hsource hmodel
    rw [Model.pointAtWriteTypes]
    generalize derive source.type model = derived at hfirst hmid
    obtain ⟨write, mid⟩ := derived
    have hmono := h.toClosedBelow.unrecorded_mono hfirst.toExtends hfirst.coherent.toWellFormed
    exact pointAtWriteTypes hwrites hkeeps rest hfirst.coherent (Nat.lt_of_le_of_lt hmono hm)
      (fun p hp => ht p (List.mem_cons_of_mem _ hp)) hmid

/-- Deriving the write type of a type that is no container keeps the property, if `derive` does
where one more shape leads somewhere.

**Proof sketch.** Nothing changes unless the write type is new. Then it is registered, its
properties are pointed at write types, and it is filled in. Meanwhile the source keeps its name and
the operations that use it, since it is below the limit. -/
lemma writeCore (hP : IsKeptByWriting P) (hwrites : WritesWithin limit depth derive)
    (hkeeps : KeepsWithin P limit depth derive) (h : model.Coherent limit pending)
    (hm : unrecorded limit model < depth + 1) (hid : id < limit)
    (hleaf : (model.node id).element? = none) (hmodel : P pending model) :
    P pending (Model.writeCore derive id model).2 := by
  by_cases hw : model.HasWriteType id
  swap
  · rwa [writeCore_of_not hw]
  cases hk : model.derived[model.writeKey id]? with
  | some write => rwa [writeCore_of_recorded hw hk]
  | none =>
    rw [writeCore_of_new hw hk]
    obtain ⟨hreg, hext, hfewer, hkind, -⟩ := h.registerWrite hid hleaf hw hk
    have hless : unrecorded limit (model.registerWrite id) < depth := by omega
    have htypes : ∀ p ∈ model.writtenProperties id, p.type < limit :=
      fun p hp => h.toClosedBelow.writtenType_lt hid hp
    have hpoint := pointAtWriteTypes_spec hwrites (model.writtenProperties id) hreg hless htypes
    have hpointed := pointAtWriteTypes hwrites hkeeps (model.writtenProperties id) hreg hless
      htypes (hP.register h hid hmodel)
    generalize Model.pointAtWriteTypes derive (model.writtenProperties id)
      (model.registerWrite id) = pointed at hpoint hpointed
    obtain ⟨results, mid⟩ := pointed
    have hall : model.Extends limit mid := hext.trans hpoint.toExtends
    have hsize : model.nodes.size < (model.registerWrite id).nodes.size :=
      hreg.pending_lt _ List.mem_cons_self
    exact hP.fill hpoint.coherent (fun hc => Nat.lt_irrefl _ (h.pending_lt _ hc))
      ((hpoint.toExtends.kind_eq hsize).trans hkind)
      (hall.nameOf_eq (Nat.lt_of_lt_of_le hid h.limit_le)).symm (hall.methodRefs_eq id hid).symm
      hpointed

/-- Deriving the write type of a type keeps the property, if deriving that of the type inside all
containers does. -/
lemma writeAround (hP : IsKeptByWriting P) (hinner : Writes limit pending model
    (model.innermost id) (derive (model.innermost id) model))
    (hmodel : P pending (derive (model.innermost id) model).2) :
    P pending (Model.writeAround derive id model).2 := by
  rw [Model.writeAround]
  dsimp only
  rw [show (model.unwrap id).2 = model.innermost id from rfl]
  generalize derive (model.innermost id) model = derived at hinner hmodel
  obtain ⟨none | write, mid⟩ := derived
  · exact hmodel
  · exact hP.wrap hinner.coherent hinner.lt_size hmodel _

/-- Deriving write types within a number of levels keeps the property where fewer shapes lead
nowhere.

**Proof sketch.** Induction on the number of levels, as for what deriving a write type does. -/
theorem keepsWithin_writeTypeWithin (hP : IsKeptByWriting P) (limit : Nat) :
    ∀ depth, KeepsWithin P limit depth (writeTypeWithin depth)
  | 0 => fun _ hm => absurd hm (Nat.not_lt_zero _)
  | depth + 1 => fun h hm id hid hmodel => by
    have hwrites : WritesWithin limit depth (writeTypeWithin depth) :=
      writesWithin_writeTypeWithin limit depth
    have hlt := Nat.lt_of_le_of_lt (h.innermost_le id) hid
    exact hP.writeAround (writeCore_spec hwrites h hm hlt (h.element?_innermost id))
      (hP.writeCore hwrites (keepsWithin_writeTypeWithin hP limit depth) h hm hlt
        (h.element?_innermost id) hmodel)

/-- Deriving the write type of a type below the limit keeps the property. -/
theorem writeType_of_coherent (hP : IsKeptByWriting P) (h : model.Coherent limit pending)
    (hid : id < limit) (hmodel : P pending model) : P pending (Model.writeType id model).2 :=
  hP.keepsWithin_writeTypeWithin limit (model.nodes.size + 1) h
    (Nat.lt_succ_of_le (Nat.le_trans (unrecorded_le limit model) h.limit_le)) id hid hmodel

/-- Deriving a write type keeps the property. -/
theorem writeType (hP : IsKeptByWriting P) (h : model.Settled) (id : Nat)
    (hmodel : P [] model) : P [] (Model.writeType id model).2 := by
  by_cases hid : id < model.nodes.size
  · exact hP.writeType_of_coherent h hid hmodel
  · rwa [writeType_of_not (not_hasWriteType_of_size_le (Nat.le_of_not_lt hid))]

end IsKeptByWriting

/-! ## Request types -/

/-- The property is kept by each step in deriving write types and request types. -/
structure IsKeptByDeriving (P : List TypeId → Model → Prop) : Prop extends IsKeptByWriting P where
  /-- The request type of a method is registered. -/
  registerRequest : ∀ {model : Model} (method : Method), model.Settled → P [] model →
    P [model.nodes.size] (model.registerRequest method)
  /-- A pending request type is filled in. -/
  fillRequest : ∀ {limit : Nat} {model : Model} {request : Nat} {operationId : String}
    (properties : List Property), model.Coherent limit [request] →
      (model.node request).kind = .request operationId →
        P [request] model → P [] (model.fillRequest request operationId properties)

namespace IsKeptByDeriving

/-- Deriving a request type keeps the property. -/
theorem requestType (hP : IsKeptByDeriving P) (h : model.Settled) (operationId : String)
    (hmodel : P [] model) : P [] (Model.requestType operationId model).2 := by
  unfold Model.requestType
  split
  next => exact hmodel
  next method hm =>
    obtain ⟨hfound, hmay⟩ := Option.filter_eq_some_iff.mp hm
    obtain rfl := h.operationId_eq operationId method hfound
    cases hk : model.derived[model.shapeDigest (requestProperties method)]? with
    | some request => rwa [requestCore_of_recorded hk]
    | none =>
      rw [requestCore_of_new hk]
      obtain ⟨hreg, -, hkind⟩ := h.registerRequest hfound hmay hk
      have htypes : ∀ p ∈ requestProperties method, p.type < model.nodes.size :=
        fun p hp => (h.isOrigin_request hfound hmay).type_lt h.toClosedBelow hp
      have hless : unrecorded model.nodes.size (model.registerRequest method) <
          model.nodes.size + 1 := Nat.lt_succ_of_le (unrecorded_le _ _)
      have hsize : model.nodes.size < (model.registerRequest method).nodes.size :=
        hreg.pending_lt _ List.mem_cons_self
      have hpoint := pointAtWriteTypes_spec (writesWithin_writeType model.nodes.size)
        (requestProperties method) hreg hless htypes
      have hpointed := IsKeptByWriting.pointAtWriteTypes (writesWithin_writeType model.nodes.size)
        (fun h _ _ hid => hP.writeType_of_coherent h hid) (requestProperties method) hreg hless
        htypes (hP.registerRequest method h hmodel)
      exact hP.fillRequest _ hpoint.coherent ((hpoint.toExtends.kind_eq hsize).trans hkind) hpointed

end IsKeptByDeriving

end ClientGen.Model
