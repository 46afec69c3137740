import ClientGen.Proofs.Graph.References
import ClientGen.Proofs.Reachable
import ClientGen.Proofs.Traversal

/-!
# Derived types mirror what they are derived from

In a model that can be reached, the properties of a write type are those properties of its source
that can be sent to the service, and the properties of a request type are the parameters of its
method. Each is of the type that it is sent as.

## Main definitions

* `ClientGen.Model.IsSentAs` — that a type is what another one is sent as.
* `ClientGen.Model.MirrorsWritten`, `ClientGen.Model.MirrorsParameter` — that a property is what a
  property of a source, or a parameter of a method, is sent as.

## Main results

* `ClientGen.Model.Reachable.write_types_mirror` — write types mirror their sources, and a type has
  a write type exactly if some but not all of it can be sent.
* `ClientGen.Model.Reachable.request_types_mirror` — request types mirror their methods.
-/

set_option autoImplicit false

namespace ClientGen.Model

variable {model : Model} {id declared sent write source : Nat}

/-! ## What is sent -/

/-- The second type is what the first one is sent as: itself if it has no write type, and
otherwise a type in the same containers, around the write type of the type inside. -/
def IsSentAs (model : Model) (declared sent : TypeId) : Prop :=
  match writeType declared model with
  | (none, _) => sent = declared
  | (some type, new) => new.unwrap type = model.unwrap sent ∧
      ∃ write : TypeId, writeType (model.innermost declared) model = (some write, model) ∧
        model.unwrap sent = ((model.unwrap declared).1, write)

/-- The second property is what the first one is sent as. -/
structure MirrorsWritten (model : Model) (source written : Property) : Prop where
  name_eq : written.name = source.name
  required_eq : written.required = source.required
  writeOnly_eq : written.writeOnly = source.writeOnly
  deprecated_eq : written.deprecated = source.deprecated
  description_eq : written.description = source.description
  readOnly_eq : written.readOnly = false
  nullable_eq : written.nullable = (source.nullable || !(model.node source.type).isIntrinsic)
  isSentAs : model.IsSentAs source.type written.type

/-- The property is what the parameter is sent as. -/
structure MirrorsParameter (model : Model) (parameter : Parameter) (property : Property) :
    Prop where
  name_eq : property.name = parameter.name
  required_eq : property.required = parameter.required
  deprecated_eq : property.deprecated = parameter.deprecated
  description_eq : property.description = parameter.description
  nullable_eq : property.nullable = !parameter.required
  readOnly_eq : property.readOnly = false
  writeOnly_eq : property.writeOnly = false
  isSentAs : model.IsSentAs parameter.type property.type

namespace Settled

/-- There is no write type exactly if the type inside all containers has none. -/
lemma writeType_eq_none_iff (h : model.Settled) (id : Nat) :
    (Model.writeType id model).1 = none ↔ ¬model.HasWriteType (model.innermost id) := by
  by_cases hid : id < model.nodes.size
  · exact (Model.writeType_spec h hid).none_iff
  · have hno := not_hasWriteType_of_size_le (Nat.le_of_not_lt hid)
    rw [writeType_of_not hno]
    exact iff_of_true rfl hno

/-- What is sent in place of a type is what it is sent as.

**Proof sketch.** The shape of the write type of the type inside leads somewhere, so that deriving
it again finds it, and an extension keeps the containers and where the shape leads. -/
lemma isSentAs (h : model.Settled) (hd : declared < model.nodes.size)
    (hr : model.IsResent declared sent) : model.IsSentAs declared sent := by
  have hspec := Model.writeType_spec h hd
  unfold IsSentAs
  generalize Model.writeType declared model = result at hspec
  obtain ⟨none | type, new⟩ := result
  · exact hr.same (hspec.none_iff.mp rfl)
  · have hyes : model.HasWriteType (model.innermost declared) :=
      not_not.mp fun hc => Option.some_ne_none type (hspec.none_iff.mpr hc)
    have hlt : model.innermost declared < model.nodes.size :=
      Nat.lt_of_le_of_lt (h.innermost_le declared) hd
    have he : model.Extends model.nodes.size new := hspec.toExtends
    have hnew : new.WellFormed := hspec.coherent.toWellFormed
    have hunwrap : new.unwrap declared = model.unwrap declared :=
      he.unwrap_eq h.toWellFormed hnew hd
    have hinner : new.innermost declared = model.innermost declared := congrArg Prod.snd hunwrap
    -- What was derived before, and what deriving it again gives: the key is the same.
    obtain ⟨write, hk, hu⟩ := hr.wrapped hyes
    obtain ⟨again, hk', hu'⟩ := hspec.isResent.wrapped (by
      rw [hinner, h.toClosedBelow.hasWriteType_iff he hnew hlt]
      exact hyes)
    rw [hinner, h.toClosedBelow.writeKey_eq he hnew hlt, he.derived_le _ _ hk] at hk'
    obtain rfl := Option.some.inj hk'
    refine ⟨?_, write, writeType_of_recorded (h.element?_innermost declared) hyes hk, hu⟩
    rw [hu, ← hunwrap]
    exact hu'

/-! ## Derived types -/

/-- The properties of a derived type are not read-only. -/
lemma readOnly_eq (h : model.Settled) (hd : (model.node id).kind.IsDerived) {p : Property}
    (hp : p ∈ (model.node id).properties) : p.readOnly = false := by
  obtain ⟨properties, ho, hr⟩ := h.origin id hd
  obtain ⟨q, hq, hrep⟩ := exists_of_mem_right (hr List.not_mem_nil) hp
  have hread : q.readOnly = false := ho.isOrigin.readOnly_eq hq
  rw [hrep.2]
  exact hread

/-- A derived type is not read-only. -/
lemma isReadOnly_of_isDerived (h : model.Settled)
    (hd : (model.node (model.innermost id)).kind.IsDerived) : model.isReadOnly id = false := by
  unfold isReadOnly
  dsimp only
  cases hp : (model.node (model.innermost id)).properties with
  | nil => simp
  | cons p rest =>
    have hread : p.readOnly = false := h.readOnly_eq hd (by rw [hp]; exact List.mem_cons_self)
    simp [hread]

/-- The origin of a write type is what can be sent of its source. -/
lemma forall₂_of_write (h : model.Settled) (hk : (model.node write).kind = .write source) :
    source < model.nodes.size ∧ model.HasWriteType source ∧
      List.Forall₂ model.IsRepointed (model.writtenProperties source)
        (model.node write).properties := by
  obtain ⟨properties, ⟨ho, -⟩, hr⟩ := h.origin write (by rw [hk]; trivial)
  rw [hk] at ho
  cases ho with
  | write hs _ hw => exact ⟨hs, hw, hr List.not_mem_nil⟩

/-- The properties of a write type can all be sent.

**Proof sketch.** None of them is read-only. One whose type is that of a property of the source is
sent because that property is, and the others are of types around derived ones. -/
lemma isWritable_of_write (h : model.Settled) (hk : (model.node write).kind = .write source)
    {p : Property} (hp : p ∈ (model.node write).properties) : model.isWritable p = true := by
  obtain ⟨-, -, hr⟩ := h.forall₂_of_write hk
  obtain ⟨q, hq, hresent, -⟩ := exists_of_mem_right hr hp
  have hread : p.readOnly = false := h.readOnly_eq (by rw [hk]; trivial) hp
  have htype : model.isReadOnly p.type = false := by
    by_cases hw : model.HasWriteType (model.innermost q.type)
    · obtain ⟨inside, hkey, hu⟩ := hresent.wrapped hw
      have hinner : model.innermost p.type = inside := congrArg Prod.snd hu
      refine h.isReadOnly_of_isDerived ?_
      rw [hinner]
      exact h.isDerived _ inside hkey
    · rw [hresent.same hw]
      obtain ⟨source, -, hwritable, rfl⟩ := mem_writtenProperties hq
      unfold isWritable at hwritable
      cases hro : model.isReadOnly source.type
      · exact hro
      · rw [hro] at hwritable
        simp at hwritable
  rw [isWritable, hread, htype]
  rfl

/-- A write type has no write type. -/
lemma not_hasWriteType_of_write (h : model.Settled)
    (hk : (model.node write).kind = .write source) : ¬model.HasWriteType write := by
  rintro ⟨-, p, hp, hno⟩
  rw [h.isWritable_of_write hk hp] at hno
  exact Bool.noConfusion hno

/-- The properties of a write type mirror those of its source that can be sent. -/
lemma mirrorsWritten (h : model.Settled) (hk : (model.node write).kind = .write source) :
    List.Forall₂ model.MirrorsWritten (model.writableProperties source)
      (model.node write).properties := by
  obtain ⟨hs, -, hr⟩ := h.forall₂_of_write hk
  rw [writtenProperties, List.forall₂_map_left_iff] at hr
  have hlt : ∀ p ∈ model.writableProperties source,
      p.type < model.nodes.size ∧ p.readOnly = false := by
    intro p hp
    obtain ⟨hmem, hw⟩ := List.mem_filter.mp hp
    exact ⟨h.property_lt source p hmem, readOnly_of_isWritable hw⟩
  refine ((List.forall₂_and_left _ _).mpr ⟨hlt, hr⟩).imp ?_
  rintro p q ⟨⟨hp, hread⟩, hresent, hq⟩
  rw [hq]
  exact ⟨rfl, rfl, rfl, rfl, rfl, hread, rfl, h.isSentAs hp hresent⟩

/-- The origin of a request type is the parameters of its method, if that is still there. -/
lemma forall₂_of_request {operationId : String} {method : Method} (h : model.Settled)
    (hk : (model.node id).kind = .request operationId)
    (hm : model.methods[operationId]? = some method) :
    method.mayUseRequest = true ∧
      List.Forall₂ model.IsRepointed (requestProperties method) (model.node id).properties := by
  obtain ⟨properties, ⟨ho, -⟩, hr⟩ := h.origin id (by rw [hk]; trivial)
  rw [hk] at ho
  cases ho with
  | request hmay _ hf =>
    obtain rfl := hf method hm
    exact ⟨hmay, hr List.not_mem_nil⟩

/-- The properties of a request type mirror the parameters of its method, if that is still
there. -/
lemma mirrorsParameter {operationId : String} {method : Method} (h : model.Settled)
    (hk : (model.node id).kind = .request operationId)
    (hm : model.methods[operationId]? = some method) :
    List.Forall₂ model.MirrorsParameter method.allParameters (model.node id).properties := by
  obtain ⟨-, hr⟩ := h.forall₂_of_request hk hm
  rw [requestProperties, List.forall₂_map_left_iff] at hr
  have hlt : ∀ p ∈ method.allParameters, p.type < model.nodes.size := fun p hp =>
    h.parameter_lt operationId method hm p (Method.mem_allParameters.mp hp)
  refine ((List.forall₂_and_left _ _).mpr ⟨hlt, hr⟩).imp ?_
  rintro p q ⟨hp, hresent, hq⟩
  rw [hq]
  exact ⟨rfl, rfl, rfl, rfl, rfl, rfl, rfl, h.isSentAs hp hresent⟩

end Settled

/-! ## Models that can be reached -/

namespace Reachable

/-- Write types mirror their sources. The properties of a write type are those of its source that
can be sent, each as it is sent. There is one at least, and there are fewer than the source has. A
write type is not read-only and has no write type. A type has no write type exactly if nothing of
the type inside all containers can be sent, or all of it, and then the model stays as it is. -/
theorem write_types_mirror (h : model.Reachable) :
    (∀ write source : TypeId, (model.node write).kind = .write source →
      List.Forall₂ model.MirrorsWritten (model.writableProperties source)
          (model.node write).properties ∧
        0 < (model.node write).properties.length ∧
        (model.node write).properties.length < (model.node source).properties.length ∧
        model.isReadOnly write = false ∧ Model.writeType write model = (none, model)) ∧
    ∀ id : TypeId,
      ((Model.writeType id model).1 = none ↔
        (∀ p ∈ (model.node (model.innermost id)).properties, model.isWritable p = false) ∨
          ∀ p ∈ (model.node (model.innermost id)).properties, model.isWritable p = true) ∧
      ((Model.writeType id model).1 = none → (Model.writeType id model).2 = model) := by
  have hset : model.Settled := h.settled
  refine ⟨fun write source hk => ?_, fun id => ⟨?_, fun hnone => ?_⟩⟩
  · obtain ⟨-, ⟨hsome, hall⟩, hr⟩ := hset.forall₂_of_write hk
    have hmirrors := hset.mirrorsWritten hk
    have hleaf : (model.node write).element? = none := element?_of_isDerived (by rw [hk]; trivial)
    have hinner : model.innermost write = write := innermost_of_not_container hleaf
    refine ⟨hmirrors, ?_, ?_, ?_, ?_⟩
    · obtain ⟨p, hp, hw⟩ := hsome
      rw [← hmirrors.length_eq]
      exact List.length_pos_of_mem (List.mem_filter.mpr ⟨hp, hw⟩)
    · obtain ⟨p, hp, hw⟩ := hall
      rw [← hmirrors.length_eq, writableProperties]
      exact List.length_filter_lt_length_iff_exists.mpr ⟨p, hp, by rw [hw]; simp⟩
    · refine hset.isReadOnly_of_isDerived ?_
      rw [hinner, hk]
      trivial
    · apply writeType_of_not
      rw [hinner]
      exact hset.not_hasWriteType_of_write hk
  · rw [hset.writeType_eq_none_iff, HasWriteType, not_and_or]
    simp
  · exact congrArg Prod.snd (writeType_of_not ((hset.writeType_eq_none_iff id).mp hnone))

/-- In the sample model the write type of users has the one property of users that can be sent. -/
theorem write_types_mirror_sample : (sampleModel.node 26).kind = .write 23 ∧
    List.Forall₂ sampleModel.MirrorsWritten (sampleModel.writableProperties 23)
      (sampleModel.node 26).properties ∧
    (sampleModel.node 26).properties.map (·.name) = ["team"] ∧
    (sampleModel.node 23).properties.map (·.name) = ["id", "team"] ∧
    Model.writeType 26 sampleModel = (none, sampleModel) := by
  obtain ⟨-, -, -, hk, hwritten, hall⟩ := sampleModel_nodes
  obtain ⟨hmirrors, -, -, -, hnone⟩ := (write_types_mirror reachable_sampleModel).1 26 23 hk
  exact ⟨hk, hmirrors, hwritten, hall, hnone⟩

/-- Request types mirror their methods. If the method of a request type is still there, at least
two of its parameters may be left out, and the properties of the request type are its parameters,
each as it is sent. The request type refers to the types inside those of its properties that are
not built in, and to its own write types. -/
theorem request_types_mirror {operationId : String} {method : Method} (h : model.Reachable)
    (hk : (model.node id).kind = .request operationId)
    (hm : model.methods[operationId]? = some method) :
    2 ≤ method.parameters.countP (!·.required) ∧
      List.Forall₂ model.MirrorsParameter method.allParameters (model.node id).properties ∧
      ∀ name : String, name ∈ (model.node id).customTypes ↔
        (∃ p ∈ (model.node id).properties, ∃ type : TypeId,
          model.customType? p.type = some type ∧ model.nameOf type = name) ∨
        ∃ write : TypeId, (model.node write).kind = .write id ∧ model.nameOf write = name := by
  have hset : model.Settled := h.settled
  refine ⟨?_, hset.mirrorsParameter hk hm, fun name => ?_⟩
  · have hmay := (hset.forall₂_of_request hk hm).1
    exact Nat.succ_le_of_lt (of_decide_eq_true hmay)
  · rw [hset.customTypes_iff id operationId hk List.not_mem_nil name, mem_customTypeNames]
    refine or_congr Iff.rfl (exists_congr fun write => ?_)
    rw [and_iff_right List.not_mem_nil]

/-- In the sample model the properties of the request type are the parameters of its method. -/
theorem request_types_mirror_sample : (sampleModel.node 25).kind = .request "find" ∧
    (sampleModel.node 25).properties.map (·.name) = ["log", "like"] ∧
    ∃ method, sampleModel.methods["find"]? = some method ∧
      2 ≤ method.parameters.countP (!·.required) ∧
      List.Forall₂ sampleModel.MirrorsParameter method.allParameters
        (sampleModel.node 25).properties := by
  obtain ⟨-, -, ⟨hk, hsome, hnames, -⟩, -⟩ := sampleModel_nodes
  obtain ⟨method, hm⟩ := Option.isSome_iff_exists.mp hsome
  obtain ⟨htwo, hmirrors, -⟩ := request_types_mirror reachable_sampleModel hk hm
  exact ⟨hk, hnames, method, hm, htwo, hmirrors⟩

/-- A request type that has a write type refers to it, although no property is of that type. -/
theorem request_refers_to_own_write_type : sampleModel.Reachable ∧
    (sampleModel.node 25).kind = .request "find" ∧
    sampleModel.methods["find"]?.isSome = true ∧
    "WriteRequestFind" ∈ (sampleModel.node 25).customTypes ∧
    "WriteRequestFind" ∉ sampleModel.customTypeNames (sampleModel.node 25).properties := by
  obtain ⟨-, -, ⟨hk, hsome, -, hcustom, hnames⟩, -⟩ := sampleModel_nodes
  refine ⟨reachable_sampleModel, hk, hsome, ?_, ?_⟩
  · rw [← Std.TreeSet.mem_toList, hcustom]
    decide
  · rw [← Std.TreeSet.mem_toList, hnames]
    decide

end Reachable

end ClientGen.Model
