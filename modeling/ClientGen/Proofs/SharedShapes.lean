import ClientGen.Proofs.DerivedTypes
import ClientGen.Proofs.Shape

/-!
# Types of one shape share one derived type

A derived type is found under the digest of its shape, whatever it was derived from. So a method may
be given the request type of another method, and that has the right properties only if the digest
told the two apart. This is the case exactly if no two lists of properties of one digest differ in
names or in what must be present, and always if digests tell shapes apart and no name has a
separator of shapes in it.

## Main definitions

* `ClientGen.Model.SharesFaithfully` — that derived types have the names and the required properties
  of what they are asked for with.
* `ClientGen.Model.IsAskedFor`, `ClientGen.Model.IsRecorded` — the properties that a derived type
  can be asked for with, and those that one was asked for with.
* `ClientGen.Model.IsUnambiguous` — that no two such lists are taken for each other.
* `ClientGen.Model.IsCollisionFree`, `ClientGen.Model.IsSeparatorFree` — that digests tell shapes
  apart, and that no name has a separator of shapes in it.

## Main results

* `ClientGen.Model.Reachable.sharesFaithfully_iff` — sharing is faithful exactly in unambiguous
  models.
-/

set_option autoImplicit false

namespace ClientGen.Model

variable {model : Model} {id : Nat}

/-! ## Signatures -/

/-- The names of some properties, and whether they must be present. -/
def signature (properties : List Property) : List (String × Bool) :=
  properties.map fun p => (p.name, p.required)

/-- The names and the required properties stay when properties are pointed at write types. -/
lemma signature_eq_of_isRepointed {sources results : List Property}
    (h : List.Forall₂ model.IsRepointed sources results) :
    signature results = signature sources := by
  induction h with
  | nil => rfl
  | @cons source result _ _ hfirst _ ih =>
    obtain ⟨hname, hrequired⟩ : result.name = source.name ∧ result.required = source.required := by
      rw [hfirst.2]
      exact ⟨rfl, rfl⟩
    rw [signature, List.map_cons, hname, hrequired]
    exact congrArg _ ih

/-- The names and the required properties of a type are those of its write type before that is
narrowed. -/
lemma signature_writtenProperties (model : Model) (id : TypeId) :
    signature (model.writtenProperties id) = signature (model.writableProperties id) := by
  rw [signature, writtenProperties, List.map_map]
  rfl

/-- The names and the required properties of a request type are those of the parameters. -/
lemma signature_requestProperties (method : Method) : signature (requestProperties method) =
    method.allParameters.map fun p => (p.name, p.required) := by
  rw [signature, requestProperties, List.map_map]
  rfl

/-- Properties that agree on all parts of the shape agree on names and on what is required. -/
lemma signature_eq_of_shapeParts_eq {first second : List Property}
    (h : first.map model.shapeParts = second.map model.shapeParts) :
    signature first = signature second := by
  have hparts : ∀ properties : List Property, signature properties =
      (properties.map model.shapeParts).map fun parts =>
        (parts.headD "", decide (parts.getD 4 "" = "true")) := by
    intro properties
    rw [signature, List.map_map]
    refine List.map_congr_left fun p _ => ?_
    cases hp : p.required <;> simp [shapeParts, flagText, hp]
  rw [hparts, h, ← hparts]

/-! ## Sharing -/

/-- A request type has the names and the required ones of the parameters of the method that it is
derived for, and a write type has those of the properties that can be sent. -/
structure SharesFaithfully (model : Model) : Prop where
  request : ∀ (operationId : String) (method : Method) (request : TypeId) (new : Model),
    model.methods[operationId]? = some method →
      requestType operationId model = (some request, new) →
        signature (new.node request).properties =
          method.allParameters.map fun p => (p.name, p.required)
  write : ∀ (source write : TypeId) (new : Model), (model.node source).element? = none →
    writeType source model = (some write, new) →
      signature (new.node write).properties = signature (model.writableProperties source)

/-- The properties that a derived type can be asked for with. -/
inductive IsAskedFor (model : Model) : List Property → Prop
  /-- The parameters of a method that may use a request type. -/
  | request {operationId : String} {method : Method} :
      model.methods[operationId]? = some method → method.mayUseRequest = true →
        IsAskedFor model (requestProperties method)
  /-- The properties of a type that can be sent, where that are some but not all. -/
  | write {source : TypeId} : (model.node source).element? = none → model.HasWriteType source →
      IsAskedFor model (model.writtenProperties source)

/-- The properties that a derived type was asked for with. -/
def IsRecorded (model : Model) (properties : List Property) : Prop :=
  ∃ id : TypeId, model.HasOrigin model.nodes.size id properties ∧
    List.Forall₂ model.IsRepointed properties (model.node id).properties

/-- No properties that can be asked for have the digest of others that were asked for, of other
names or with others required. -/
def IsUnambiguous (model : Model) : Prop :=
  ∀ asked recorded, model.IsAskedFor asked → model.IsRecorded recorded →
    model.shapeDigest asked = model.shapeDigest recorded → signature asked = signature recorded

/-- No properties that can be asked for have the digest of others that were asked for, of another
shape. -/
def IsCollisionFree (model : Model) : Prop :=
  ∀ asked recorded, model.IsAskedFor asked → model.IsRecorded recorded →
    model.shapeDigest asked = model.shapeDigest recorded →
      model.shape asked = model.shape recorded

/-- No name of a type, a property or a parameter has a separator of shapes in it. -/
structure IsSeparatorFree (model : Model) : Prop where
  name : ∀ id : TypeId, id < model.nodes.size → IsPlain (model.nameOf id)
  property : ∀ id : TypeId, ∀ p ∈ (model.node id).properties, IsPlain p.name
  parameter : ∀ (operationId : String) (method : Method),
    model.methods[operationId]? = some method → ∀ p ∈ method.parameters, IsPlain p.name

/-- A model that shares faithfully is unambiguous.

**Proof sketch.** If properties that can be asked for have the digest of others that were asked for,
then asking for them finds the type of those, whose names are those of both. -/
lemma SharesFaithfully.isUnambiguous (hs : model.SharesFaithfully) : model.IsUnambiguous := by
  rintro asked recorded hasked ⟨id, ho, hr⟩ hdigest
  have hk : model.derived[model.shapeDigest asked]? = some id := (ho.derived_iff _).mpr hdigest
  rw [← signature_eq_of_isRepointed hr]
  cases hasked with
  | @request operationId method hm hmay =>
    rw [hs.request operationId method id model hm (requestType_of_recorded hm hmay hk),
      signature_requestProperties]
  | @write source hleaf hw =>
    rw [hs.write source id model hleaf (writeType_of_recorded hleaf hw hk),
      signature_writtenProperties]

namespace Settled

/-- The type that a digest leads to was asked for with properties of that digest, and has their
names and required ones. -/
lemma exists_recorded (h : model.Settled) {key : String} (hk : model.derived[key]? = some id) :
    ∃ recorded, model.IsRecorded recorded ∧ key = model.shapeDigest recorded ∧
      signature (model.node id).properties = signature recorded := by
  obtain ⟨recorded, ho, hkey, hr⟩ := h.exists_origin hk
  exact ⟨recorded, ⟨id, ho, hr List.not_mem_nil⟩, hkey,
    signature_eq_of_isRepointed (hr List.not_mem_nil)⟩

/-- In an unambiguous model a method gets a request type with the names of its parameters.

**Proof sketch.** A request type that is not there yet is that of the method. One that is there was
asked for with properties of the same digest, and so with the same names. -/
lemma signature_requestType (h : model.Settled) (hu : model.IsUnambiguous) {operationId : String}
    {method : Method} {request : TypeId} {new : Model}
    (hm : model.methods[operationId]? = some method)
    (hr : Model.requestType operationId model = (some request, new)) :
    signature (new.node request).properties =
      method.allParameters.map fun p => (p.name, p.required) := by
  obtain ⟨found, hfound, hmay⟩ := exists_method_of_requestType hr
  obtain rfl : method = found := Option.some.inj (hm.symm.trans hfound)
  have ha := h.answers_requestType hm hmay
  rw [hr] at ha
  rw [← signature_requestProperties]
  cases ha with
  | recorded hk =>
    obtain ⟨recorded, hrec, hdigest, hsig⟩ := h.exists_recorded hk
    rw [hsig, hu _ _ (.request hm hmay) hrec hdigest]
  | made hk hmade he hkind =>
    refine signature_eq_of_isRepointed (hmade.forall₂_of_request hkind ?_).2
    rw [he.methods_eq]
    exact hm

/-- In an unambiguous model a type gets a write type with the names of its properties that can be
sent. -/
lemma signature_writeType (h : model.Settled) (hu : model.IsUnambiguous) {source : Nat}
    {write : TypeId} {new : Model} (hleaf : (model.node source).element? = none)
    (hr : Model.writeType source model = (some write, new)) :
    signature (new.node write).properties = signature (model.writableProperties source) := by
  have hw : model.HasWriteType source := hasWriteType_of_writeType hleaf hr
  have ha := h.answers_writeType hleaf hw
  rw [hr] at ha
  rw [← signature_writtenProperties]
  cases ha with
  | recorded hk =>
    obtain ⟨recorded, hrec, hdigest, hsig⟩ := h.exists_recorded hk
    rw [hsig, hu _ _ (.write hleaf hw) hrec hdigest]
  | made hk hmade he hkind =>
    obtain ⟨⟨p, hp, -⟩, -⟩ := hw
    rw [signature_eq_of_isRepointed (hmade.forall₂_of_write hkind).2.2,
      h.toClosedBelow.writtenProperties_eq he hmade.toWellFormed (lt_size_of_mem_properties hp)]

/-- A model without collisions of digests and without separators in names is unambiguous.

**Proof sketch.** Names that were recorded are those of the properties of a type. So no list of
properties that is asked for or recorded has a separator in a name, and the shape tells such lists
apart. -/
lemma isUnambiguous_of_isSeparatorFree (h : model.Settled) (hc : model.IsCollisionFree)
    (hf : model.IsSeparatorFree) : model.IsUnambiguous := by
  intro asked recorded hasked hrecorded hdigest
  have hshape : model.shape asked = model.shape recorded := hc _ _ hasked hrecorded hdigest
  obtain ⟨id, ho, hr⟩ := hrecorded
  refine signature_eq_of_shapeParts_eq (shapeParts_eq_of_shape_eq ?_ ?_ hshape)
  · intro p hp
    cases hasked with
    | @request operationId method hm hmay =>
      obtain ⟨parameter, hmem, rfl⟩ := List.mem_map.mp hp
      have hmem := Method.mem_allParameters.mp hmem
      exact ⟨hf.parameter operationId method hm parameter hmem,
        hf.name _ (h.parameter_lt operationId method hm parameter hmem)⟩
    | @write source hleaf hw =>
      obtain ⟨q, hq, -, rfl⟩ := mem_writtenProperties hp
      exact ⟨hf.property source q hq, hf.name _ (h.property_lt source q hq)⟩
  · intro p hp
    have hmem : (p.name, p.required) ∈ signature (model.node id).properties := by
      rw [signature_eq_of_isRepointed hr]
      exact List.mem_map.mpr ⟨p, hp, rfl⟩
    obtain ⟨q, hq, heq⟩ := List.mem_map.mp hmem
    refine ⟨?_, hf.name _ (ho.isOrigin.type_lt h.toClosedBelow hp)⟩
    rw [← (Prod.mk.inj heq).1]
    exact hf.property id q hq

end Settled

/-- A model that can be reached shares faithfully exactly if it is unambiguous. It does if digests
tell shapes apart and no name of a type, a property or a parameter has a separator of shapes in
it. -/
theorem Reachable.sharesFaithfully_iff (h : model.Reachable) :
    (model.SharesFaithfully ↔ model.IsUnambiguous) ∧
      (model.IsCollisionFree → model.IsSeparatorFree → model.SharesFaithfully) := by
  have hset : model.Settled := h.settled
  have hshares : model.IsUnambiguous → model.SharesFaithfully := fun hu =>
    ⟨fun _ _ _ _ hm hr => hset.signature_requestType hu hm hr,
      fun _ _ _ hleaf hr => hset.signature_writeType hu hleaf hr⟩
  exact ⟨⟨SharesFaithfully.isUnambiguous, hshares⟩,
    fun hc hf => hshares (hset.isUnambiguous_of_isSeparatorFree hc hf)⟩

/-! ## An ambiguous document -/

/-- A method of the query with some parameters, which are texts that may be left out. -/
def queryMethod (operationId : String) (names : List String) : Json :=
  .object [("get", .object [
    ("operationId", .string operationId),
    ("parameters", .array (names.map fun name => .object [("name", .string name),
      ("in", .string "query"), ("schema", .object [("type", .string "string")])])),
    ("responses", .object [("200", .object [("content", .object [
      ("application/json", .object [("schema", .object [("type", .string "string")])])])])])])]

/-- A document with two methods. The name of the first parameter of the second one reads like the
shape of the first parameter of the first one, up to the name of the next. -/
def ambiguousDocument : Document where
  root := .object [("paths", .object [
    ("/a", queryMethod "a" ["x", "y", "z"]),
    ("/b", queryMethod "b" ["x:string:true:false:false:false;y", "z"])])]

/-- The model of the ambiguous document, with the request type of the first method. -/
def ambiguousModel : Model := ((Model.ofDocument ambiguousDocument).requestType "a").2

/-- In the ambiguous model the second method is given the request type of the first one, which has
three properties, for its two parameters. -/
theorem not_sharesFaithfully_ambiguousModel :
    ambiguousModel.Reachable ∧ ¬ambiguousModel.SharesFaithfully := by
  have hreach : ambiguousModel.Reachable := (Reachable.ofDocument ambiguousDocument).requestType "a"
  refine ⟨hreach, fun hs => ?_⟩
  have hu : ambiguousModel.IsUnambiguous := hreach.sharesFaithfully_iff.1.mp hs
  have hfacts : ambiguousModel.methods["b"]?.map (fun method => (method.mayUseRequest,
      ambiguousModel.derived[ambiguousModel.shapeDigest (requestProperties method)]?,
      (signature (requestProperties method)).length)) = some (true, some 22, 2) ∧
      (signature (ambiguousModel.node 22).properties).length = 3 := by
    decide +kernel
  obtain ⟨hmethod, hthree⟩ := hfacts
  obtain ⟨method, hm, hparts⟩ := Option.map_eq_some_iff.mp hmethod
  simp only [Prod.mk.injEq] at hparts
  obtain ⟨hmay, hk, htwo⟩ := hparts
  obtain ⟨recorded, hrec, hdigest, hsig⟩ := hreach.settled.exists_recorded hk
  rw [hsig, ← hu _ _ (.request hm hmay) hrec hdigest, htwo] at hthree
  exact absurd hthree (by decide)

end ClientGen.Model
