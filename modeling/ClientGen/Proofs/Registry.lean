import ClientGen.Proofs.SharedShapes

/-!
# Derived types are found again

The digests of shapes and the derived types of a model that can be reached are in bijection: a
digest leads to a derived type, and each derived type is led to by one digest, that of the
properties that it was asked for with. What decides the shape of those properties never changes, so
asking for the same derived type again finds it and leaves the model as it is.

## Main results

* `ClientGen.Model.Settled.writeType_source` — the source of a write type leads to it.
* `ClientGen.Model.Settled.requestType_operationId` — the method of a request type leads to it.
* `ClientGen.Model.Settled.writeType_again`, `ClientGen.Model.Settled.writeType_of_extends` — the
  write type of a type is there after it is derived, and stays.
* `ClientGen.Model.Reachable.derived_bijective` — shapes and derived types are in bijection, and a
  derived type is found again by what it was derived from.
-/

set_option autoImplicit false

namespace ClientGen.Model

variable {model : Model} {id write source request : Nat} {operationId : String} {method : Method}

namespace Settled

/-- Just the digest of the shape of its origin leads to a derived type. -/
lemma existsUnique_key (h : model.Settled) (hd : (model.node id).kind.IsDerived) :
    ∃! key : String, model.derived[key]? = some id := by
  obtain ⟨properties, ⟨-, hk⟩, -⟩ := h.origin id hd
  exact ⟨model.shapeDigest properties, (hk _).mpr rfl, fun key hkey => (hk key).mp hkey⟩

/-- A digest leads to a type exactly if the type is derived. -/
lemma exists_key_iff (h : model.Settled) (id : Nat) :
    (∃ key : String, model.derived[key]? = some id) ↔ (model.node id).kind.IsDerived :=
  ⟨fun ⟨key, hk⟩ => h.isDerived key id hk, fun hd => (h.existsUnique_key hd).exists⟩

/-- The source of a write type leads to it.

**Proof sketch.** The origin of the write type is what can be written of its source, so the digest
of the shape of that leads to the write type. -/
theorem writeType_source (h : model.Settled) (hk : (model.node write).kind = .write source) :
    Model.writeType source model = (some write, model) := by
  obtain ⟨properties, ⟨ho, hkey⟩, -⟩ := h.origin write (by rw [hk]; trivial)
  rw [hk] at ho
  cases ho with
  | write _ hleaf hw => exact writeType_of_recorded hleaf hw ((hkey _).mpr rfl)

/-- The method of a request type leads to it, if the method is still there. -/
theorem requestType_operationId (h : model.Settled)
    (hk : (model.node request).kind = .request operationId)
    (hm : model.methods[operationId]? = some method) :
    Model.requestType operationId model = (some request, model) := by
  obtain ⟨properties, ⟨ho, hkey⟩, -⟩ := h.origin request (by rw [hk]; trivial)
  rw [hk] at ho
  cases ho with
  | request hmay _ hf =>
    obtain rfl := hf method hm
    exact requestType_of_recorded hm hmay ((hkey _).mpr rfl)

/-- What the write type of a type is stays so in an extension, if it is there, for a type that is no
container. -/
theorem writeType_of_extends {old new : Model} (hold : old.Settled) (hnew : new.Settled)
    (he : old.Extends old.nodes.size new) (hid : id < old.nodes.size)
    (hleaf : (old.node id).element? = none) (hthere : (Model.writeType id old).2 = old) :
    Model.writeType id new = ((Model.writeType id old).1, new) := by
  have hkey : new.writeKey id = old.writeKey id :=
    hold.toClosedBelow.writeKey_eq he hnew.toWellFormed hid
  have hiff : new.HasWriteType id ↔ old.HasWriteType id :=
    hold.toClosedBelow.hasWriteType_iff he hnew.toWellFormed hid
  have hleaf' : (new.node id).element? = none := (he.element?_eq hid).trans hleaf
  by_cases hw : old.HasWriteType id
  · obtain ⟨write, hk⟩ := (hold.answers_writeType hleaf hw).exists_recorded trivial hthere
    rw [writeType_of_recorded hleaf hw hk]
    exact writeType_of_recorded hleaf' (hiff.mpr hw) (by rw [hkey]; exact he.derived_le _ _ hk)
  · rw [writeType_of_leaf_of_not hleaf hw]
    exact writeType_of_leaf_of_not hleaf' (hiff.not.mpr hw)

/-- After the write type of a type is derived, it is there, for a type that is no container. -/
theorem writeType_again (h : model.Settled) (hleaf : (model.node id).element? = none) :
    Model.writeType id (Model.writeType id model).2 =
      ((Model.writeType id model).1, (Model.writeType id model).2) := by
  by_cases hw : model.HasWriteType id
  · have ha := h.answers_writeType hleaf hw
    generalize hanswer : Model.writeType id model = answer at ha ⊢
    cases ha with
    | recorded _ => exact hanswer
    | made _ hmade _ hkind => exact hmade.writeType_source hkind
  · have hno := writeType_of_leaf_of_not hleaf hw
    rw [hno]
    exact hno

end Settled

/-- The digests of shapes lead to the derived types of a model that can be reached, and to nothing
else, and one digest leads to each of them. A write type is found again by its source, and a
request type by its method, if that is still there; this leaves the model as it is. -/
theorem Reachable.derived_bijective (h : model.Reachable) :
    (∀ id : TypeId,
      (∃ key : String, model.derived[key]? = some id) ↔ (model.node id).kind.IsDerived) ∧
      (∀ id : TypeId, (model.node id).kind.IsDerived →
        ∃! key : String, model.derived[key]? = some id) ∧
      (∀ write source : TypeId, (model.node write).kind = .write source →
        Model.writeType source model = (some write, model)) ∧
      ∀ (request : TypeId) (operationId : String) (method : Method),
        (model.node request).kind = .request operationId →
          model.methods[operationId]? = some method →
            Model.requestType operationId model = (some request, model) :=
  ⟨h.settled.exists_key_iff, fun _ hd => h.settled.existsUnique_key hd,
    fun _ _ hk => h.settled.writeType_source hk,
    fun _ _ _ hk hm => h.settled.requestType_operationId hk hm⟩

/-- In the sample model the write type of users is found again by the type of users, and the request
type by its method. -/
theorem Reachable.derived_bijective_sample :
    (∃! key : String, Reachable.sampleModel.derived[key]? = some 26) ∧
      Model.writeType 23 Reachable.sampleModel = (some 26, Reachable.sampleModel) ∧
      Model.requestType "find" Reachable.sampleModel = (some 25, Reachable.sampleModel) := by
  obtain ⟨-, -, ⟨hrequest, hsome, -⟩, hwrite, -⟩ := Reachable.sampleModel_nodes
  obtain ⟨method, hm⟩ := Option.isSome_iff_exists.mp hsome
  obtain ⟨-, hunique, hsource, hmethod⟩ :=
    Reachable.derived_bijective Reachable.reachable_sampleModel
  exact ⟨hunique 26 (by rw [hwrite]; trivial), hsource 26 23 hwrite,
    hmethod 25 "find" method hrequest hm⟩

end ClientGen.Model
