import ClientGen.Model.Derived
import ClientGen.Proofs.Graph.Extension

/-!
# What can be written stays so

Which properties of a type can be sent to the service, and so whether the type has a write type
and under which shape, depends on the type, on the types of its properties and on the types
inside those. An extension of a model keeps all of this for the types below its limit, if the
properties of those types are of types below the limit.

## Main definitions

* `ClientGen.Model.HasWriteType` — that some but not all properties of a type can be written.
* `ClientGen.Model.writeKey` — the digest of the shape that the write type of a type has.
* `ClientGen.Model.ClosedBelow` — models in which types below a limit refer to types below it.

## Main results

* `ClientGen.Model.hasWriteType_iff` — the test that a derivation makes.
* `ClientGen.Model.ClosedBelow.writtenProperties_eq`,
  `ClientGen.Model.ClosedBelow.writeKey_eq` — an extension keeps what can be written.
-/

set_option autoImplicit false

namespace ClientGen.Model

variable {limit : Nat} {model old new : Model} {id : Nat} {p : Property}

/-! ## Write types -/

/-- Some but not all properties of the type can be sent to the service. -/
def HasWriteType (model : Model) (id : TypeId) : Prop :=
  (∃ p ∈ (model.node id).properties, model.isWritable p = true) ∧
    ∃ p ∈ (model.node id).properties, model.isWritable p = false

/-- The digest of the shape of the write type of a type. -/
def writeKey (model : Model) (id : TypeId) : String :=
  model.shapeDigest (model.writtenProperties id)

/-- Nothing of a type can be sent, or all of it, exactly if the type has no write type. -/
theorem hasWriteType_iff (model : Model) (id : TypeId) : model.HasWriteType id ↔
    ¬((model.writtenProperties id).isEmpty ||
      (model.writtenProperties id).length = (model.node id).properties.length) := by
  have hsome : (∃ p ∈ (model.node id).properties, model.isWritable p = true) ↔
      (model.writtenProperties id).isEmpty = false := by
    simp [writtenProperties, writableProperties, List.isEmpty_eq_false_iff]
  have hall : (∃ p ∈ (model.node id).properties, model.isWritable p = false) ↔
      (model.writtenProperties id).length ≠ (model.node id).properties.length := by
    rw [writtenProperties, List.length_map, writableProperties, Ne,
      List.length_filter_eq_length_iff]
    simp
  rw [HasWriteType, hsome, hall]
  simp

/-- A property that can be written is not read-only. -/
lemma readOnly_of_isWritable (h : model.isWritable p = true) : p.readOnly = false := by
  unfold isWritable at h
  cases hp : p.readOnly
  · rfl
  · rw [hp] at h
    exact absurd h (by simp)

/-- A property of a write type comes from a property of the type that can be written. -/
lemma mem_writtenProperties (hp : p ∈ model.writtenProperties id) :
    ∃ q ∈ (model.node id).properties, model.isWritable q = true ∧ model.asWritten q = p := by
  obtain ⟨q, hq, rfl⟩ := List.mem_map.mp hp
  obtain ⟨hmem, hw⟩ := List.mem_filter.mp hq
  exact ⟨q, hmem, hw, rfl⟩

/-- The shape of properties of types that are there stays. -/
lemma Extends.shapeDigest_eq (he : old.Extends limit new) {properties : List Property}
    (hp : ∀ p ∈ properties, p.type < old.nodes.size) :
    new.shapeDigest properties = old.shapeDigest properties := by
  have hshape : ∀ p ∈ properties, new.propertyShape p = old.propertyShape p := fun p hmem => by
    rw [propertyShape, propertyShape, shapeParts, shapeParts, he.nameOf_eq (hp p hmem)]
  rw [shapeDigest, shapeDigest, shape, shape, List.map_congr_left hshape]

/-- The type inside all containers stays what it is, if it is not built in. -/
lemma Extends.customType?_eq (he : old.Extends limit new) (hold : old.WellFormed)
    (hnew : new.WellFormed) (hid : id < old.nodes.size) :
    new.customType? id = old.customType? id := by
  have hlt := Nat.lt_of_le_of_lt (hold.innermost_le id) hid
  rw [customType?, customType?, he.innermost_eq hold hnew hid, he.isIntrinsic_eq hlt]

/-- The names of the types that properties refer to stay. -/
lemma Extends.customTypeNames_eq (he : old.Extends limit new) (hold : old.WellFormed)
    (hnew : new.WellFormed) {properties : List Property}
    (hp : ∀ p ∈ properties, p.type < old.nodes.size) :
    new.customTypeNames properties = old.customTypeNames properties := by
  have hcustom : ∀ p ∈ properties,
      (new.customType? p.type).map new.nameOf = (old.customType? p.type).map old.nameOf := by
    intro p hmem
    rw [he.customType?_eq hold hnew (hp p hmem)]
    cases hc : old.customType? p.type with
    | none => rfl
    | some type =>
      have hlt : type < old.nodes.size := (lt_size_of_customType? hc).2
      rw [Option.map_some, Option.map_some, he.nameOf_eq hlt]
  rw [customTypeNames, customTypeNames, List.map_filterMap, List.map_filterMap,
    List.filterMap_congr hcustom]

/-! ## Types below a limit -/

/-- A well-formed model in which the types below a limit have properties of types below it. -/
structure ClosedBelow (limit : Nat) (model : Model) : Prop extends model.WellFormed where
  limit_le : limit ≤ model.nodes.size
  type_lt : ∀ id : TypeId, id < limit → ∀ p ∈ (model.node id).properties, p.type < limit

namespace ClosedBelow

/-- A property of a write type is of a type below the limit. -/
lemma writtenType_lt (h : old.ClosedBelow limit) (hid : id < limit)
    (hp : p ∈ old.writtenProperties id) : p.type < limit := by
  obtain ⟨q, hq, -, rfl⟩ := mem_writtenProperties hp
  exact h.type_lt id hid q hq

/-- A well-formed extension has properties of types below the limit, too. -/
lemma of_extends (h : old.ClosedBelow limit) (he : old.Extends limit new)
    (hnew : new.WellFormed) : new.ClosedBelow limit where
  toWellFormed := hnew
  limit_le := Nat.le_trans h.limit_le he.size_le
  type_lt id hid p hp := by
    rw [he.properties_eq id hid] at hp
    exact h.type_lt id hid p hp

variable (h : old.ClosedBelow limit) (he : old.Extends limit new) (hnew : new.WellFormed)

include h he hnew

/-- Whether a type is read-only stays. -/
lemma isReadOnly_eq (hid : id < limit) : new.isReadOnly id = old.isReadOnly id := by
  have hlt : old.innermost id < limit := Nat.lt_of_le_of_lt (h.innermost_le id) hid
  unfold isReadOnly
  rw [he.innermost_eq h.toWellFormed hnew (Nat.lt_of_lt_of_le hid h.limit_le)]
  dsimp only
  rw [he.isIntrinsic_eq (Nat.lt_of_lt_of_le hlt h.limit_le), he.properties_eq _ hlt]

/-- Whether a property can be written stays. -/
lemma isWritable_eq (hp : p.type < limit) : new.isWritable p = old.isWritable p := by
  rw [isWritable, isWritable, h.isReadOnly_eq he hnew hp]

/-- The properties that can be written stay. -/
lemma writableProperties_eq (hid : id < limit) :
    new.writableProperties id = old.writableProperties id := by
  rw [writableProperties, writableProperties, he.properties_eq id hid]
  exact List.filter_congr fun p hp => h.isWritable_eq he hnew (h.type_lt id hid p hp)

omit hnew in
/-- A property as it is written stays. -/
lemma asWritten_eq (hp : p.type < limit) : new.asWritten p = old.asWritten p := by
  rw [asWritten, asWritten, he.isIntrinsic_eq (Nat.lt_of_lt_of_le hp h.limit_le)]

/-- The properties of a write type stay. -/
theorem writtenProperties_eq (hid : id < limit) :
    new.writtenProperties id = old.writtenProperties id := by
  rw [writtenProperties, writtenProperties, h.writableProperties_eq he hnew hid]
  exact List.map_congr_left fun p hp =>
    h.asWritten_eq he (h.type_lt id hid p (List.mem_filter.mp hp).1)

/-- Whether a type has a write type stays. -/
theorem hasWriteType_iff (hid : id < limit) : new.HasWriteType id ↔ old.HasWriteType id := by
  rw [Model.hasWriteType_iff, Model.hasWriteType_iff, h.writtenProperties_eq he hnew hid,
    he.properties_eq id hid]

/-- The shape of a write type stays. -/
theorem writeKey_eq (hid : id < limit) : new.writeKey id = old.writeKey id := by
  rw [writeKey, writeKey, h.writtenProperties_eq he hnew hid]
  exact he.shapeDigest_eq fun p hp => Nat.lt_of_lt_of_le (h.writtenType_lt hid hp) h.limit_le

end ClosedBelow

/-! ## Models of the same types -/

section SameNodes

variable (hnodes : new.nodes = old.nodes)

include hnodes

/-- Models of the same types have the same type under a number. -/
lemma node_congr (id : TypeId) : new.node id = old.node id := by
  rw [node, node, hnodes]

/-- Models of the same types have the same containers around a type. -/
lemma unwrap_congr (id : TypeId) : new.unwrap id = old.unwrap id := by
  have hwithin : ∀ depth id, new.unwrapWithin depth id = old.unwrapWithin depth id := by
    intro depth
    induction depth with
    | zero => exact fun _ => rfl
    | succ depth ih =>
      intro id
      rw [unwrapWithin, unwrapWithin, node_congr hnodes]
      simp only [ih]
  exact hwithin id id

/-- In models of the same types the same properties can be written. -/
lemma isWritable_congr (p : Property) : new.isWritable p = old.isWritable p := by
  rw [isWritable, isWritable, isReadOnly, isReadOnly, innermost, innermost,
    unwrap_congr hnodes, node_congr hnodes]

/-- In models of the same types the write type of a type has the same properties. -/
lemma writtenProperties_congr (id : TypeId) :
    new.writtenProperties id = old.writtenProperties id := by
  have hwritten : ∀ p, new.asWritten p = old.asWritten p := fun p => by
    rw [asWritten, asWritten, node_congr hnodes]
  rw [writtenProperties, writtenProperties, writableProperties, writableProperties,
    node_congr hnodes, funext (isWritable_congr hnodes), funext hwritten]

/-- In models of the same types the same types have write types. -/
lemma hasWriteType_congr (id : TypeId) : new.HasWriteType id ↔ old.HasWriteType id := by
  rw [hasWriteType_iff, hasWriteType_iff, writtenProperties_congr hnodes, node_congr hnodes]

/-- In models of the same types properties have the same shape. -/
lemma shapeDigest_congr (properties : List Property) :
    new.shapeDigest properties = old.shapeDigest properties := by
  have hshape : ∀ p, new.propertyShape p = old.propertyShape p := fun p => by
    rw [propertyShape, propertyShape, shapeParts, shapeParts, nameOf, nameOf, node_congr hnodes]
  rw [shapeDigest, shapeDigest, shape, shape, funext hshape]

/-- In models of the same types the write type of a type has the same shape. -/
lemma writeKey_congr (id : TypeId) : new.writeKey id = old.writeKey id := by
  rw [writeKey, writeKey, writtenProperties_congr hnodes, shapeDigest_congr hnodes]

/-- In models of the same types the type inside all containers is the same, and as much built in. -/
lemma customType?_congr (id : TypeId) : new.customType? id = old.customType? id := by
  rw [customType?, customType?, innermost, innermost, unwrap_congr hnodes, node_congr hnodes]

/-- In models of the same types properties refer to types of the same names. -/
lemma customTypeNames_congr (properties : List Property) :
    new.customTypeNames properties = old.customTypeNames properties := by
  have hname : ∀ id, new.nameOf id = old.nameOf id := fun id => by
    rw [nameOf, nameOf, node_congr hnodes]
  rw [customTypeNames, customTypeNames, funext hname,
    funext fun p : Property => customType?_congr hnodes p.type]

end SameNodes

end ClientGen.Model
