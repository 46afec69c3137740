import Mathlib.Data.List.Forall2
import ClientGen.Proofs.Derivation.Writable

/-!
# What derived types are made from

A request type is asked for with the parameters of its method, and a write type with the properties
of its source that can be sent. In the derived type each of these is of the type that it is sent
as: the write type of its own type, in the same containers, where there is one. An extension of a
model keeps all of this.

## Main definitions

* `ClientGen.Model.IsResent`, `ClientGen.Model.IsRepointed` — the type and the property that are
  sent in place of a declared one.
* `ClientGen.Model.IsOrigin` — the properties that a derived type is asked for with.
* `ClientGen.Model.HasOrigin` — that a derived type was asked for with some properties, and is
  found under their shape.

## Main results

* `ClientGen.Model.IsResent.of_extends`, `ClientGen.Model.IsOrigin.of_extends` — an extension keeps
  what is sent and what derived types are asked for with.
-/

set_option autoImplicit false

namespace ClientGen.Model

variable {limit : Nat} {model old new : Model} {declared sent : Nat}

/-! ## Types and properties that are sent -/

/-- The second type is sent in place of the first one: the same containers around the write type
of the type inside, or the type itself if that has no write type. -/
structure IsResent (model : Model) (declared sent : TypeId) : Prop where
  /-- The containers around the write type. -/
  wrapped : model.HasWriteType (model.innermost declared) →
    ∃ write : TypeId, model.derived[model.writeKey (model.innermost declared)]? = some write ∧
      model.unwrap sent = ((model.unwrap declared).1, write)
  /-- The type itself. -/
  same : ¬model.HasWriteType (model.innermost declared) → sent = declared

/-- The second property is the first one, of the type that is sent. -/
def IsRepointed (model : Model) (source result : Property) : Prop :=
  model.IsResent source.type result.type ∧ result = { source with type := result.type }

/-- What is sent in place of a type below the limit stays. -/
lemma IsResent.of_extends (hr : old.IsResent declared sent) (h : old.ClosedBelow limit)
    (he : old.Extends limit new) (hnew : new.WellFormed) (hd : declared < limit)
    (hs : sent < old.nodes.size) : new.IsResent declared sent := by
  have hlt : old.innermost declared < limit := Nat.lt_of_le_of_lt (h.innermost_le declared) hd
  have hin := he.innermost_eq h.toWellFormed hnew (Nat.lt_of_lt_of_le hd h.limit_le)
  have hun := he.unwrap_eq h.toWellFormed hnew (Nat.lt_of_lt_of_le hd h.limit_le)
  constructor
  · rw [hin, h.hasWriteType_iff he hnew hlt, h.writeKey_eq he hnew hlt, hun,
      he.unwrap_eq h.toWellFormed hnew hs]
    intro hwrite
    obtain ⟨write, hk, hu⟩ := hr.wrapped hwrite
    exact ⟨write, he.derived_le _ _ hk, hu⟩
  · rw [hin, h.hasWriteType_iff he hnew hlt]
    exact hr.same

/-- In models of the same types and shapes the same types are sent. -/
lemma IsResent.congr (hr : old.IsResent declared sent) (hnodes : new.nodes = old.nodes)
    (hderived : new.derived = old.derived) : new.IsResent declared sent := by
  constructor
  · rw [innermost, unwrap_congr hnodes, unwrap_congr hnodes, hasWriteType_congr hnodes,
      writeKey_congr hnodes, hderived]
    exact hr.wrapped
  · rw [innermost, unwrap_congr hnodes, hasWriteType_congr hnodes]
    exact hr.same

/-- What is sent in place of properties of types below the limit stays. -/
lemma forall₂_isRepointed_of_extends {sources results : List Property}
    (hr : List.Forall₂ old.IsRepointed sources results) (h : old.ClosedBelow limit)
    (he : old.Extends limit new) (hnew : new.WellFormed)
    (hd : ∀ p ∈ sources, p.type < limit) (hs : ∀ p ∈ results, p.type < old.nodes.size) :
    List.Forall₂ new.IsRepointed sources results := by
  induction hr with
  | nil => exact .nil
  | cons hfirst _ ih =>
    refine .cons ⟨hfirst.1.of_extends h he hnew ?_ ?_, hfirst.2⟩ (ih ?_ ?_)
    · exact hd _ List.mem_cons_self
    · exact hs _ List.mem_cons_self
    · exact fun p hp => hd p (List.mem_cons_of_mem _ hp)
    · exact fun p hp => hs p (List.mem_cons_of_mem _ hp)

/-! ## Origins -/

/-- The properties that a derived type of a kind is asked for with. A method that is still there
is the one that was asked for. -/
inductive IsOrigin (limit : Nat) (model : Model) : TypeKind → List Property → Prop
  /-- The properties of a type that can be written. -/
  | write {source : TypeId} : source < limit → (model.node source).element? = none →
      model.HasWriteType source →
      IsOrigin limit model (.write source) (model.writtenProperties source)
  /-- The parameters of a method. -/
  | request {method : Method} : method.mayUseRequest = true →
      (∀ p ∈ method.parameters, p.type < limit) →
      (∀ found, model.methods[method.operationId]? = some found → found = method) →
      IsOrigin limit model (.request method.operationId)
        (method.allParameters.map (·.toProperty))

namespace IsOrigin

variable {kind : TypeKind} {properties : List Property} {p : Property}

/-- The properties that a derived type is asked for with are of types below the limit. -/
lemma type_lt (ho : model.IsOrigin limit kind properties) (h : model.ClosedBelow limit)
    (hp : p ∈ properties) : p.type < limit := by
  cases ho with
  | write hs _ _ => exact h.writtenType_lt hs hp
  | request _ ht _ =>
    obtain ⟨parameter, hmem, rfl⟩ := List.mem_map.mp hp
    exact ht parameter (Method.mem_allParameters.mp hmem)

/-- The properties that a derived type is asked for with can be written. -/
lemma readOnly_eq (ho : model.IsOrigin limit kind properties) (hp : p ∈ properties) :
    p.readOnly = false := by
  cases ho with
  | write _ _ _ =>
    obtain ⟨q, -, hw, rfl⟩ := mem_writtenProperties hp
    exact readOnly_of_isWritable hw
  | request _ _ _ =>
    obtain ⟨parameter, -, rfl⟩ := List.mem_map.mp hp
    rfl

/-- A type with an origin is derived. -/
lemma isDerived (ho : model.IsOrigin limit kind properties) : kind.IsDerived := by
  cases ho <;> trivial

/-- A type with an origin is made of types below the limit. -/
lemma refersBelow (ho : model.IsOrigin limit kind properties) {bound : Nat}
    (hle : limit ≤ bound) : kind.RefersBelow bound := by
  cases ho with
  | write hs _ _ => exact Nat.lt_of_lt_of_le hs hle
  | request _ _ _ => trivial

/-- What a derived type is asked for with stays. -/
lemma of_extends (ho : old.IsOrigin limit kind properties) (h : old.ClosedBelow limit)
    (he : old.Extends limit new) (hnew : new.WellFormed) :
    new.IsOrigin limit kind properties := by
  cases ho with
  | write hs hc hw =>
    rw [← h.writtenProperties_eq he hnew hs]
    refine .write hs ?_ ((h.hasWriteType_iff he hnew hs).mpr hw)
    rw [he.element?_eq (Nat.lt_of_lt_of_le hs h.limit_le)]
    exact hc
  | request hm ht hf =>
    refine .request hm ht ?_
    rw [he.methods_eq]
    exact hf

/-- In a model of the same types whose methods are among those of another one, derived types are
asked for with the same properties. -/
lemma congr (ho : old.IsOrigin limit kind properties) (hnodes : new.nodes = old.nodes)
    (hmethods : ∀ (operationId : String) (method : Method),
      new.methods[operationId]? = some method → old.methods[operationId]? = some method) :
    new.IsOrigin limit kind properties := by
  cases ho with
  | @write source hs hc hw =>
    rw [← writtenProperties_congr hnodes]
    refine .write hs ?_ ((hasWriteType_congr hnodes source).mpr hw)
    rw [node_congr hnodes]
    exact hc
  | request hm ht hf => exact .request hm ht fun found hfound => hf found (hmethods _ found hfound)

/-- What a derived type is asked for with does not depend on the limit. -/
lemma mono {larger : Nat} (ho : model.IsOrigin limit kind properties) (hle : limit ≤ larger) :
    model.IsOrigin larger kind properties := by
  cases ho with
  | write hs hc hw => exact .write (Nat.lt_of_lt_of_le hs hle) hc hw
  | request hm ht hf => exact .request hm (fun p hp => Nat.lt_of_lt_of_le (ht p hp) hle) hf

end IsOrigin

/-- A derived type that was asked for with some properties is what the digest of their shape leads
to, and no other digest leads to it. -/
structure HasOrigin (limit : Nat) (model : Model) (id : TypeId) (properties : List Property) :
    Prop where
  isOrigin : model.IsOrigin limit (model.node id).kind properties
  derived_iff : ∀ key, model.derived[key]? = some id ↔ key = model.shapeDigest properties

end ClientGen.Model
