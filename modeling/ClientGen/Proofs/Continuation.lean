import ClientGen.Proofs.Graph.Reading
import ClientGen.Proofs.Reachable

/-!
# What a model goes on to be

After a model has been made, schemas are resolved, types are derived, methods are left out and
files are generated. All of that, and most of what reading a document does, keeps the types that
are there: a type keeps its number, its name and its kind, and names and references lead where
they led.

## Main definitions

* `ClientGen.Model.KeepsTypes` — that a model has the types of another one.
* `ClientGen.Model.IsKeptIn` — that it has them with their properties, and with what is sent in
  place of them.
* `ClientGen.Model.Continues` — the models that a model goes on to be.

## Main results

* `ClientGen.Model.KeepsTypes.isKeptByReading` — reading the contents of a document keeps all types.
* `ClientGen.Model.Continues.keeps` — what extensions keep, and leaving out methods does, is kept.
* `ClientGen.Model.Continues.reachable`, `ClientGen.Model.Continues.keepsTypes`,
  `ClientGen.Model.Continues.isKeptIn` — a model that can be reached goes on to be models that
  can be reached, and that keep its types and their contents.
-/

set_option autoImplicit false

namespace ClientGen.Model

variable {limit : Nat} {old mid new start model : Model} {id : Nat} {change : TypeNode → TypeNode}

/-! ## The same types -/

/-- The second model has all types of the first one, under the same numbers and names, and the
same references. Contents of types and methods may differ. -/
structure KeepsTypes (old new : Model) : Prop where
  document_eq : new.document = old.document
  refs_eq : new.refs = old.refs
  size_le : old.nodes.size ≤ new.nodes.size
  bare_eq : ∀ id : TypeId, id < old.nodes.size → (new.node id).bare = (old.node id).bare
  names_le : ∀ (name : String) (id : TypeId),
    old.names[name]? = some id → new.names[name]? = some id

/-- An extension has the same types. -/
lemma Extends.keepsTypes (h : old.Extends limit new) : old.KeepsTypes new :=
  ⟨h.document_eq, h.refs_eq, h.size_le, h.bare_eq, h.names_le⟩

namespace KeepsTypes

/-- A model that differs in neither of the tables of types has the same types. -/
lemma of_eq (hdocument : new.document = old.document) (hrefs : new.refs = old.refs)
    (hnodes : new.nodes = old.nodes) (hnames : new.names = old.names) : old.KeepsTypes new where
  document_eq := hdocument
  refs_eq := hrefs
  size_le := Nat.le_of_eq (by rw [hnodes])
  bare_eq id _ := by rw [node, node, hnodes]
  names_le _ _ h := by rwa [hnames]

/-- A model has its own types. -/
lemma refl (model : Model) : model.KeepsTypes model := of_eq rfl rfl rfl rfl

/-- What has the types of a model that has the types of a third one has those, too. -/
theorem trans (h₁ : old.KeepsTypes mid) (h₂ : mid.KeepsTypes new) : old.KeepsTypes new where
  document_eq := h₂.document_eq.trans h₁.document_eq
  refs_eq := h₂.refs_eq.trans h₁.refs_eq
  size_le := Nat.le_trans h₁.size_le h₂.size_le
  bare_eq id hid :=
    (h₂.bare_eq id (Nat.lt_of_lt_of_le hid h₁.size_le)).trans (h₁.bare_eq id hid)
  names_le name id hn := h₂.names_le name id (h₁.names_le name id hn)

/-- Adding a type keeps all types. -/
lemma add (model : Model) (base : String) (kind : TypeKind) (schema : Json) :
    model.KeepsTypes (model.add base kind schema).2 :=
  (Extends.add (Nat.zero_le _)).keepsTypes

/-- Changing the contents of a type keeps all types. -/
lemma modify (hbare : ∀ node, (change node).bare = node.bare) :
    model.KeepsTypes (model.modify id change) :=
  (Extends.modify (Nat.zero_le id) hbare).keepsTypes

/-- Looking up built-in types and containers keeps all types. -/
lemma grow (h : old.GrowsTo new) : old.KeepsTypes new :=
  (h.toExtends (Nat.zero_le _)).keepsTypes

/-- A type keeps its kind. -/
lemma kind_eq (h : old.KeepsTypes new) (hid : id < old.nodes.size) :
    (new.node id).kind = (old.node id).kind :=
  (congrArg TypeNode.kind (h.bare_eq id hid) :)

/-- A type keeps its name. -/
lemma nameOf_eq (h : old.KeepsTypes new) (hid : id < old.nodes.size) :
    new.nameOf id = old.nameOf id :=
  (congrArg TypeNode.name (h.bare_eq id hid) :)

/-- Each step of reading the contents of a document keeps all types of a model. -/
lemma isKeptByReading (model : Model) : IsKeptByReading model.KeepsTypes where
  intrinsic _ _ hmid := hmid.trans (.add _ _ _ _)
  container _ _ _ _ _ hmid := hmid.trans (.add _ _ _ _)
  fill _ _ hmid := hmid.trans (.modify fun _ => rfl)
  report _ _ _ _ hmid := hmid.trans (.of_eq rfl rfl rfl rfl)
  use _ _ _ hmid := hmid.trans (.modify fun _ => rfl)
  tag _ _ _ hmid := hmid.trans (.of_eq rfl rfl rfl rfl)
  method _ hmid := hmid.trans (.of_eq rfl rfl rfl rfl)

end KeepsTypes

/-! ## The same contents -/

/-- The second model has all types of the first one with the same properties, the same containers
around the same type inside, and the same type that is sent in place of them. -/
structure IsKeptIn (old new : Model) : Prop extends old.KeepsTypes new where
  properties_eq : ∀ id : TypeId, id < old.nodes.size →
    (new.node id).properties = (old.node id).properties
  unwrap_eq : ∀ id : TypeId, id < old.nodes.size → new.unwrap id = old.unwrap id
  isResent : ∀ declared sent : TypeId, declared < old.nodes.size → sent < old.nodes.size →
    old.IsResent declared sent → new.IsResent declared sent

namespace IsKeptIn

/-- A model has its own contents. -/
lemma refl (model : Model) : model.IsKeptIn model :=
  ⟨.refl model, fun _ _ => rfl, fun _ _ => rfl, fun _ _ _ _ h => h⟩

/-- What has the contents of a model that has the contents of a third one has those, too. -/
theorem trans (h₁ : old.IsKeptIn mid) (h₂ : mid.IsKeptIn new) :
    old.IsKeptIn new where
  toKeepsTypes := h₁.toKeepsTypes.trans h₂.toKeepsTypes
  properties_eq id hid := (h₂.properties_eq id (Nat.lt_of_lt_of_le hid h₁.size_le)).trans
    (h₁.properties_eq id hid)
  unwrap_eq id hid := (h₂.unwrap_eq id (Nat.lt_of_lt_of_le hid h₁.size_le)).trans
    (h₁.unwrap_eq id hid)
  isResent declared sent hdeclared hsent h :=
    h₂.isResent declared sent (Nat.lt_of_lt_of_le hdeclared h₁.size_le)
      (Nat.lt_of_lt_of_le hsent h₁.size_le) (h₁.isResent declared sent hdeclared hsent h)

/-- An extension of a settled model has its contents. -/
lemma of_extends (h : old.Settled) (hnew : new.WellFormed)
    (he : old.Extends old.nodes.size new) : old.IsKeptIn new where
  toKeepsTypes := he.keepsTypes
  properties_eq := he.properties_eq
  unwrap_eq _ hid := he.unwrap_eq h.toWellFormed hnew hid
  isResent _ _ hdeclared hsent hresent :=
    hresent.of_extends h.toClosedBelow he hnew hdeclared hsent

/-- Leaving out methods keeps the contents of all types. -/
lemma retain (model : Model) (included excluded : List String) :
    model.IsKeptIn (model.retain included excluded) := by
  have hnodes : (model.retain included excluded).nodes = model.nodes := rfl
  exact ⟨.of_eq rfl rfl hnodes rfl, fun id _ => by rw [node_congr hnodes],
    fun id _ => unwrap_congr hnodes id, fun _ _ _ _ h => h.congr hnodes rfl⟩

end IsKeptIn

/-! ## Going on -/

/-- The models that a model goes on to be, by what is done to it. -/
inductive Continues (start : Model) : Model → Prop
  /-- Nothing has been done. -/
  | refl : Continues start start
  /-- A schema has been resolved, or has failed to be. -/
  | resolve {model : Model} (schema : Json) (style : Option Style) :
      Continues start model → Continues start (model.resolve schema style).2
  /-- A request type has been derived. -/
  | requestType {model : Model} (operationId : String) :
      Continues start model → Continues start (model.requestType operationId).2
  /-- A write type has been derived. -/
  | writeType {model : Model} (id : TypeId) :
      Continues start model → Continues start (model.writeType id).2
  /-- The types for all methods have been derived. -/
  | deriveAll {model : Model} : Continues start model → Continues start model.deriveAll
  /-- Some methods have been left out. -/
  | retain {model : Model} (included excluded : List String) :
      Continues start model → Continues start (model.retain included excluded)
  /-- Files have been generated, or have failed to be. -/
  | generate {model : Model} {backend : Backend} (apiVersion packageName : String) :
      backend.OnlyDerives → Continues start model →
        Continues start (model.generate backend apiVersion packageName).2.model

namespace Continues

/-- What a model that can be reached goes on to be can be reached. -/
theorem reachable (h : start.Continues model) (hstart : start.Reachable) : model.Reachable := by
  induction h with
  | refl => exact hstart
  | resolve schema style _ ih => exact ih.resolve schema style
  | requestType operationId _ ih => exact ih.requestType operationId
  | writeType id _ ih => exact ih.writeType id
  | deriveAll _ ih => exact ih.deriveAll
  | retain included excluded _ ih => exact ih.retain included excluded
  | generate apiVersion packageName hb _ ih => exact ih.generate apiVersion packageName hb

/-- A property of a model that can be reached is one of all that the model goes on to be, if
extensions and leaving out methods keep it.

**Proof sketch.** Induction on what is done. Resolving a schema grows the model, and derivations
extend it, since it is settled. -/
theorem keeps {P : Model → Prop} (h : start.Continues model) (hstart : start.Reachable)
    (hP : P start)
    (hextend : ∀ {old new : Model}, old.Settled → new.Settled →
      old.Extends old.nodes.size new → P old → P new)
    (hretain : ∀ {mid : Model} (included excluded : List String), mid.Settled → P mid →
      P (mid.retain included excluded)) : P model := by
  have hderived : ∀ {mid new : Model}, start.Continues mid → mid.DerivesTo new → P mid → P new :=
    fun hmid hd =>
      have hset := (hmid.reachable hstart).settled
      hextend hset (hset.derivesTo hd) (hset.extends_of_derivesTo hd)
  induction h with
  | refl => exact hP
  | @resolve mid schema style hmid ih =>
    have hset := (hmid.reachable hstart).settled
    have hgrows := (resolves_resolve hset.toWellFormed schema style).grows
    exact hextend hset (hset.grow hgrows) (hgrows.toExtends (Nat.le_refl _)) ih
  | @requestType mid operationId hmid ih =>
    exact hderived hmid (DerivesTo.refl.requestType operationId) ih
  | @writeType mid id hmid ih => exact hderived hmid (DerivesTo.refl.writeType id) ih
  | @deriveAll mid hmid ih => exact hderived hmid (.deriveAll mid) ih
  | retain included excluded hmid ih =>
    exact hretain included excluded (hmid.reachable hstart).settled ih
  | @generate mid backend apiVersion packageName hb hmid ih =>
    exact hderived hmid (hb.generate mid apiVersion packageName) ih

/-- What a model that can be reached goes on to be has its types. -/
theorem keepsTypes (h : start.Continues model) (hstart : start.Reachable) :
    start.KeepsTypes model :=
  h.keeps hstart (.refl start) (fun _ _ he hmid => hmid.trans he.keepsTypes)
    fun _ _ _ hmid => hmid.trans (.of_eq rfl rfl rfl rfl)

/-- What a model that can be reached goes on to be has the contents of its types. -/
theorem isKeptIn (h : start.Continues model) (hstart : start.Reachable) :
    start.IsKeptIn model :=
  h.keeps hstart (.refl start)
    (fun hold hnew he hmid => hmid.trans (.of_extends hold hnew.toWellFormed he))
    fun included excluded _ hmid => hmid.trans (.retain _ included excluded)

end Continues

end ClientGen.Model
