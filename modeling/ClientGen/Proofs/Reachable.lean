import ClientGen.Proofs.Derivation.Invariants
import ClientGen.Proofs.Generation.Backends
import ClientGen.Proofs.Generation.Spelling

/-!
# The models that can be reached

A model starts without types of a document or with all of them. From there schemas are resolved,
types are derived, methods are left out and files are generated, in any order. All models that
come from this are well formed and settled.

## Main definitions

* `ClientGen.Model.Reachable` — the models that can be reached.
* `ClientGen.Model.IsInvariant` — a property that holds at the start and is kept by each step.

## Main results

* `ClientGen.Model.Reachable.settled` — they are settled.
* `ClientGen.Model.IsInvariant.of_reachable` — invariants hold in them.
* `ClientGen.Model.Reachable.tables_fit` — their tables fit together, and the walks from containers
  to elements end.
-/

set_option autoImplicit false

namespace ClientGen.Model

/-- The models that can be reached, by what makes them. -/
inductive Reachable : Model → Prop
  /-- The model of the built-in types. -/
  | initial (document : Document) : Reachable (Model.initial document)
  /-- The model of a document. -/
  | ofDocument (document : Document) : Reachable (Model.ofDocument document)
  /-- A schema has been resolved, or has failed to be. -/
  | resolve {model : Model} (schema : Json) (style : Option Style) :
      Reachable model → Reachable (model.resolve schema style).2
  /-- A request type has been derived. -/
  | requestType {model : Model} (operationId : String) :
      Reachable model → Reachable (model.requestType operationId).2
  /-- A write type has been derived. -/
  | writeType {model : Model} (id : TypeId) : Reachable model → Reachable (model.writeType id).2
  /-- The types for all methods have been derived. -/
  | deriveAll {model : Model} : Reachable model → Reachable model.deriveAll
  /-- Some methods have been left out. -/
  | retain {model : Model} (included excluded : List String) :
      Reachable model → Reachable (model.retain included excluded)
  /-- Files have been generated, or have failed to be. -/
  | generate {model : Model} {backend : Backend} (apiVersion packageName : String) :
      backend.OnlyDerives → Reachable model →
        Reachable (model.generate backend apiVersion packageName).2.model

namespace Reachable

variable {model : Model}

/-! ## A sample -/

/-- A reference to a type that the sample document declares. -/
def sampleReference (name : String) : Json :=
  .object [("$ref", .string ("#/definitions/" ++ name))]

/-- A parameter of the query of the sample document, of a type that it declares. -/
def sampleParameter (name type : String) : Json :=
  .object [("name", .string name), ("in", .string "query"), ("schema", sampleReference type)]

/-- A document that declares a type of logs, which cannot be sent at all, a type of users, which
lists other users, and a method with a parameter of each that may be left out. -/
def sampleDocument : Document where
  root := .object [
    ("swagger", .string "2.0"),
    ("definitions", .object [
      ("Log", .object [("properties", .object [
        ("at", .object [("type", .string "string"), ("readOnly", .bool true)])])]),
      ("User", .object [("properties", .object [
        ("id", .object [("type", .string "string"), ("readOnly", .bool true)]),
        ("team", .object [("type", .string "array"), ("items", sampleReference "User")])])])]),
    ("paths", .object [("/users", .object [("get", .object [
      ("operationId", .string "find"),
      ("parameters", .array [sampleParameter "log" "Log", sampleParameter "like" "User"]),
      ("responses", .object [("200", .object [("content", .object [
        ("application/json", .object [("schema", sampleReference "User")])])])])])])])]

/-- The model of the sample document, with the request type of its method, and with the write type
of that. -/
def sampleModel : Model := (((Model.ofDocument sampleDocument).requestType "find").2.writeType 25).2

/-- The sample model can be reached. -/
lemma reachable_sampleModel : sampleModel.Reachable := by
  rw [sampleModel]
  exact ((Reachable.ofDocument sampleDocument).requestType "find").writeType 25

/-- What there is in the sample model. -/
lemma sampleModel_nodes :
    (sampleModel.nodes.size = 29 ∧
      (∀ id < sampleModel.nodes.size, (sampleModel.node id).kind = .component →
        sampleModel.nameOf id ≠ "") ∧
      (sampleModel.node 23).customTypes.toList = ["User", "WriteUser"]) ∧
    ((sampleModel.node 24).kind = .container .list 23 ∧ sampleModel.innermost 24 = 23) ∧
    ((sampleModel.node 25).kind = .request "find" ∧
      sampleModel.methods["find"]?.isSome = true ∧
      (sampleModel.node 25).properties.map (·.name) = ["log", "like"] ∧
      (sampleModel.node 25).customTypes.toList = ["Log", "WriteRequestFind", "WriteUser"] ∧
      (sampleModel.customTypeNames (sampleModel.node 25).properties).toList =
        ["Log", "WriteUser"]) ∧
    ((sampleModel.node 26).kind = .write 23 ∧
      (sampleModel.node 26).properties.map (·.name) = ["team"] ∧
      (sampleModel.node 23).properties.map (·.name) = ["id", "team"]) := by
  decide +kernel

/-! ## Invariants -/

/-- A model that can be reached is settled. -/
theorem settled (h : model.Reachable) : model.Settled := by
  induction h with
  | initial document => exact (Fresh.initial document).settled
  | ofDocument document => exact (Fresh.ofDocument document).settled
  | resolve schema style _ ih =>
    exact ih.grow (resolves_resolve ih.toWellFormed schema style).grows
  | requestType operationId _ ih => exact ih.requestType operationId
  | writeType id _ ih => exact ih.writeType id
  | deriveAll _ ih => exact ih.derivesTo (.deriveAll _)
  | retain included excluded _ ih => exact ih.retain included excluded
  | generate apiVersion packageName hb _ ih =>
    exact ih.derivesTo (hb.generate _ apiVersion packageName)

/-- What is derived from a model that can be reached can be reached. -/
lemma derivesTo {new : Model} (h : model.Reachable) (hd : model.DerivesTo new) :
    new.Reachable := by
  induction hd with
  | refl => exact h
  | requestType operationId _ ih => exact ih.requestType operationId
  | writeType id _ ih => exact ih.writeType id

/-- In a model that can be reached the tables fit together, no two types share a name, a container
comes after its elements, no walk from containers to elements goes on for ever, and the bounds on
the walk to the type inside all containers and on the spelling of a type do not show. -/
theorem tables_fit (h : model.Reachable) :
    model.WellFormed ∧
      (∀ first second : Nat, first < model.nodes.size → second < model.nodes.size →
        model.nameOf first = model.nameOf second → first = second) ∧
      (∀ element id : TypeId, model.IsElement element id →
        element < id ∧ id < model.nodes.size) ∧
      WellFounded model.IsElement ∧
      (∀ id depth : Nat, id ≤ depth → model.unwrapWithin depth id = model.unwrap id) ∧
      (∀ id : TypeId, (model.node (model.innermost id)).element? = none) ∧
      ∀ (spellings : TypeSpellings) (id depth : Nat), id ≤ depth →
        ∀ pass : Pass, pass.model = model →
          (spellings.spellWithin depth id).run.run pass = (spellings.spell id).run.run pass := by
  have hwf : model.WellFormed := h.settled.toWellFormed
  refine ⟨hwf, fun _ _ h₁ h₂ => hwf.nameOf_injOn h₁ h₂, fun element id he => ?_,
    hwf.wellFounded_isElement, hwf.unwrapWithin_eq, hwf.element?_innermost, ?_⟩
  · obtain ⟨wrapper, hk⟩ := he
    exact ⟨hwf.element_lt id wrapper element hk,
      lt_size_of_kind_ne (by rw [hk]; exact TypeKind.noConfusion)⟩
  · rintro spellings id depth hle pass rfl
    exact hwf.spellWithin_eq spellings id depth hle pass

/-- In the sample model the list of users is a container, and the walk from it ends at a user. -/
theorem tables_fit_sample : sampleModel.WellFormed ∧ sampleModel.IsElement 23 24 ∧
    sampleModel.innermost 24 = 23 ∧
    (sampleModel.node (sampleModel.innermost 24)).element? = none := by
  obtain ⟨hwf, -, -, -, -, hleaf, -⟩ := tables_fit reachable_sampleModel
  obtain ⟨-, ⟨hk, hinner⟩, -, -⟩ := sampleModel_nodes
  exact ⟨hwf, ⟨.list, hk⟩, hinner, hleaf 24⟩

end Reachable

/-! ## Further invariants -/

/-- Derivations keep what deriving request types and write types keeps. -/
lemma IsKeptByDeriving.derivesTo {P : List TypeId → Model → Prop} {old new : Model}
    (hP : IsKeptByDeriving P) (h : old.Settled) (hd : old.DerivesTo new) (hold : P [] old) :
    P [] new := by
  induction hd with
  | refl => exact hold
  | requestType operationId hd ih => exact hP.requestType (h.derivesTo hd) operationId ih
  | writeType id hd ih => exact hP.writeType (h.derivesTo hd) id ih

/-- The property holds of the models to start from, and each step keeps it: those of a derivation,
adding a built-in type, and leaving out methods. -/
structure IsInvariant (P : List TypeId → Model → Prop) : Prop extends IsKeptByDeriving P where
  initial : ∀ document : Document, P [] (Model.initial document)
  ofDocument : ∀ document : Document, P [] (Model.ofDocument document)
  /-- A built-in type is added. -/
  intrinsic : ∀ {model : Model} (name : String), model.Settled → P [] model →
    P [] (model.add name .intrinsic .null).2
  /-- Methods are left out. -/
  retain : ∀ {model : Model} (included excluded : List String), model.Settled → P [] model →
    P [] (model.retain included excluded)

namespace IsInvariant

variable {P : List TypeId → Model → Prop} {model old new : Model}

/-- Growing keeps an invariant. -/
lemma grow (hP : IsInvariant P) (h : old.Settled) (hg : old.GrowsTo new) (hold : P [] old) :
    P [] new := by
  induction hg with
  | refl => exact hold
  | intrinsic name hg ih => exact keeps_intrinsic ih (hP.intrinsic name (h.grow hg) ih)
  | container wrapper he hg ih => exact hP.lookup (h.grow hg) wrapper he ih

/-- An invariant holds in all models that can be reached. -/
theorem of_reachable (hP : IsInvariant P) (h : model.Reachable) : P [] model := by
  induction h with
  | initial document => exact hP.initial document
  | ofDocument document => exact hP.ofDocument document
  | resolve schema style h ih =>
    exact hP.grow h.settled (resolves_resolve h.settled.toWellFormed schema style).grows ih
  | requestType operationId h ih => exact hP.requestType h.settled operationId ih
  | writeType id h ih => exact hP.writeType h.settled id ih
  | deriveAll h ih => exact hP.derivesTo h.settled (.deriveAll _) ih
  | retain included excluded h ih => exact hP.retain included excluded h.settled ih
  | generate apiVersion packageName hb h ih =>
    exact hP.derivesTo h.settled (hb.generate _ apiVersion packageName) ih

end IsInvariant

end ClientGen.Model
