import ClientGen.Proofs.DerivedTypes
import ClientGen.Proofs.Derivation.Kinds
import ClientGen.Proofs.Generation.Outcomes

/-!
# Declaring the types of a model

The file of types goes through types one by one, and declares those of some kinds under their names.
What it has declared so far is one item for each of the types that it has looked at, and their
number by kind. Rendering a type adds to the model its write type at most, so that the items stay
what they are.

## Main definitions

* `ClientGen.Backend.Declares` — the kinds of types that a file of types declares.
* `ClientGen.Backend.tallyOf` — how many of some types are declared, by their kind.
* `ClientGen.Backend.RendersTypes` — how a backend has to render types for this.
* `ClientGen.Backend.Walked` — what there is after some types have been looked at.

## Main results

* `ClientGen.Backend.Walked.of_extends` — what has been declared stays so in an extension.
* `ClientGen.Backend.RendersTypes.declare` — what looking at one more type does.
-/

set_option autoImplicit false

namespace ClientGen

open Rendering

variable {backend : Backend} {fails : Prop} {Item : Model → TypeId → String → Prop}
  {old new model : Model} {declarations : Declarations} {pass : Pass} {name text : String}
  {id : Nat}

namespace Backend

/-! ## What is declared -/

/-- A file of types declares the types of the kind. -/
def Declares (backend : Backend) : TypeKind → Prop
  | .intrinsic => False
  | .container _ _ => False
  | .request _ => backend.takesRequests = true
  | .write _ => True
  | .component => True

instance (backend : Backend) : DecidablePred backend.Declares
  | .intrinsic => .isFalse fun h => h
  | .container _ _ => .isFalse fun h => h
  | .request _ => inferInstanceAs (Decidable (_ = true))
  | .write _ => .isTrue trivial
  | .component => .isTrue trivial

/-- What is declared may be declared. -/
lemma isDeclarable_of_declares {kind : TypeKind} (h : backend.Declares kind) :
    kind.IsDeclarable := by
  cases kind <;> first | exact h.elim | trivial

/-- A type that may be declared is no container. -/
lemma element?_of_isDeclarable (h : (model.node id).kind.IsDeclarable) :
    (model.node id).element? = none :=
  Model.element?_eq_none fun _ _ hk => by
    rw [hk] at h
    exact h

/-- A type that may be declared is there. -/
lemma lt_size_of_isDeclarable (h : (model.node id).kind.IsDeclarable) : id < model.nodes.size := by
  refine Model.lt_size_of_kind_ne fun hk => ?_
  rw [hk] at h
  exact h

/-- How many of some types are declared, by their kind. -/
def tallyOf (backend : Backend) (model : Model) (ids : List TypeId) : Tally where
  spec := ids.countP fun id => (model.node id).kind = .component
  request := if backend.takesRequests then ids.countP fun id => (model.node id).isRequest else 0
  write := ids.countP fun id => (model.node id).isWrite

/-- A type that is not declared does not count. -/
lemma tallied?_of_not {tally : Tally} {kind : TypeKind} (h : ¬backend.Declares kind) :
    backend.tallied? tally kind = none := by
  cases kind with
  | request operationId => exact if_neg h
  | write source => exact absurd trivial h
  | component => exact absurd trivial h
  | _ => rfl

/-- Counting a type that is not declared changes nothing. -/
lemma tallyOf_cons_of_not (h : ¬backend.Declares (model.node id).kind) (ids : List TypeId) :
    backend.tallyOf model (id :: ids) = backend.tallyOf model ids := by
  cases hk : (model.node id).kind with
  | write source =>
    rw [hk] at h
    exact absurd trivial h
  | component =>
    rw [hk] at h
    exact absurd trivial h
  | request operationId =>
    rw [hk] at h
    have hno : backend.takesRequests = false := Bool.eq_false_iff.mpr h
    simp [tallyOf, hk, hno, TypeNode.isWrite]
  | _ => simp [tallyOf, hk, TypeNode.isRequest, TypeNode.isWrite]

/-- A type that is declared counts once. -/
lemma tallied?_tallyOf (h : backend.Declares (model.node id).kind) (ids : List TypeId) :
    backend.tallied? (backend.tallyOf model ids) (model.node id).kind =
      some (backend.tallyOf model (id :: ids)) := by
  cases hk : (model.node id).kind with
  | write source => simp [tallied?, tallyOf, hk, TypeNode.isRequest, TypeNode.isWrite]
  | component => simp [tallied?, tallyOf, hk, TypeNode.isRequest, TypeNode.isWrite]
  | request operationId =>
    rw [hk] at h
    have hyes : backend.takesRequests = true := h
    simp [tallied?, tallyOf, hk, hyes, TypeNode.isRequest, TypeNode.isWrite]
  | _ =>
    rw [hk] at h
    exact h.elim

/-- Types of the same kinds count the same. -/
lemma tallyOf_congr {ids : List TypeId}
    (h : ∀ id ∈ ids, (new.node id).kind = (old.node id).kind) :
    backend.tallyOf new ids = backend.tallyOf old ids := by
  have hspec : ids.countP (fun id => (new.node id).kind = .component) =
      ids.countP fun id => (old.node id).kind = .component :=
    List.countP_congr fun id hid => by rw [h id hid]
  have hrequest : ids.countP (fun id => (new.node id).isRequest) =
      ids.countP fun id => (old.node id).isRequest :=
    List.countP_congr fun id hid => by rw [TypeNode.isRequest, TypeNode.isRequest, h id hid]
  have hwrite : ids.countP (fun id => (new.node id).isWrite) =
      ids.countP fun id => (old.node id).isWrite :=
    List.countP_congr fun id hid => by rw [TypeNode.isWrite, TypeNode.isWrite, h id hid]
  rw [tallyOf, tallyOf, hspec, hrequest, hwrite]

/-! ## What has been looked at -/

/-- How types are rendered: rendering a type derives the write type of that type at most, and gives
an item that stays one of the type. It may fail in some case. -/
structure RendersTypes (backend : Backend) (fails : Prop) (Item : Model → TypeId → String → Prop) :
    Prop where
  type : ∀ (pass : Pass) (id : TypeId), pass.model.Settled →
    (pass.model.node id).kind.IsDeclarable →
      (backend.type 0 id).Ensures fails pass fun text after =>
        (after.model = pass.model ∨ after.model = (pass.model.writeType id).2) ∧
          Item after.model id text
  item : ∀ (old new : Model) (id : TypeId) (text : String), old.Settled → new.Settled →
    old.Extends old.nodes.size new → (old.node id).kind.IsDeclarable →
      Item old id text → Item new id text

/-- The declarations after some types have been looked at: one of each of them that is declared. -/
structure Walked (backend : Backend) (Item : Model → TypeId → String → Prop)
    (declarations : Declarations) (model : Model) : Prop where
  nodup : declarations.visited.Nodup
  lt_size : ∀ id ∈ declarations.visited, id < model.nodes.size
  tally_eq : declarations.tally = backend.tallyOf model declarations.visited
  exists_item : ∀ id ∈ declarations.visited, backend.Declares (model.node id).kind →
    ∃ text, declarations.rendered[model.nameOf id]? = some text
  item : ∀ name text, declarations.rendered[name]? = some text →
    ∃ id ∈ declarations.visited, backend.Declares (model.node id).kind ∧
      model.nameOf id = name ∧ Item model id text

namespace Walked

/-- At first nothing has been looked at. -/
lemma empty (backend : Backend) (Item : Model → TypeId → String → Prop) (model : Model) :
    Walked backend Item {} model where
  nodup := .nil
  lt_size _ hid := absurd hid List.not_mem_nil
  tally_eq := by simp [tallyOf]
  exists_item _ hid := absurd hid List.not_mem_nil
  item _ _ ht := by simp at ht

/-- What has been looked at stays so in an extension. -/
lemma of_extends (h : Walked backend Item declarations old) (hb : backend.RendersTypes fails Item)
    (hold : old.Settled) (hnew : new.Settled) (he : old.Extends old.nodes.size new) :
    Walked backend Item declarations new where
  nodup := h.nodup
  lt_size id hid := Nat.lt_of_lt_of_le (h.lt_size id hid) he.size_le
  tally_eq := h.tally_eq.trans (tallyOf_congr fun id hid => he.kind_eq (h.lt_size id hid)).symm
  exists_item id hid hd := by
    rw [he.kind_eq (h.lt_size id hid)] at hd
    rw [he.nameOf_eq (h.lt_size id hid)]
    exact h.exists_item id hid hd
  item name text ht := by
    obtain ⟨id, hid, hd, hname, hitem⟩ := h.item name text ht
    refine ⟨id, hid, ?_, ?_, ?_⟩
    · rwa [he.kind_eq (h.lt_size id hid)]
    · rwa [he.nameOf_eq (h.lt_size id hid)]
    · exact hb.item old new id text hold hnew he (isDeclarable_of_declares hd) hitem

/-- Looking at a type that is not declared. -/
lemma skip (h : Walked backend Item declarations model) (hid : id ∉ declarations.visited)
    (hlt : id < model.nodes.size) (hd : ¬backend.Declares (model.node id).kind) :
    Walked backend Item { declarations with visited := id :: declarations.visited } model where
  nodup := List.nodup_cons.mpr ⟨hid, h.nodup⟩
  lt_size := List.forall_mem_cons.mpr ⟨hlt, h.lt_size⟩
  tally_eq := h.tally_eq.trans (tallyOf_cons_of_not hd _).symm
  exists_item := List.forall_mem_cons.mpr ⟨fun hc => absurd hc hd, h.exists_item⟩
  item name text ht := by
    obtain ⟨id', hid', hrest⟩ := h.item name text ht
    exact ⟨id', List.mem_cons_of_mem _ hid', hrest⟩

/-- Looking at a type that is declared. -/
lemma insert (h : Walked backend Item declarations model) (hid : id ∉ declarations.visited)
    (hd : backend.Declares (model.node id).kind) (hitem : Item model id text) :
    Walked backend Item
      { visited := id :: declarations.visited
        rendered := declarations.rendered.insert (model.nameOf id) text
        tally := backend.tallyOf model (id :: declarations.visited) } model where
  nodup := List.nodup_cons.mpr ⟨hid, h.nodup⟩
  lt_size := List.forall_mem_cons.mpr
    ⟨lt_size_of_isDeclarable (isDeclarable_of_declares hd), h.lt_size⟩
  tally_eq := rfl
  exists_item := by
    refine List.forall_mem_cons.mpr ⟨fun _ => ⟨text, by simp⟩, fun other ho hd' => ?_⟩
    rw [Std.TreeMap.getElem?_insert]
    split
    · exact ⟨text, rfl⟩
    · exact h.exists_item other ho hd'
  item other text' ht := by
    rw [Std.TreeMap.getElem?_insert] at ht
    split_ifs at ht with hc
    · obtain rfl := Option.some.inj ht
      exact ⟨id, List.mem_cons_self, hd, Std.LawfulEqCmp.eq_of_compare hc, hitem⟩
    · obtain ⟨id', hid', hrest⟩ := h.item other text' ht
      exact ⟨id', List.mem_cons_of_mem _ hid', hrest⟩

end Walked

/-! ## One step -/

/-- Declaring a type looks at it, and derives the write type of that type at most, if the type is
declared. -/
lemma RendersTypes.declare (hb : backend.RendersTypes fails Item) (hset : pass.model.Settled)
    (hnamed : fails ∨ pass.model.IsNamed) (hw : Walked backend Item declarations pass.model)
    (hid : id ∉ declarations.visited) (hname : pass.model.names[name]? = some id) :
    (backend.declare declarations (name, id)).Ensures fails pass fun walked after =>
      Walked backend Item walked after.model ∧ walked.visited = id :: declarations.visited ∧
        (after.model = pass.model ∨ backend.Declares (pass.model.node id).kind ∧
          after.model = (pass.model.writeType id).2) := by
  obtain ⟨hlt, rfl⟩ := (hset.names_iff name id).mp hname
  unfold Backend.declare
  dsimp only
  refine Ensures.node_bind ?_
  by_cases hd : backend.Declares (pass.model.node id).kind
  · have hdeclarable : (pass.model.node id).kind.IsDeclarable := isDeclarable_of_declares hd
    rw [hw.tally_eq, tallied?_tallyOf hd]
    refine Ensures.ensureNamed_bind
      (fun hn => hnamed.resolve_right fun h => h id hdeclarable hn) ?_
    refine (hb.type pass id hset hdeclarable).bind ?_
    rintro text after ⟨hmodel, hitem⟩
    have hafter : after.model.Settled ∧ pass.model.Extends pass.model.nodes.size after.model := by
      rcases hmodel with he | he <;> rw [he]
      · exact ⟨hset, .refl _ _⟩
      · exact hset.writeType_spec id
    obtain ⟨hsettled, he⟩ := hafter
    have hwalked : Walked backend Item declarations after.model :=
      hw.of_extends hb hset hsettled he
    have hd' : backend.Declares (after.model.node id).kind := by rwa [he.kind_eq hlt]
    have hinsert := hwalked.insert hid hd' hitem
    have htally : backend.tallyOf pass.model (id :: declarations.visited) =
        backend.tallyOf after.model (id :: declarations.visited) :=
      (tallyOf_congr (List.forall_mem_cons.mpr
        ⟨he.kind_eq hlt, fun other ho => he.kind_eq (hw.lt_size other ho)⟩)).symm
    rw [he.nameOf_eq hlt, ← htally] at hinsert
    exact Ensures.pure ⟨hinsert, rfl, hmodel.imp_right fun h => ⟨hd, h⟩⟩
  · rw [tallied?_of_not hd]
    exact Ensures.pure ⟨hw.skip hid hlt hd, rfl, Or.inl rfl⟩

end Backend

end ClientGen
