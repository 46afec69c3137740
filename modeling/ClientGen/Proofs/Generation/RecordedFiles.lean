import ClientGen.Proofs.Generation.Listing
import ClientGen.Proofs.Registry

/-!
# The file of types of the recording backend

The recording backend writes a type as its name, its properties with the names of their types, and
the name of its write type, if it is to derive that. If it is told to fail at no question, its file
of types holds one such item for each type that is declared, with the types that it derives while it
writes others.

## Main definitions

* `ClientGen.Recorder.typeText` — a type as the recording backend writes it.

## Main results

* `ClientGen.Recorder.rendersTypes` — how the recording backend renders types.
* `ClientGen.Model.Reachable.recorded_types` — the file of types of the recording backend.
-/

set_option autoImplicit false

namespace ClientGen

open Rendering

/-! ## Types as they are written -/

namespace Recorder

variable {recorder : Recorder} {fails : Prop} {pass : Pass} {old new model : Model} {id : Nat}
  {level : Nat} {text : String}

/-- A property with the name of its type. -/
def propertyText (model : Model) (property : Property) : String :=
  indent 1 ++ property.name ++ ": " ++ model.nameOf property.type

/-- The line of a type that names its write type, if there is one and it is to be derived. -/
def writeLines (recorder : Recorder) (model : Model) (id : TypeId) : List String :=
  if recorder.write then
    match (model.writeType id).1 with
    | some write => ["writes " ++ model.nameOf write]
    | none => []
  else []

/-- A type with its properties and the name of its write type. -/
def typeText (recorder : Recorder) (model : Model) (id : TypeId) : String :=
  "\n".intercalate
    (["type " ++ model.nameOf id] ++ (model.node id).properties.map (propertyText model) ++
      recorder.writeLines model id)

/-- The head or the end of a file. -/
def frameOf (recorder : Recorder) (name : String) : String :=
  if recorder.frame.isEmpty then "" else recorder.frame ++ name

/-- The text is that of the type, whose write type is there if it is to be derived. -/
structure IsItem (recorder : Recorder) (model : Model) (id : TypeId) (text : String) : Prop where
  text_eq : text = recorder.typeText model id
  snd_writeType : recorder.write = true → (model.writeType id).2 = model

/-- The properties of a type are written the same in an extension. -/
lemma propertyTexts_of_extends (hold : old.WellFormed) (he : old.Extends old.nodes.size new)
    (hid : id < old.nodes.size) : (new.node id).properties.map (propertyText new) =
      (old.node id).properties.map (propertyText old) := by
  rw [he.properties_eq id hid]
  refine List.map_congr_left fun p hp => ?_
  rw [propertyText, propertyText, he.nameOf_eq (hold.property_lt id p hp)]

/-- An item of a type stays one in an extension. -/
lemma IsItem.of_extends (h : recorder.IsItem old id text) (hold : old.Settled)
    (hnew : new.Settled) (he : old.Extends old.nodes.size new) (hid : id < old.nodes.size)
    (hleaf : (old.node id).element? = none) : recorder.IsItem new id text := by
  have hwrites : recorder.writeLines new id = recorder.writeLines old id := by
    unfold writeLines
    split
    next hw =>
      have hthere : (old.writeType id).2 = old := h.snd_writeType hw
      have hspec := Model.writeType_spec hold hid
      rw [hold.writeType_of_extends hnew he hid hleaf hthere]
      cases hwrite : (old.writeType id).1 with
      | none => rfl
      | some write =>
        have hlt : write < old.nodes.size := by
          have hsize := hspec.lt_size
          rwa [hwrite, hthere] at hsize
        show ["writes " ++ new.nameOf write] = ["writes " ++ old.nameOf write]
        rw [he.nameOf_eq hlt]
    next => rfl
  refine ⟨?_, fun hw => ?_⟩
  · rw [h.text_eq, typeText, typeText, he.nameOf_eq hid, hwrites,
      propertyTexts_of_extends hold.toWellFormed he hid]
  · rw [hold.writeType_of_extends hnew he hid hleaf (h.snd_writeType hw)]

/-- The item of a type after its write type has been derived. -/
lemma isItem_writeType (hw : recorder.write = true) (hset : model.Settled)
    (hlt : id < model.nodes.size) (hleaf : (model.node id).element? = none) :
    recorder.IsItem (model.writeType id).2 id ("\n".intercalate
      (["type " ++ model.nameOf id] ++ (model.node id).properties.map (propertyText model) ++
        match (model.writeType id).1 with
        | some write => ["writes " ++ (model.writeType id).2.nameOf write]
        | none => [])) := by
  have hext := (hset.writeType_spec id).2
  have hagain := hset.writeType_again hleaf
  refine ⟨?_, fun _ => by rw [hagain]⟩
  rw [typeText, writeLines, if_pos hw, hagain, hext.nameOf_eq hlt,
    propertyTexts_of_extends hset.toWellFormed hext hlt]

/-! ## Rendering them -/

section Rendering

variable (hfail : recorder.fail = "")

include hfail

/-- A question is recorded. -/
lemma ensures_ask {question : String} (hq : question ≠ "") :
    (recorder.ask question).Ensures fails pass fun _ after => after.model = pass.model := by
  refine Ensures.modify_bind ?_
  rw [hfail, if_neg hq]
  exact Ensures.pure rfl

/-- A question about something is recorded. -/
lemma ensures_ask_question {kind : String} (hkind : kind ≠ "") (subject : String) (level : Nat) :
    (recorder.ask (question kind subject level)).Ensures fails pass fun _ after =>
      after.model = pass.model :=
  ensures_ask hfail (Model.append_ne_empty (Model.append_ne_empty
    (Model.append_ne_empty (Model.append_ne_empty hkind _) _) _) _)

/-- The spelling of a type is its name. -/
lemma ensures_spell (id : TypeId) : (recorder.spell id).Ensures fails pass fun spelling after =>
    after.model = pass.model ∧ spelling.name = pass.model.nameOf id := by
  refine Ensures.reference_bind fun counted hcounted => Ensures.node_bind ?_
  refine (ensures_ask hfail (Model.append_ne_empty (by decide) _)).bind fun _ after hafter => ?_
  rw [← hcounted]
  exact Ensures.pure ⟨hafter, rfl⟩

/-- A property. -/
lemma ensures_property (property : Property) :
    (recorder.property 1 property).Ensures fails pass fun text after =>
      after.model = pass.model ∧ propertyText pass.model property = text := by
  refine (ensures_ask_question hfail (by decide) _ _).bind fun _ asked hasked => ?_
  refine (ensures_spell hfail property.type).bind fun spelling after hafter => ?_
  obtain ⟨hmodel, hname⟩ := hafter
  rw [hasked] at hmodel hname
  refine Ensures.pure ⟨hmodel, ?_⟩
  rw [hname]
  rfl

/-- The head or the end of a file. -/
lemma ensures_frameText {name : String} (hname : name ≠ "") :
    (recorder.frameText name).Ensures fails pass fun text after =>
      text = recorder.frameOf name ∧ after.model = pass.model := by
  refine Ensures.get_bind ?_
  have hasks := Model.append_ne_empty (Model.append_ne_empty hname " ")
    (",".intercalate pass.referencedNames)
  refine (ensures_ask hfail hasks).bind fun _ after hafter => ?_
  exact Ensures.pure ⟨rfl, hafter⟩

/-- A type with its properties and the name of its write type. -/
lemma ensures_type (hset : pass.model.Settled) (hd : (pass.model.node id).kind.IsDeclarable) :
    (recorder.type 0 id).Ensures fails pass fun text after =>
      (after.model = pass.model ∨ after.model = (pass.model.writeType id).2) ∧
        recorder.IsItem after.model id text := by
  have hlt : id < pass.model.nodes.size := Backend.lt_size_of_isDeclarable hd
  have hleaf : (pass.model.node id).element? = none := Backend.element?_of_isDeclarable hd
  refine Ensures.node_bind ?_
  refine (ensures_ask_question hfail (by decide) _ _).bind fun _ asked hasked => ?_
  have hproperty : ∀ (property : Property) (mid : Pass), mid.model = pass.model →
      (recorder.property 1 property).Ensures fails mid fun text after =>
        after.model = pass.model ∧ propertyText pass.model property = text :=
    fun property mid hmid => (ensures_property hfail property).imp fun text after h => by
      rwa [hmid] at h
  refine (Ensures.mapM hproperty _ hasked).bind fun lines mid hmid => ?_
  obtain ⟨hmid, hlines⟩ := hmid
  have hlines : (pass.model.node id).properties.map (propertyText pass.model) = lines := by
    rwa [← List.forall₂_eq_eq_eq, List.forall₂_map_left_iff]
  dsimp only
  split
  next hw =>
    refine Ensures.writeType_bind fun after hafter => ?_
    rw [hmid] at hafter ⊢
    have hitem := isItem_writeType hw hset hlt hleaf
    rw [← hafter, hlines] at hitem
    cases hfound : (pass.model.writeType id).1 with
    | none =>
      rw [hfound] at hitem
      exact Ensures.pure ⟨Or.inr hafter, hitem⟩
    | some write =>
      rw [hfound] at hitem
      exact Ensures.node_bind (Ensures.pure ⟨Or.inr hafter, hitem⟩)
  next hw =>
    refine Ensures.pure ⟨Or.inl hmid, ?_, fun hc => absurd hc hw⟩
    rw [typeText, writeLines, if_neg hw, hmid, hlines]
    rfl

/-- How the recording backend renders types. -/
lemma rendersTypes : recorder.backend.RendersTypes fails recorder.IsItem where
  type _ _ hset hd := ensures_type hfail hset hd
  item _ _ _ _ hold hnew he hd h := h.of_extends hold hnew he
    (Backend.lt_size_of_isDeclarable hd) (Backend.element?_of_isDeclarable hd)

end Rendering

end Recorder

/-! ## The file of types -/

namespace Model.Reachable

/-- The file of types of the recording backend, in a pass whose model can be reached and whose
declared schemas have names. If the backend is told to fail at no question, the file is made. Two
rounds or more look at all types, and give the same. The model afterwards comes from derivations.
The items are one of each declared schema, of each write type, and of each request type if the
backend takes requests, in the order of their names, and the head of the file counts them by
kind. -/
theorem recorded_types (recorder : Recorder) (pass : Pass) (hfail : recorder.fail = "")
    (h : pass.model.Reachable)
    (hnamed : ∀ id : TypeId, (pass.model.node id).kind = .component →
      pass.model.nameOf id ≠ "") :
    ∃ (items : List (String × String)) (walked : Declarations) (mid final : Pass),
      recorder.backend.modelsFile.run.run pass =
        (.ok (assemble (recorder.frameOf "models_prologue")
          (recorder.backend.comment 0
            ((recorder.backend.tallyAll final.model).header items.length))
          (items.map Prod.snd) (recorder.frameOf "models_epilogue")), final) ∧
      (∀ rounds : Nat, 2 ≤ rounds → (recorder.backend.declareRounds rounds {}).run.run
        { pass with file := .models, counts := ∅ } = (.ok walked, mid)) ∧
      mid.model = final.model ∧
      (∀ id < final.model.nodes.size, id ∈ walked.visited) ∧
      pass.model.DerivesTo final.model ∧
      items.Perm (((List.range final.model.nodes.size).filter fun id =>
          recorder.backend.Declares (final.model.node id).kind).map fun id =>
        (final.model.nameOf id, recorder.typeText final.model id)) ∧
      items.Pairwise (fun first second => first.1 < second.1) ∧
      items.length = (recorder.backend.tallyAll final.model).spec +
        (recorder.backend.tallyAll final.model).request +
          (recorder.backend.tallyAll final.model).write := by
  have hrenders : recorder.backend.RendersTypes False recorder.IsItem :=
    Recorder.rendersTypes hfail
  have hname : pass.model.IsNamed := h.isNamed hnamed
  have hfile := hrenders.modelsFile h.settled (Or.inr hname)
    (fun _ => Recorder.ensures_frameText hfail (by decide))
    fun _ => Recorder.ensures_frameText hfail (by decide)
  obtain ⟨text, final, hrun, walked, mid, hdeclarations, hmid, hwalked, head, ending, rfl, rfl,
    rfl⟩ := hfile.exists_ok
  have hlists := hwalked.lists
  have hwf : final.model.WellFormed := hwalked.settled.toWellFormed
  have hstart : ({ pass with file := .models, counts := ∅ } : Pass).model.Settled := h.settled
  obtain ⟨first, after, -, hrounds⟩ := hrenders.exists_declareRounds hstart hname
  have hsame : (Except.ok walked, mid) = ((Except.ok first, after) : Except Failure _ × Pass) :=
    hdeclarations.symm.trans (hrounds _ (Nat.le_add_left 2 _))
  obtain ⟨hok, rfl⟩ := Prod.mk.inj hsame
  obtain rfl := Except.ok.inj hok
  have hperm := hlists.perm hwf fun _ _ hitem => hitem.text_eq
  refine ⟨walked.rendered.toList, walked, mid, final, hrun, hrounds, hmid, hwalked.mem_visited,
    hwalked.derivesTo, hperm, hlists.ordered, ?_⟩
  rw [hperm.length_eq, List.length_map, Backend.length_filter_declares, Backend.tallyAll]

/-- A recording backend that takes requests and derives write types. -/
def sampleRecorder : Recorder where
  requests := true
  write := true

/-- In the sample model the file of types of such a backend is made. It has one item each of the
request type and of the write type that the model begins with. -/
theorem recorded_types_sample : ∃ (items : List (String × String)) (text : String) (final : Pass),
    sampleRecorder.backend.modelsFile.run.run ⟨sampleModel, "4.0", "sample", .methods, ∅, #[]⟩ =
      (.ok text, final) ∧
    items.Pairwise (fun first second => first.1 < second.1) ∧
    (final.model.nameOf 25, sampleRecorder.typeText final.model 25) ∈ items ∧
    (final.model.nameOf 26, sampleRecorder.typeText final.model 26) ∈ items := by
  obtain ⟨⟨-, hnamed, -⟩, -, ⟨hrequest, -⟩, ⟨hwrite, -⟩⟩ := sampleModel_nodes
  obtain ⟨items, walked, mid, final, hrun, -, -, -, hderives, hperm, hordered, -⟩ :=
    recorded_types sampleRecorder ⟨sampleModel, "4.0", "sample", .methods, ∅, #[]⟩ rfl
      reachable_sampleModel fun id hk =>
        hnamed id (lt_size_of_kind_ne (by rw [hk]; exact TypeKind.noConfusion)) hk
  have he : sampleModel.Extends sampleModel.nodes.size final.model :=
    reachable_sampleModel.settled.extends_of_derivesTo hderives
  have hmem : ∀ id : TypeId, (sampleModel.node id).kind.IsDerived →
      (final.model.nameOf id, sampleRecorder.typeText final.model id) ∈ items := by
    intro id hd
    have hlt : id < sampleModel.nodes.size := lt_size_of_isDerived hd
    have hdeclares : sampleRecorder.backend.Declares (final.model.node id).kind := by
      rw [he.kind_eq hlt]
      cases hk : (sampleModel.node id).kind with
      | request _ => rfl
      | write _ => trivial
      | _ => rw [hk] at hd; exact hd.elim
    refine hperm.mem_iff.mpr (List.mem_map.mpr ⟨id, List.mem_filter.mpr ⟨?_, ?_⟩, rfl⟩)
    · exact List.mem_range.mpr (Nat.lt_of_lt_of_le hlt he.size_le)
    · exact decide_eq_true hdeclares
  exact ⟨items, _, final, hrun, hordered, hmem 25 (by rw [hrequest]; trivial),
    hmem 26 (by rw [hwrite]; trivial)⟩

end Model.Reachable

end ClientGen
