import ClientGen.Proofs.Generation.Imports

/-!
# Rendering again

What has been rendered once can be rendered again in any model that the pass has gone on to. The
text is the same, and the file refers to the same names. Types that were derived the first time are
found the second time, so the model grows by containers at most.

## Main definitions

* `ClientGen.Pass.Matches` — that two passes render the same file and refer to the same names.
* `ClientGen.Rendering.Repeats` — that rendering gives the same again.

## Main results

* `ClientGen.Rendering.Repeats.bind`, `ClientGen.Rendering.Repeats.mapM` — programs that are made of
  others repeat if those do.
* `ClientGen.Rendering.Repeats.of_results` — what asks for types repeats if its outcome stays in
  later models.
* `ClientGen.Python.repeats_method`, `ClientGen.TypeScript.repeats_call` — the methods of a model
  repeat.
-/

set_option autoImplicit false

namespace ClientGen

open Rendering

/-! ## Two passes -/

/-- Two passes over models that can be reached render the same kind of file of the same package, and
refer to the same names. -/
structure Pass.Matches (first second : Pass) : Prop where
  first_sound : first.Sound
  second_sound : second.Sound
  file_eq : second.file = first.file
  apiVersion_eq : second.apiVersion = first.apiVersion
  packageName_eq : second.packageName = first.packageName
  refersTo_iff : ∀ name, second.RefersTo name ↔ first.RefersTo name

namespace Pass.Matches

variable {first second : Pass}

/-- Going on to another file keeps passes alike. -/
lemma beginFile (h : first.Matches second) (file : FileKind) :
    Pass.Matches { first with file, counts := ∅ } { second with file, counts := ∅ } where
  first_sound := h.first_sound.beginFile file
  second_sound := h.second_sound.beginFile file
  file_eq := rfl
  apiVersion_eq := h.apiVersion_eq
  packageName_eq := h.packageName_eq
  refersTo_iff _ := iff_of_false (not_refersTo_beginFile file) (not_refersTo_beginFile file)

/-- The head of a file is filled in the same in passes over one document. -/
lemma banner_eq (h : first.Matches second)
    (hdocument : second.model.document = first.model.document) : second.banner = first.banner := by
  rw [Pass.banner, Pass.banner, hdocument, h.apiVersion_eq, h.packageName_eq,
    referencedNames_congr h.refersTo_iff]

end Pass.Matches

namespace Rendering

/-! ## Programs that repeat -/

variable {α β : Type} {start : Model} {rendering first : Rendering α} {next : α → Rendering β}
  {pass after : Pass}

/-- What a program that is made of two ends with is what the second one ends with. -/
lemma exists_of_run_bind {result : β}
    (h : (first >>= next).run.run pass = (.ok result, after)) :
    ∃ value mid, first.run.run pass = (.ok value, mid) ∧
      (next value).run.run mid = (.ok result, after) := by
  rw [ExceptT.run_bind, StateT.run_bind] at h
  rcases hr : first.run.run pass with ⟨error | value, mid⟩ <;> rw [hr] at h
  · have herror : (Except.error error, mid) = (Except.ok result, after) := h
    simp at herror
  · exact ⟨value, mid, rfl, h⟩

/-- Two programs one after the other, where the first one ends with a value. -/
lemma run_bind_of_ok {value : α} {mid : Pass} (h : first.run.run pass = (.ok value, mid)) :
    (first >>= next).run.run pass = (next value).run.run mid := by
  rw [ExceptT.run_bind, StateT.run_bind, h]
  rfl

/-- Rendering derives types only. Once it has ended with a value in a model that extends the given
one, it ends with the same value in each extension of the model afterwards, and looks up containers
at most. -/
structure Repeats (start : Model) (rendering : Rendering α) : Prop where
  derives : rendering.Advances Model.DerivesTo
  again : ∀ {first second mid : Pass} {value : α},
    start.Extends start.nodes.size first.model → first.Matches second →
      rendering.run.run first = (.ok value, mid) →
        mid.model.Extends mid.model.nodes.size second.model →
          ∃ last, rendering.run.run second = (.ok value, last) ∧ mid.Matches last ∧
            second.model.GrowsTo last.model

namespace Repeats

/-- A value is the same again. -/
lemma pure (value : α) : Repeats start (Pure.pure value : Rendering α) where
  derives := .pure value
  again _ hmatch hrun _ := by
    obtain ⟨hvalue, rfl⟩ := Prod.mk.inj hrun
    exact ⟨_, congrArg (·, _) hvalue, hmatch, .refl⟩

/-- A failure ends with no value. -/
lemma throw (failure : Failure) :
    Repeats start (MonadExcept.throw failure : Rendering α) where
  derives := .throw failure
  again _ _ hrun _ := by
    have herror : Except.error failure = Except.ok _ := congrArg Prod.fst hrun
    simp at herror

/-- One thing after another repeats if both do.

**Proof sketch.** The second time starts in an extension of the model that there was in the end, so
it starts in one of the model that there was in between. The first part looks up containers at most,
and so the second part starts in an extension of the model that there was in the end, too. -/
lemma bind (hfirst : Repeats start first) (hnext : ∀ value, Repeats start (next value)) :
    Repeats start (first >>= next) where
  derives := hfirst.derives.bind fun value => (hnext value).derives
  again {pass second final result} hstart hmatch hrun he := by
    obtain ⟨value, mid, hmid, hfinal⟩ := exists_of_run_bind hrun
    have hdMid : pass.model.DerivesTo mid.model := by
      have hd := hfirst.derives pass
      rwa [hmid] at hd
    have hdFinal : mid.model.DerivesTo final.model := by
      have hd := (hnext value).derives mid
      rwa [hfinal] at hd
    have hsettled := hmatch.first_sound.settled
    have heMid := hsettled.extends_of_derivesTo hdMid
    have heFinal := (hsettled.derivesTo hdMid).extends_of_derivesTo hdFinal
    obtain ⟨last, hlast, hmatchMid, hgrows⟩ :=
      hfirst.again hstart hmatch hmid (heFinal.trans (he.mono heFinal.size_le))
    obtain ⟨end', hend, hmatchEnd, hgrows'⟩ :=
      (hnext value).again (hstart.trans (heMid.mono hstart.size_le)) hmatchMid hfinal
        (he.trans (hgrows.toExtends he.size_le))
    exact ⟨end', (run_bind_of_ok hlast).trans hend, hmatchEnd, hgrows.trans hgrows'⟩

/-- What is made of a value repeats. -/
lemma map (h : Repeats start rendering) (f : α → β) : Repeats start (f <$> rendering) := by
  rw [← bind_pure_comp]
  exact h.bind fun value => .pure (f value)

/-- Rendering the items of a list repeats if rendering each of them does. -/
lemma mapM {render : α → Rendering β} :
    ∀ items : List α, (∀ item ∈ items, Repeats start (render item)) →
      Repeats start (items.mapM render)
  | [], _ => .pure []
  | item :: rest, h => by
    rw [List.mapM_cons]
    have hrest := mapM rest fun item hitem => h item (List.mem_cons_of_mem _ hitem)
    exact (h item List.mem_cons_self).bind fun _ => hrest.bind fun _ => .pure _

/-- Going through the items of a list repeats if each step does. -/
lemma foldlM {step : β → α → Rendering β} :
    ∀ (items : List α) (value : β), (∀ item ∈ items, ∀ value, Repeats start (step value item)) →
      Repeats start (items.foldlM step value)
  | [], value, _ => .pure value
  | item :: rest, value, h => by
    rw [List.foldlM_cons]
    exact (h item List.mem_cons_self value).bind fun value =>
      foldlM rest value fun item hitem => h item (List.mem_cons_of_mem _ hitem)

/-! ### What a backend asks -/

/-- Going on to another file repeats. -/
lemma beginFile (file : FileKind) : Repeats start (Rendering.beginFile file) where
  derives := .beginFile file
  again _ hmatch hrun _ := by
    obtain ⟨-, rfl⟩ := Prod.mk.inj hrun
    exact ⟨_, rfl, hmatch.beginFile file, .refl⟩

/-- The head of a file repeats. -/
lemma fileHead (head : Banner → String) : Repeats start (ClientGen.fileHead head) where
  derives := .fileHead head
  again {first second mid value} _ hmatch hrun he := by
    obtain ⟨hvalue, rfl⟩ := Prod.mk.inj hrun
    refine ⟨second, ?_, hmatch, .refl⟩
    rw [← hvalue, ← hmatch.banner_eq he.document_eq]
    rfl

/-- What depends on the methods of the pass repeats if it does for the methods to begin with. -/
lemma methods_bind {next : List Method → Rendering β}
    (hd : ∀ methods, (next methods).Advances Model.DerivesTo)
    (h : Repeats start (next start.methods.values)) :
    Repeats start (MonadState.get >>= fun pass : Pass => next pass.model.methods.values) where
  derives := Advances.get.bind fun _ => hd _
  again {first second mid value} hstart hmatch hrun he := by
    rw [run_get_bind, hstart.methods_eq] at hrun
    have hderives : first.model.DerivesTo mid.model := by
      have := h.derives first
      rwa [hrun] at this
    have hmethods : second.model.methods = start.methods := by
      rw [he.methods_eq, (hmatch.first_sound.settled.extends_of_derivesTo hderives).methods_eq,
        hstart.methods_eq]
    rw [run_get_bind, hmethods]
    exact h.again hstart hmatch hrun he

/-- What depends on a type, but not on what refers to what, repeats if it does for the type to begin
with. -/
lemma node_bind {id : Nat} {next : TypeNode → Rendering β} (hid : id < start.nodes.size)
    (hcongr : ∀ node, next node = next { node with methodRefs := ∅, customTypes := ∅ })
    (hd : ∀ node, (next node).Advances Model.DerivesTo)
    (h : Repeats start (next (start.node id))) : Repeats start (Rendering.node id >>= next) where
  derives := (Advances.node id).bind hd
  again {first second mid value} hstart hmatch hrun he := by
    have hnode : ∀ new : Model, start.Extends start.nodes.size new →
        next (new.node id) = next (start.node id) := fun new hext => by
      have hbare := hext.bare_eq id hid
      have hproperties := hext.properties_eq id hid
      rw [hcongr, hcongr (start.node id)]
      congr 1
      generalize new.node id = node at hbare hproperties
      generalize start.node id = node' at hbare hproperties
      cases node
      cases node'
      simp_all [TypeNode.bare]
    have hrun' : (next (first.model.node id)).run.run first = (.ok value, mid) := hrun
    rw [hnode first.model hstart] at hrun'
    have hderives : first.model.DerivesTo mid.model := by
      have := h.derives first
      rwa [hrun'] at this
    have hfirst := hmatch.first_sound.settled.extends_of_derivesTo hderives
    have hsecond := hstart.trans ((hfirst.trans (he.mono hfirst.size_le)).mono hstart.size_le)
    show ∃ last, (next (second.model.node id)).run.run second = _ ∧ _
    rw [hnode second.model hsecond]
    exact h.again hstart hmatch hrun' he

/-- A type that has a name has one again. -/
lemma ensureNamed (node : TypeNode) : Repeats start (Rendering.ensureNamed node) := by
  unfold Rendering.ensureNamed
  split
  · exact .throw _
  · exact .pure _

/-- What asks for types repeats if its outcome, the names that it refers to and the model afterwards
are functions of the model, such that in later models the outcome and the names stay, and nothing
but containers is looked up. -/
theorem of_results (outcome : FileKind → Model → Except Failure α) (final : Model → Model)
    (names : Model → String → Prop) (hd : rendering.Advances Model.DerivesTo)
    (hresults : ∀ pass : Pass, pass.Sound → start.nodes.size ≤ pass.model.nodes.size →
      rendering.Results pass (outcome pass.file pass.model) (final pass.model) (names pass.model))
    (hlater : ∀ old later : Model, old.Settled → start.nodes.size ≤ old.nodes.size →
      later.Settled → (final old).Extends (final old).nodes.size later →
        later.GrowsTo (final later) ∧ (∀ file, outcome file later = outcome file old) ∧
          ∀ name, names later name ↔ names old name) :
    Repeats start rendering where
  derives := hd
  again {first second mid value} hstart hmatch hrun he := by
    obtain ⟨counts, hfirst, hsound, hnames⟩ :=
      hresults first hmatch.first_sound hstart.size_le
    rw [hfirst] at hrun
    obtain ⟨hvalue, rfl⟩ := Prod.mk.inj hrun
    obtain ⟨hgrows, houtcome, hstay⟩ := hlater first.model second.model hmatch.first_sound.settled
      hstart.size_le hmatch.second_sound.settled he
    have hsize : start.nodes.size ≤ second.model.nodes.size := by
      have hderives := hd first
      rw [hfirst] at hderives
      have hext := hmatch.first_sound.settled.extends_of_derivesTo hderives
      exact Nat.le_trans hstart.size_le (Nat.le_trans hext.size_le he.size_le)
    obtain ⟨counts', hsecond, hsound', hnames'⟩ := hresults second hmatch.second_sound hsize
    refine ⟨_, ?_, ⟨hsound, hsound', hmatch.file_eq, hmatch.apiVersion_eq, hmatch.packageName_eq,
      fun name => ?_⟩, hgrows⟩
    · rw [hsecond, hmatch.file_eq, houtcome, hvalue]
    · rw [hnames, hnames', hmatch.refersTo_iff, hstay]

/-- Spelling a type repeats. -/
lemma spell (spellings : TypeSpellings) {id : Nat} (hid : id < start.nodes.size) :
    Repeats start (spellings.spell id) := by
  refine of_results (fun file model => spellings.spelled file model id) (fun model => model)
    (fun model name => model.customName? id = some name) (.spell spellings id)
    (fun pass h hle => results_spell spellings h (by omega)) ?_
  intro old later hold hle hlater he
  have hlt : id < old.nodes.size := by omega
  refine ⟨.refl, fun file => ?_, fun name => ?_⟩
  · exact spellings.spelled_of_extends file he hold.toWellFormed hlt
      (he.unwrap_eq hold.toWellFormed hlater.toWellFormed hlt)
  · rw [he.customName?_eq hold.toWellFormed hlater.toWellFormed hlt]

/-- Looking for the type that a parameter is sent as and spelling it repeats. -/
lemma spellSent (spellings : TypeSpellings) {parameter : Parameter}
    (hp : parameter.type < start.nodes.size) :
    Repeats start (Rendering.sentType parameter >>= spellings.spell) := by
  refine of_results
    (fun file model =>
      spellings.spelled file (model.sent parameter).2 (model.sent parameter).1)
    (fun model => (model.sent parameter).2)
    (fun model name =>
      (model.sent parameter).2.customName? (model.sent parameter).1 = some name)
    ((Advances.sentType (fun id _ => Model.DerivesTo.refl.writeType id) parameter).bind
      fun _ => .spell spellings _)
    (fun pass h hle => results_spellSent spellings h (Nat.lt_of_lt_of_le hp hle)) ?_
  intro old later hold hle hlater he
  have hlt : parameter.type < old.nodes.size := Nat.lt_of_lt_of_le hp hle
  have hsent := (hold.derivesTo (old.derivesTo_sent parameter)).toWellFormed
  obtain ⟨hgrows, hun⟩ := hold.sent_later hlt hlater he
  have hlast := he.trans (hgrows.toExtends he.size_le)
  refine ⟨hgrows, fun file => ?_, fun name => ?_⟩
  · exact spellings.spelled_of_extends file hlast hsent (hold.fst_sent_lt hlt) hun
  · rw [hlast.customName?_eq_of_innermost hsent (hold.fst_sent_lt hlt) (congrArg Prod.snd hun)]

/-- Asking for the name of a request type repeats. -/
lemma requestName (method : Method) : Repeats start (ClientGen.requestName true method) := by
  refine of_results (fun _ model => .ok (model.requestNameOf method))
    (fun model => (model.requestType method.operationId).2)
    (fun model name => Model.derivedName? (model.requestType method.operationId) = some name)
    (Advances.requestName (fun operationId _ => Model.DerivesTo.refl.requestType operationId) true
      method)
    (fun pass h _ => results_requestName h method) ?_
  intro old later hold _ hlater he
  have hagain := hold.requestType_later hlater he
  have hmid := (hold.derivesTo (.requestType method.operationId .refl)).toWellFormed
  rw [Model.requestNameOf, Model.requestNameOf, hagain]
  cases hr : (old.requestType method.operationId).1 with
  | none =>
    refine ⟨.refl, fun _ => rfl, fun name => ?_⟩
    simp [Model.derivedName?, hr]
  | some request =>
    have hlt := Model.lt_size_of_isDerived (hold.isDerived_requestType (Prod.ext hr rfl)).1
    refine ⟨.refl, fun _ => ?_, fun name => ?_⟩
    · simp [he.nameOf_eq hlt]
    · simp [Model.derivedName?, hr, he.customName?_eq hmid hlater.toWellFormed hlt]

end Repeats

end Rendering

/-! ## The backends -/

namespace Python

variable {start : Model} {method : Method}

/-- A property as an attribute of its class repeats. -/
lemma repeats_property {level : Nat} {property : Property} (hp : property.type < start.nodes.size) :
    Repeats start (Python.property level property) :=
  ((Repeats.spell spellings hp).bind fun _ => .pure _).bind fun _ => .pure _

/-- A type as a class repeats. -/
lemma repeats_type (h : start.WellFormed) {id : Nat} (hid : id < start.nodes.size) (level : Nat) :
    Repeats start (Python.type level id) := by
  refine Repeats.node_bind hid (fun _ => rfl) (fun node => ?_)
    ((Repeats.ensureNamed _).bind fun _ => (Repeats.mapM _ fun p hp => repeats_property ?_).bind
      fun _ => .pure _)
  · exact (Advances.ensureNamed node).bind fun _ =>
      (Advances.mapM (advances_property (level + 1)) _).bind fun _ => .pure _
  · refine h.property_lt id p ?_
    rcases List.mem_append.mp hp with hp | hp
    · exact List.mem_of_mem_filter hp
    · exact List.mem_of_mem_filter hp

/-- The argument for a parameter is made of the type that it is sent as, spelled. -/
lemma argumentOf_eq (parameter : Parameter) : argumentOf parameter =
    (sentType parameter >>= spellings.spell) >>= fun spelling => pure {
      name := safeName parameter.name
      type := spelling.name
      nullable := !parameter.required
      optional := !parameter.required } := by
  rw [bind_assoc]
  rfl

/-- The argument for a parameter repeats. -/
lemma repeats_argumentOf {parameter : Parameter} (hp : parameter.type < start.nodes.size) :
    Repeats start (argumentOf parameter) := by
  rw [argumentOf_eq]
  exact (Repeats.spellSent spellings hp).bind fun _ => .pure _

/-- The type of the value that a call returns repeats. -/
lemma repeats_returns (h : method.TypesBelow start.nodes.size) :
    Repeats start (returns method) := by
  have hspell : Repeats start (spellings.spell method.returnType) :=
    .spell spellings h.returnType_lt
  unfold returns
  split_ifs
  · exact hspell.bind fun _ => .pure _
  · exact .pure _
  · exact hspell.bind fun _ => .pure _

/-- A method as a member of a class repeats. -/
theorem repeats_method (h : method.TypesBelow start.nodes.size) (level : Nat) :
    Repeats start (Python.method level method) :=
  ((repeats_returns h).bind fun _ =>
    (Repeats.mapM _ fun p hp => repeats_argumentOf (h.allParameter_lt p hp)).bind
      fun _ => .pure _).bind fun _ => .pure _

end Python

namespace TypeScript

variable {start : Model} {method : Method}

/-- A property as a member of its interface repeats. -/
lemma repeats_property {level : Nat} {property : Property} (hp : property.type < start.nodes.size) :
    Repeats start (TypeScript.property level property) :=
  (Repeats.spell spellings hp).bind fun _ => .pure _

/-- A type as an interface repeats. -/
lemma repeats_type (h : start.WellFormed) {id : Nat} (hid : id < start.nodes.size) (level : Nat) :
    Repeats start (TypeScript.type level id) := by
  refine Repeats.node_bind hid (fun _ => rfl) (fun node => ?_)
    ((Repeats.ensureNamed _).bind fun _ => (Repeats.mapM _ fun p hp => repeats_property
      (h.property_lt id p hp)).bind fun _ => .pure _)
  exact (Advances.ensureNamed node).bind fun _ =>
    (Advances.mapM (fun _ => (Advances.spell spellings _).bind fun _ => .pure _) _).bind
      fun _ => .pure _

/-- The argument for a parameter repeats. -/
lemma repeats_argumentOf {parameter : Parameter} (hp : parameter.type < start.nodes.size) :
    Repeats start (argumentOf parameter) := by
  rw [argumentOf_eq]
  exact (Repeats.spellSent spellings hp).bind fun _ => .pure _

/-- The arguments for the parameters of a method repeat. -/
lemma repeats_arguments (h : method.TypesBelow start.nodes.size) (request : String) :
    Repeats start (arguments request method) := by
  unfold arguments
  split_ifs
  · exact Repeats.mapM _ fun p hp => repeats_argumentOf (h.allParameter_lt p hp)
  · exact .pure _

/-- A method with its parts repeats. -/
theorem repeats_call (h : method.TypesBelow start.nodes.size) : Repeats start (call method) :=
  (Repeats.requestName method).bind fun request => (repeats_arguments h request).bind fun _ =>
    (Repeats.spell spellings h.returnType_lt).bind fun _ =>
      (Repeats.mapM _ fun r hr => Repeats.spell spellings (h.error_lt r hr)).bind fun _ => .pure _

end TypeScript

end ClientGen
