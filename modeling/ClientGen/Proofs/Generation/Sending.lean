import ClientGen.Proofs.CrossReferences
import ClientGen.Proofs.Generation.Referring

/-!
# Types that are derived for a method

A method is written with its request type, if it has one, and otherwise with the types that its
parameters are sent as. Both are derived when they are asked for. Asked for again in any later
model, the request type is the same and leaves that model as it is. The type that a parameter is
sent as may be another container then, since a container whose name is taken is made anew, but it
has the same type in the same containers.

## Main definitions

* `ClientGen.Model.sent` — the type that a parameter is sent as.
* `ClientGen.Model.derivedName?` — the name that a reference to a derived type is one to.

## Main results

* `ClientGen.Model.Settled.requestType_later`, `ClientGen.Model.Settled.sent_later` — what is
  derived in a later model.
* `ClientGen.Rendering.results_spellSent`, `ClientGen.Rendering.results_requestName` — what asking
  for derived types does.
-/

set_option autoImplicit false

namespace ClientGen

/-! ## Derivations in a later model -/

namespace Model

variable {limit : Nat} {model old later : Model} {id first second : Nat} {operationId : String}
  {method : Method} {parameter : Parameter}

/-- The name that a reference to a derived type is one to, in the model with that type. -/
def derivedName? (derivation : Derivation) : Option String :=
  derivation.1.bind derivation.2.customName?

/-- What is sent in place of a type are the same containers around the same type. -/
lemma IsResent.unwrap_eq (h₁ : model.IsResent id first) (h₂ : model.IsResent id second) :
    model.unwrap first = model.unwrap second := by
  by_cases hw : model.HasWriteType (model.innermost id)
  · obtain ⟨write, hk, hun⟩ := h₁.wrapped hw
    obtain ⟨write', hk', hun'⟩ := h₂.wrapped hw
    rw [hk] at hk'
    obtain rfl := Option.some.inj hk'
    rw [hun, hun']
  · rw [h₁.same hw, h₂.same hw]

namespace Settled

/-- If the write type of the type inside is there, asking for the write type of a type only looks up
containers. -/
lemma growsTo_writeType (h : model.Settled)
    (hthere : model.HasWriteType (model.innermost id) →
      ∃ write, model.derived[model.writeKey (model.innermost id)]? = some write) :
    model.GrowsTo (Model.writeType id model).2 := by
  by_cases hw : model.HasWriteType (model.innermost id)
  · obtain ⟨write, hk⟩ := hthere hw
    rw [Model.writeType, writeTypeWithin, writeAround]
    dsimp only
    rw [show (model.unwrap id).2 = model.innermost id from rfl, writeCore_of_recorded hw hk]
    exact (wrap_spec h.toWellFormed (h.derived_lt _ write hk) (model.unwrap id).1).1
  · rw [writeType_of_not hw]
    exact .refl

/-- The write type of a type in a later model: only containers are looked up, and the type that is
sent in place of the type is in the same containers.

**Proof sketch.** After the write type has been derived, the type is sent as that, which stays so
in the later model. There the write type of the type inside is found, so that nothing but containers
is made, and what is found is sent in place of the type, too. -/
theorem writeType_later (h : old.Settled) (hid : id < old.nodes.size) (hlater : later.Settled)
    (he : (Model.writeType id old).2.Extends (Model.writeType id old).2.nodes.size later) :
    later.GrowsTo (Model.writeType id later).2 ∧
      (Model.writeType id later).2.unwrap ((Model.writeType id later).1.getD id) =
        (Model.writeType id old).2.unwrap ((Model.writeType id old).1.getD id) := by
  have hmid := Model.writeType_spec h hid
  generalize Model.writeType id old = derivation at he hmid
  obtain ⟨write, mid⟩ := derivation
  have hsettled : mid.Settled := hmid.coherent.settled
  have hidMid : id < mid.nodes.size := Nat.lt_of_lt_of_le hid hmid.toExtends.size_le
  have hidLater : id < later.nodes.size := Nat.lt_of_lt_of_le hidMid he.size_le
  have hresent : later.IsResent id (write.getD id) :=
    hmid.isResent.of_extends hsettled.toClosedBelow he hlater.toWellFormed hidMid hmid.lt_size
  have hlast := Model.writeType_spec hlater hidLater
  refine ⟨hlater.growsTo_writeType fun hw => ?_, ?_⟩
  · obtain ⟨found, hk, -⟩ := hresent.wrapped hw
    exact ⟨found, hk⟩
  · have hlt : write.getD id < later.nodes.size := Nat.lt_of_lt_of_le hmid.lt_size he.size_le
    have hsame := hresent.of_extends hlater.toClosedBelow hlast.toExtends
      hlast.coherent.toWellFormed hidLater hlt
    rw [hlast.isResent.unwrap_eq hsame, hlast.toExtends.unwrap_eq hlater.toWellFormed
      hlast.coherent.toWellFormed hlt, he.unwrap_eq hsettled.toWellFormed hlater.toWellFormed
      hmid.lt_size]

/-- The request type of a method in a later model is the same, and leaves that model as it is.

**Proof sketch.** The shape of the parameters is the same in the later model. If it led to a type
before, it still does. Otherwise the request type was made for that method, and is found by it. -/
theorem requestType_later (h : old.Settled) (hlater : later.Settled)
    (he : (Model.requestType operationId old).2.Extends
      (Model.requestType operationId old).2.nodes.size later) :
    Model.requestType operationId later = ((Model.requestType operationId old).1, later) := by
  have hspec := (h.requestType_spec operationId).2
  have hmethods : later.methods = old.methods := he.methods_eq.trans hspec.methods_eq
  cases hm : old.methods[operationId]?.filter (·.mayUseRequest) with
  | none => rw [Model.requestType, Model.requestType, hmethods, hm]
  | some method =>
    obtain ⟨hfound, hmay⟩ := Option.filter_eq_some_iff.mp hm
    obtain rfl := h.operationId_eq operationId method hfound
    have hfound' : later.methods[method.operationId]? = some method := by rwa [hmethods]
    have ha := h.answers_requestType hfound hmay
    generalize Model.requestType method.operationId old = answer at ha he ⊢
    cases ha with
    | recorded hk =>
      have htypes : ∀ p ∈ requestProperties method, p.type < old.nodes.size :=
        fun p hp => (h.isOrigin_request hfound hmay).type_lt h.toClosedBelow hp
      refine requestType_of_recorded hfound' hmay ?_
      rw [he.shapeDigest_eq htypes]
      exact he.derived_le _ _ hk
    | @made new _ _ _ hkind =>
      have hlt : old.nodes.size < new.nodes.size :=
        lt_size_of_isDerived (by rw [hkind]; trivial)
      exact hlater.requestType_operationId ((he.kind_eq hlt).trans hkind) hfound'

end Settled

/-! ## What a parameter is sent as -/

/-- The type that a parameter is sent as, and the model with that type: a body is sent as its write
type, if it has one. -/
def sent (model : Model) (parameter : Parameter) : TypeId × Model :=
  if parameter.location = .body then
    ((model.writeType parameter.type).1.getD parameter.type, (model.writeType parameter.type).2)
  else (parameter.type, model)

/-- Looking for what a parameter is sent as derives types only. -/
lemma derivesTo_sent (model : Model) (parameter : Parameter) :
    model.DerivesTo (model.sent parameter).2 := by
  unfold sent
  split
  · exact DerivesTo.refl.writeType parameter.type
  · exact .refl

namespace Settled

/-- What a parameter is sent as is a type that is there. -/
lemma fst_sent_lt (h : model.Settled) (hp : parameter.type < model.nodes.size) :
    (model.sent parameter).1 < (model.sent parameter).2.nodes.size := by
  unfold sent
  split
  · exact (Model.writeType_spec h hp).lt_size
  · exact hp

/-- In a later model a parameter is sent as a type in the same containers, and only containers are
looked up for that. -/
theorem sent_later (h : old.Settled) (hp : parameter.type < old.nodes.size)
    (hlater : later.Settled)
    (he : (old.sent parameter).2.Extends (old.sent parameter).2.nodes.size later) :
    later.GrowsTo (later.sent parameter).2 ∧
      (later.sent parameter).2.unwrap (later.sent parameter).1 =
        (old.sent parameter).2.unwrap (old.sent parameter).1 := by
  unfold sent at he ⊢
  by_cases hbody : parameter.location = .body
  · rw [if_pos hbody] at he ⊢
    rw [if_pos hbody]
    exact h.writeType_later hp hlater he
  · rw [if_neg hbody] at he ⊢
    rw [if_neg hbody]
    exact ⟨.refl, he.unwrap_eq h.toWellFormed hlater.toWellFormed hp⟩

end Settled

/-- The name of the request type of a method, or the empty text if it has none. -/
def requestNameOf (model : Model) (method : Method) : String :=
  ((model.requestType method.operationId).1.map
    (model.requestType method.operationId).2.nameOf).getD ""

end Model

/-! ## Asking for derived types -/

namespace Rendering

variable {α β : Type} {first : Rendering α} {next : α → Rendering β} {pass : Pass} {value : α}
  {outcome : Except Failure α} {result : Except Failure β} {mid last : Model}
  {names more : String → Prop} {parameter : Parameter}

/-- One thing after another. -/
lemma Results.bind (hfirst : first.Results pass (.ok value) mid names)
    (hnext : ∀ counts, ({ pass with model := mid, counts } : Pass).Sound →
      (next value).Results { pass with model := mid, counts } result last more) :
    (first >>= next).Results pass result last fun name => names name ∨ more name := by
  obtain ⟨counts, hrun, hsound, hnames⟩ := hfirst
  obtain ⟨counts', hrun', hsound', hnames'⟩ := hnext counts hsound
  refine ⟨counts', ?_, hsound', fun name => ?_⟩
  · rw [ExceptT.run_bind, StateT.run_bind, hrun]
    exact hrun'
  · exact ((hnames' name).trans (or_congr_left (hnames name))).trans or_assoc

/-- What is made of a value. -/
lemma Results.map (h : first.Results pass outcome mid names) (f : α → β) :
    (first >>= fun value => Pure.pure (f value)).Results pass (outcome.map f) mid names := by
  obtain ⟨counts, hrun, hsound, hnames⟩ := h
  refine ⟨counts, ?_, hsound, hnames⟩
  rw [ExceptT.run_bind, StateT.run_bind, hrun]
  cases outcome <;> rfl

/-- References to the same names. -/
lemma Results.congr (h : first.Results pass outcome mid names)
    (hnames : ∀ name, names name ↔ more name) : first.Results pass outcome mid more := by
  obtain ⟨counts, hrun, hsound, hiff⟩ := h
  exact ⟨counts, hrun, hsound, fun name => (hiff name).trans (or_congr_right (hnames name))⟩

/-- Asking for a derived type ends with that, in a pass over the model with it that has counted a
reference to it. -/
lemma run_derived (derive : Model → Model.Derivation) (pass : Pass) :
    (Rendering.derived derive).run.run pass =
      (.ok (derive pass.model).1,
        ({ pass with model := (derive pass.model).2 } : Pass).countReferences
          (derive pass.model).1.toList) := by
  rw [Rendering.derived, run_get_bind]
  rcases derive pass.model with ⟨none | id, model⟩ <;> rfl

/-- What asking for a derived type does: it refers to the name of that type, if there is one. -/
lemma results_derived {derive : Model → Model.Derivation} (h : pass.Sound)
    (hderives : pass.model.DerivesTo (derive pass.model).2)
    (hlt : ∀ id, (derive pass.model).1 = some id → id < (derive pass.model).2.nodes.size) :
    (Rendering.derived derive).Results pass (.ok (derive pass.model).1) (derive pass.model).2
      fun name => Model.derivedName? (derive pass.model) = some name := by
  have hrun := run_derived derive pass
  generalize derive pass.model = derivation at hderives hlt hrun ⊢
  obtain ⟨found, model⟩ := derivation
  obtain ⟨hsound, hnames⟩ := h.derivesTo hderives
  have hcounted := hsound.countReferences fun id hid => hlt id (Option.mem_toList.mp hid)
  have hrefers : ∀ name,
      (({ pass with model } : Pass).countReferences found.toList).RefersTo name ↔
        pass.RefersTo name ∨ Model.derivedName? (found, model) = some name := by
    intro name
    rw [Pass.refersTo_countReferences, hnames, Model.derivedName?, Option.bind_eq_some_iff]
    simp only [Option.mem_toList]
  rw [Pass.countReferences_eq] at hrun hcounted hrefers
  exact ⟨_, hrun, hcounted, hrefers⟩

/-- What asking for the name of a request type does. -/
theorem results_requestName (h : pass.Sound) (method : Method) :
    (ClientGen.requestName true method).Results pass (.ok (pass.model.requestNameOf method))
      (pass.model.requestType method.operationId).2
      fun name => Model.derivedName? (pass.model.requestType method.operationId) = some name := by
  have hlt : ∀ id, (pass.model.requestType method.operationId).1 = some id →
      id < (pass.model.requestType method.operationId).2.nodes.size :=
    fun id hid => Model.lt_size_of_isDerived (h.settled.isDerived_requestType (Prod.ext hid rfl)).1
  have hasked := results_derived h (.requestType method.operationId .refl) hlt
  obtain ⟨counts, hrun, hsound, hnames⟩ := hasked
  refine ⟨counts, ?_, hsound, hnames⟩
  show StateT.run (ExceptT.run (Rendering.derived (Model.requestType method.operationId) >>= _)) _ =
    _
  rw [ExceptT.run_bind, StateT.run_bind, hrun, Model.requestNameOf]
  cases (pass.model.requestType method.operationId).1 <;> rfl

/-- What looking for the type that a parameter is sent as and spelling it does: it refers to the
name of that type.

**Proof sketch.** If there is a write type, asking for it counts a reference to it, and spelling it
counts others to the same name. -/
theorem results_spellSent (spellings : TypeSpellings) (h : pass.Sound)
    (hp : parameter.type < pass.model.nodes.size) :
    (Rendering.sentType parameter >>= spellings.spell).Results pass
      (spellings.spelled pass.file (pass.model.sent parameter).2 (pass.model.sent parameter).1)
      (pass.model.sent parameter).2
      fun name => (pass.model.sent parameter).2.customName? (pass.model.sent parameter).1 =
        some name := by
  have hspec := Model.writeType_spec h.settled hp
  unfold Rendering.sentType Model.sent
  split
  · have hlt : ∀ id, (pass.model.writeType parameter.type).1 = some id →
        id < (pass.model.writeType parameter.type).2.nodes.size := fun id hid => by
      have hsize := hspec.lt_size
      rwa [hid] at hsize
    have hwritten := (results_derived h (.writeType parameter.type .refl) hlt).map
      fun write : Option TypeId => write.getD parameter.type
    refine (hwritten.bind fun counts hsound =>
      results_spell spellings hsound hspec.lt_size).congr fun name => or_iff_right_of_imp ?_
    intro hname
    obtain ⟨id, hid, hname⟩ := Option.bind_eq_some_iff.mp hname
    rw [hid]
    exact hname
  · exact results_spell spellings h hp

/-- Looking for the type that a parameter is sent as and spelling it ends with that type as it is
written, whatever has been counted before. -/
theorem run_spellSent (spellings : TypeSpellings) (h : pass.model.Settled) :
    ((Rendering.sentType parameter >>= spellings.spell).run.run pass).1 =
      spellings.spelled pass.file (pass.model.sent parameter).2 (pass.model.sent parameter).1 := by
  unfold Rendering.sentType Model.sent
  split
  · obtain ⟨counts, hrun⟩ : ∃ counts, (Rendering.derived (Model.writeType parameter.type)).run.run
        pass = (.ok (pass.model.writeType parameter.type).1,
          { pass with model := (pass.model.writeType parameter.type).2, counts }) :=
      ⟨_, by rw [run_derived, Pass.countReferences_eq]⟩
    have hwf : ({ pass with model := (pass.model.writeType parameter.type).2, counts } :
        Pass).model.WellFormed := (h.writeType parameter.type).toWellFormed
    obtain ⟨inner, hspell, -⟩ := run_spell spellings hwf
      ((pass.model.writeType parameter.type).1.getD parameter.type)
    rw [Rendering.writtenType, Rendering.writeType, bind_assoc, ExceptT.run_bind, StateT.run_bind,
      hrun]
    exact congrArg Prod.fst hspell
  · obtain ⟨inner, hrun, -⟩ := run_spell spellings h.toWellFormed parameter.type
    exact congrArg Prod.fst hrun

end Rendering

end ClientGen
