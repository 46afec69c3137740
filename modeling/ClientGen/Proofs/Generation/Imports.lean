import ClientGen.Proofs.Derivation.Kinds
import ClientGen.Proofs.Generation.Listing
import ClientGen.Proofs.Generation.Sending

/-!
# The imports of the files of methods

The head of a file for TypeScript imports the types that the file refers to. References are counted
while the methods are rendered, at every level of a container and whenever a type is derived. What
comes out of this is the same as if each method named what it uses: the type that it returns, the
types of its errors, and its request type, or the types that its parameters are sent as if it has
none. Types that an earlier file referred to do not count.

## Main definitions

* `ClientGen.Model.usedNames` — the names of the types that a method uses.
* `ClientGen.Pass.Refers` — that a pass goes on to refer to some names more.

## Main results

* `ClientGen.TypeScript.ensures_call` — a method refers to the names that it uses.
* `ClientGen.TypeScript.imports_exact` — a file of methods imports what its methods use.
-/

set_option autoImplicit false

namespace ClientGen

open Rendering

/-! ## What a method uses -/

namespace Model

/-- The names of the types that stand for the parameters of a method: that of its request type, if
it has one, and otherwise those of the types that the parameters are sent as. -/
def argumentNames (model : Model) (method : Method) : List String :=
  if (model.requestType method.operationId).1.isSome then
    (derivedName? (model.requestType method.operationId)).toList
  else method.allParameters.filterMap fun parameter =>
    (model.sent parameter).2.customName? (model.sent parameter).1

/-- The names of the types that a method uses: that of the type that it returns, those of the types
of its errors, and those that stand for its parameters. Built-in types have none, and a container
has that of the type inside it. -/
def usedNames (model : Model) (method : Method) : List String :=
  (method.returnType :: method.errorResponses.map (·.type)).filterMap model.customName? ++
    model.argumentNames method

/-- A method uses what stands for its parameters, the type that it returns, and the types of its
errors. -/
lemma mem_usedNames {model : Model} {method : Method} {name : String} :
    name ∈ model.usedNames method ↔ name ∈ model.argumentNames method ∨
      model.customName? method.returnType = some name ∨
      ∃ r ∈ method.errorResponses, model.customName? r.type = some name := by
  simp only [usedNames, List.mem_append, List.mem_filterMap, List.mem_cons, List.mem_map,
    exists_eq_or_imp, exists_exists_and_eq_and]
  exact or_comm

/-- A method is one of those of a model exactly if it is found under its identifier. -/
lemma WellFormed.mem_methods_iff {model : Model} {method : Method} (h : model.WellFormed) :
    method ∈ model.methods.values ↔ model.methods[method.operationId]? = some method := by
  rw [Backend.values_eq, List.mem_map]
  constructor
  · rintro ⟨⟨operationId, found⟩, hmem, rfl⟩
    have hfound := Std.TreeMap.mem_toList_iff_getElem?_eq_some.mp hmem
    rwa [h.operationId_eq operationId found hfound]
  · intro hm
    exact ⟨_, Std.TreeMap.mem_toList_iff_getElem?_eq_some.mpr hm, rfl⟩

end Model

/-- Leaving out repeated types leaves some of the responses. -/
lemma Method.mem_of_mem_distinctTypes {response : Response} :
    ∀ {responses : List Response} {seen : List TypeId},
      response ∈ distinctTypes seen responses → response ∈ responses
  | first :: rest, seen, h => by
    rw [distinctTypes] at h
    split at h
    · exact List.mem_cons_of_mem _ (mem_of_mem_distinctTypes h)
    · rcases List.mem_cons.mp h with rfl | h
      · exact List.mem_cons_self
      · exact List.mem_cons_of_mem _ (mem_of_mem_distinctTypes h)

/-- The types of a method are types of the model. -/
structure Method.TypesBelow (limit : Nat) (method : Method) : Prop where
  parameter_lt : ∀ p ∈ method.parameters, p.type < limit
  response_lt : ∀ r ∈ method.responses, r.type < limit

namespace Method.TypesBelow

variable {limit : Nat} {method : Method} (h : method.TypesBelow limit)

include h

/-- A greater limit. -/
lemma mono {more : Nat} (hle : limit ≤ more) : method.TypesBelow more :=
  ⟨fun p hp => Nat.lt_of_lt_of_le (h.parameter_lt p hp) hle,
    fun r hr => Nat.lt_of_lt_of_le (h.response_lt r hr) hle⟩

/-- The type that a method returns. -/
lemma returnType_lt : method.returnType < limit := h.response_lt _ (List.getElem_mem _)

/-- The types of the errors of a method. -/
lemma error_lt : ∀ r ∈ method.errorResponses, r.type < limit :=
  fun r hr => h.response_lt r (List.mem_of_mem_filter (mem_of_mem_distinctTypes hr))

/-- The types of all parameters of a method, in the order in which they are listed. -/
lemma allParameter_lt : ∀ p ∈ method.allParameters, p.type < limit :=
  fun p hp => h.parameter_lt p (mem_allParameters.mp hp)

end Method.TypesBelow

/-- The methods of a well-formed model have types of the model. -/
lemma Model.WellFormed.typesBelow {model : Model} {method : Method} (h : model.WellFormed)
    (hm : method ∈ model.methods.values) : method.TypesBelow model.nodes.size where
  parameter_lt := h.parameter_lt _ method (h.mem_methods_iff.mp hm)
  response_lt := h.response_lt _ method (h.mem_methods_iff.mp hm)

/-! ## Going on to refer to names -/

/-- The second pass is one that the first one goes on to: it has derived types only, and refers to
what the first one referred to and to some names more. These are given as a function of the model,
and are the same in any model that the pass may go on to. -/
structure Pass.Refers (names : Model → String → Prop) (before after : Pass) : Prop where
  sound : after.Sound
  derivesTo : before.model.DerivesTo after.model
  refersTo_iff : ∀ later : Model, later.Settled →
    after.model.Extends after.model.nodes.size later →
      ∀ name, after.RefersTo name ↔ before.RefersTo name ∨ names later name

namespace Pass.Refers

variable {names more : Model → String → Prop} {before mid after : Pass}

/-- A pass that goes on to nothing refers to nothing more. -/
lemma refl (h : before.Sound) : before.Refers (fun _ _ => False) before :=
  ⟨h, .refl, fun _ _ _ _ => (or_iff_left id).symm⟩

/-- Going on twice refers to what is added each time. -/
lemma trans (h₁ : before.Refers names mid) (h₂ : mid.Refers more after) :
    before.Refers (fun later name => names later name ∨ more later name) after where
  sound := h₂.sound
  derivesTo := h₁.derivesTo.trans h₂.derivesTo
  refersTo_iff later hlater he name := by
    have hext := h₁.sound.settled.extends_of_derivesTo h₂.derivesTo
    rw [h₂.refersTo_iff later hlater he,
      h₁.refersTo_iff later hlater (hext.trans (he.mono hext.size_le)), or_assoc]

/-- The same names can be given in another way. -/
lemma congr (h : before.Refers names after)
    (hnames : ∀ later : Model, later.Settled →
      after.model.Extends after.model.nodes.size later →
        ∀ name, names later name ↔ more later name) : before.Refers more after where
  sound := h.sound
  derivesTo := h.derivesTo
  refersTo_iff later hlater he name :=
    (h.refersTo_iff later hlater he name).trans (or_congr_right (hnames later hlater he name))

/-- There are as many types at least as there were. -/
lemma size_le (h : before.Refers names after) (hbefore : before.Sound) :
    before.model.nodes.size ≤ after.model.nodes.size :=
  (hbefore.settled.extends_of_derivesTo h.derivesTo).size_le

end Pass.Refers

namespace Rendering

variable {α β : Type} {pass : Pass} {limit : Nat} {parameter : Parameter}

/-- What rendering results in, if it derives types only and the names that it refers to are a
function of the model. -/
lemma Results.refers {rendering : Rendering α} {outcome : Except Failure α} {model : Model}
    {names : String → Prop} {more : Model → String → Prop}
    (h : rendering.Results pass outcome model names) (hd : pass.model.DerivesTo model)
    (hnames : ∀ later : Model, later.Settled → model.Extends model.nodes.size later →
      ∀ name, names name ↔ more later name) :
    rendering.Ensures True pass fun value after =>
      outcome = .ok value ∧ pass.Refers more after := by
  obtain ⟨counts, hrun, hsound, hiff⟩ := h
  unfold Ensures
  rw [hrun]
  cases outcome with
  | error failure => trivial
  | ok value =>
    refine ⟨rfl, hsound, hd, fun later hlater he name => ?_⟩
    rw [hiff, hnames later hlater he]

/-- Rendering the items of a list refers to what rendering each of them refers to. -/
lemma ensures_mapM {render : α → Rendering β} {names : α → Model → String → Prop} :
    ∀ (items : List α) {pass : Pass},
      (∀ item ∈ items, ∀ pass : Pass, pass.Sound → limit ≤ pass.model.nodes.size →
        (render item).Ensures True pass fun _ after => pass.Refers (names item) after) →
      pass.Sound → limit ≤ pass.model.nodes.size →
        (items.mapM render).Ensures True pass fun _ after =>
          pass.Refers (fun later name => ∃ item ∈ items, names item later name) after
  | [], pass, _, hsound, _ => by
    refine Ensures.pure ((Pass.Refers.refl hsound).congr fun _ _ _ name => ?_)
    simp
  | item :: rest, pass, hrender, hsound, hlimit => by
    rw [List.mapM_cons]
    refine (hrender item List.mem_cons_self pass hsound hlimit).bind fun result mid hmid => ?_
    have hrest := ensures_mapM rest (fun item hitem => hrender item (List.mem_cons_of_mem _ hitem))
      hmid.sound (Nat.le_trans hlimit (hmid.size_le hsound))
    refine hrest.bind fun results after hafter => ?_
    refine Ensures.pure ((hmid.trans hafter).congr fun _ _ _ name => ?_)
    simp

/-- Spelling a type refers to its name. -/
lemma refers_spell (spellings : TypeSpellings) {id : Nat} (h : pass.Sound)
    (hid : id < pass.model.nodes.size) :
    (spellings.spell id).Ensures True pass fun _ after =>
      pass.Refers (fun later name => later.customName? id = some name) after := by
  refine ((results_spell spellings h hid).refers .refl fun later hlater he name => ?_).imp
    fun _ _ hafter => hafter.2
  rw [he.customName?_eq h.settled.toWellFormed hlater.toWellFormed hid]

/-- Looking for the type that a parameter is sent as and spelling it refers to the name of that
type. -/
lemma refers_spellSent (spellings : TypeSpellings) (h : pass.Sound)
    (hp : parameter.type < pass.model.nodes.size) :
    (sentType parameter >>= spellings.spell).Ensures True pass fun _ after =>
      pass.Refers (fun later name =>
        (later.sent parameter).2.customName? (later.sent parameter).1 = some name) after := by
  have hd := pass.model.derivesTo_sent parameter
  refine ((results_spellSent spellings h hp).refers hd fun later hlater he name => ?_).imp
    fun _ _ hafter => hafter.2
  -- The type may be another container in the later model, but what is inside it is the same.
  obtain ⟨hgrows, hun⟩ := h.settled.sent_later hp hlater he
  have hsent : (pass.model.sent parameter).2.WellFormed := (h.settled.derivesTo hd).toWellFormed
  have hlast := he.trans (hgrows.toExtends he.size_le)
  rw [hlast.customName?_eq_of_innermost hsent (h.settled.fst_sent_lt hp) (congrArg Prod.snd hun)]

end Rendering

/-! ## The request type of a method -/

/-- A method has a request type exactly if the name of that is not empty. -/
lemma Model.Reachable.isEmpty_requestNameOf {model : Model} (h : model.Reachable)
    (method : Method) : (model.requestNameOf method).isEmpty = true ↔
      (model.requestType method.operationId).1 = none := by
  rw [Model.requestNameOf, String.isEmpty_iff]
  rcases hr : model.requestType method.operationId with ⟨none | request, new⟩
  · simp
  · have hd := (h.settled.isDerived_requestType hr).1
    have hnew : new.Reachable := by
      have := h.requestType method.operationId
      rwa [hr] at this
    have hname : new.nameOf request ≠ "" := Model.isInvariant_hasDerivedNames.of_reachable hnew
      request (Nat.zero_le _) (Model.lt_size_of_isDerived hd) hd
    simpa using hname

/-- Asking for the name of a request type refers to it. The name is empty if there is none in any
model that the pass may go on to. -/
lemma Rendering.refers_requestName {pass : Pass} (h : pass.Sound) (method : Method) :
    (ClientGen.requestName true method).Ensures True pass fun request after =>
      pass.Refers (fun later name =>
        Model.derivedName? (later.requestType method.operationId) = some name) after ∧
      ∀ later : Model, later.Settled → after.model.Extends after.model.nodes.size later →
        (request.isEmpty = true ↔ (later.requestType method.operationId).1 = none) := by
  have hlast : ∀ later : Model, later.Settled →
      (pass.model.requestType method.operationId).2.Extends
        (pass.model.requestType method.operationId).2.nodes.size later →
      later.requestType method.operationId =
        ((pass.model.requestType method.operationId).1, later) :=
    fun later hlater he => h.settled.requestType_later hlater he
  obtain ⟨counts, hrun, hsound, hiff⟩ := results_requestName h method
  unfold Ensures
  rw [hrun]
  have hd : pass.model.DerivesTo (pass.model.requestType method.operationId).2 :=
    .requestType method.operationId .refl
  have hmid := (h.settled.derivesTo hd)
  refine ⟨⟨hsound, hd, fun later hlater he name => ?_⟩, fun later hlater he => ?_⟩
  · rw [hiff, hlast later hlater he, Model.derivedName?, Model.derivedName?]
    refine or_congr_right ?_
    cases hr : (pass.model.requestType method.operationId).1 with
    | none => rfl
    | some request =>
      have hlt := Model.lt_size_of_isDerived
        (h.settled.isDerived_requestType (Prod.ext hr rfl)).1
      rw [Option.bind_some, Option.bind_some,
        he.customName?_eq hmid.toWellFormed hlater.toWellFormed hlt]
  · rw [h.reachable.isEmpty_requestNameOf, hlast later hlater he]

/-! ## The files of methods -/

namespace TypeScript

variable {pass : Pass} {method : Method} {parameter : Parameter}

/-- The argument for a parameter is made of the type that it is sent as, spelled. -/
lemma argumentOf_eq (parameter : Parameter) : argumentOf parameter =
    (sentType parameter >>= spellings.spell) >>= fun spelling => pure {
      name := argumentName parameter.name
      type := spelling.name
      optional := !parameter.required } := by
  rw [bind_assoc]
  rfl

/-- The argument for a parameter refers to the type that this is sent as. -/
lemma refers_argumentOf (h : pass.Sound) (hp : parameter.type < pass.model.nodes.size) :
    (argumentOf parameter).Ensures True pass fun _ after =>
      pass.Refers (fun later name =>
        (later.sent parameter).2.customName? (later.sent parameter).1 = some name) after := by
  rw [argumentOf_eq]
  exact (refers_spellSent spellings h hp).bind fun _ _ hafter => Ensures.pure hafter

/-- The arguments for the parameters refer to the types that these are sent as, unless there is a
request object. -/
lemma refers_arguments (h : pass.Sound) (hbelow : method.TypesBelow pass.model.nodes.size)
    (request : String) :
    (arguments request method).Ensures True pass fun _ after =>
      pass.Refers (fun later name => request.isEmpty = true ∧ ∃ p ∈ method.allParameters,
        (later.sent p).2.customName? (later.sent p).1 = some name) after := by
  unfold arguments
  split
  next hempty =>
    have hall : (method.allParameters.mapM argumentOf).Ensures True pass fun _ after =>
        pass.Refers (fun later name => ∃ p ∈ method.allParameters,
          (later.sent p).2.customName? (later.sent p).1 = some name) after :=
      ensures_mapM method.allParameters (fun p hp _ hmid hle => refers_argumentOf hmid
        (Nat.lt_of_lt_of_le (hbelow.allParameter_lt p hp) hle)) h (Nat.le_refl _)
    exact hall.imp fun _ _ hafter => hafter.congr fun _ _ _ _ => (and_iff_right hempty).symm
  next hempty =>
    exact Ensures.pure ((Pass.Refers.refl h).congr fun _ _ _ _ => by simp [hempty])

/-- The types of the errors refer to their names. -/
lemma refers_errors (h : pass.Sound) (hbelow : method.TypesBelow pass.model.nodes.size) :
    (method.errorResponses.mapM fun response => spellings.spell response.type).Ensures True pass
      fun _ after => pass.Refers (fun later name =>
        ∃ r ∈ method.errorResponses, later.customName? r.type = some name) after :=
  ensures_mapM method.errorResponses (fun r hr _ hmid hle => refers_spell spellings hmid
    (Nat.lt_of_lt_of_le (hbelow.error_lt r hr) hle)) h (Nat.le_refl _)

/-- A method refers to the names that it uses.

**Proof sketch.** The parts of the method refer to names one after the other: first the request
type, then the arguments, which refer to nothing if there is one, then the type that is returned and
those of the errors. -/
theorem ensures_call (h : pass.Sound) (hbelow : method.TypesBelow pass.model.nodes.size) :
    (call method).Ensures True pass fun _ after =>
      pass.Refers (fun later name => name ∈ later.usedNames method) after := by
  unfold call
  refine (refers_requestName h method).bind fun request first hfirst => ?_
  obtain ⟨hrequest, hempty⟩ := hfirst
  have hbelow₁ := hbelow.mono (hrequest.size_le h)
  refine (refers_arguments hrequest.sound hbelow₁ request).bind fun arguments second hsecond => ?_
  have hbelow₂ := hbelow₁.mono (hsecond.size_le hrequest.sound)
  refine (refers_spell spellings hsecond.sound hbelow₂.returnType_lt).bind
    fun returns third hthird => ?_
  have hbelow₃ := hbelow₂.mono (hthird.size_le hsecond.sound)
  refine (refers_errors hthird.sound hbelow₃).bind fun errors last hlast => Ensures.pure ?_
  have htail := hsecond.trans (hthird.trans hlast)
  refine (hrequest.trans htail).congr fun later hlater he name => ?_
  have hext := hrequest.sound.settled.extends_of_derivesTo htail.derivesTo
  have hnone := hempty later hlater (hext.trans (he.mono hext.size_le))
  rw [Model.mem_usedNames, Model.argumentNames, ← or_assoc]
  refine or_congr_left ?_
  cases hr : (later.requestType method.operationId).1 with
  | none => simp [Model.derivedName?, hr, hnone.mpr hr]
  | some derived =>
    have hno : ¬request.isEmpty = true := by simp [hnone, hr]
    simp [hno]

/-- A file of methods, rendered in a pass that begins with some model, imports what its methods use:
its head is made of the names that the pass refers to in the end, and these are the names of the
types that the methods use, in order and without repetitions. -/
structure HasExactImports (head : Banner → String) (start : Model) (text : String) (after : Pass) :
    Prop where
  text_eq : ∃ items : List String, text = assemble (Text.trimEnd (head after.banner))
    (backend.methodsHeader start.methods.values.length) items "\x7d"
  types_eq : after.banner.types = after.referencedNames
  ordered : after.referencedNames.Pairwise (· < ·)
  mem_iff : ∀ name : String, name ∈ after.referencedNames ↔
    ∃ method ∈ start.methods.values, name ∈ after.model.usedNames method
  derivesTo : start.DerivesTo after.model

/-- A file of items for the methods, each of which refers to what its method uses.

**Proof sketch.** At first the file refers to nothing. The items refer to what the methods use, one
after another, and the head and the end of the file refer to nothing more. -/
lemma ensures_imports {render : Method → Rendering String} {file : FileKind}
    {head : Banner → String} (h : pass.model.Reachable)
    (hrender : ∀ (method : Method) (pass : Pass), pass.Sound →
      method.TypesBelow pass.model.nodes.size →
        (render method).Ensures True pass fun _ after =>
          pass.Refers (fun later name => name ∈ later.usedNames method) after) :
    (beginFile file >>= fun _ => (do
      let methods := (← get).model.methods.values
      let items ← methods.mapM render
      let head ← fileHead head
      let ending ← pure "\x7d"
      return assemble head (backend.methodsHeader methods.length) items ending)).Ensures True pass
        fun text after => HasExactImports head pass.model text after := by
  have hsound : ({ pass with file, counts := ∅ } : Pass).Sound :=
    ⟨h, fun _ hid => absurd hid Std.TreeMap.not_mem_emptyc⟩
  refine Ensures.beginFile_bind (Ensures.get_bind ?_)
  have hitems := ensures_mapM pass.model.methods.values (fun method hmethod mid hmid hle =>
    hrender method mid hmid ((h.settled.toWellFormed.typesBelow hmethod).mono hle))
    hsound (Nat.le_refl _)
  refine hitems.bind fun items after hafter => Ensures.get_bind (Ensures.pure ?_)
  have hnames := hafter.refersTo_iff after.model hafter.sound.settled (.refl _ _)
  refine ⟨⟨items, rfl⟩, rfl, after.pairwise_referencedNames, fun name => ?_, hafter.derivesTo⟩
  rw [Pass.mem_referencedNames, hnames, or_iff_right (Pass.not_refersTo_beginFile file)]

/-- In a pass over a model that can be reached, whatever the pass referred to before, the file of
methods and the file of streams import just the types that the methods use: the types that they
return, those of their errors, and the request type of each method, or the types that its parameters
are sent as if it has none. -/
theorem imports_exact {after : Pass} {text : String} (h : pass.model.Reachable) :
    (backend.methodsFile.run.run pass = (.ok text, after) →
      HasExactImports methodsHead pass.model text after) ∧
    (backend.streamsFile.run.run pass = (.ok text, after) →
      HasExactImports streamsHead pass.model text after) := by
  have hcall : ∀ (render : Call → String) (method : Method) (pass : Pass), pass.Sound →
      method.TypesBelow pass.model.nodes.size →
        (call method >>= fun call => pure (render call)).Ensures True pass fun _ after =>
          pass.Refers (fun later name => name ∈ later.usedNames method) after :=
    fun _ _ _ hsound hbelow => (ensures_call hsound hbelow).bind fun _ _ hafter =>
      Ensures.pure hafter
  constructor
  · intro hrun
    exact (ensures_imports h (hcall (·.renderMethod 1))).of_ok hrun
  · intro hrun
    exact (ensures_imports h (hcall (·.renderStreamer 1))).of_ok hrun

/-- For the sample document the file of methods refers to the type of users, which the method
returns, and to the request type of the method. The file of streams is rendered after that, and
refers to the same types. -/
theorem imports_exact_sample : ∃ (methods streams : String) (afterMethods afterStreams : Pass),
    backend.methodsFile.run.run
      { model := Model.ofDocument Model.Reachable.sampleDocument, apiVersion := "4.0"
        packageName := "sample" } = (.ok methods, afterMethods) ∧
    afterMethods.referencedNames = ["RequestFind", "User"] ∧
    HasExactImports methodsHead (Model.ofDocument Model.Reachable.sampleDocument) methods
      afterMethods ∧
    backend.streamsFile.run.run afterMethods = (.ok streams, afterStreams) ∧
    afterStreams.referencedNames = ["RequestFind", "User"] ∧
    HasExactImports streamsHead afterMethods.model streams afterStreams := by
  have hreachable := Model.Reachable.ofDocument Model.Reachable.sampleDocument
  generalize hpass : ({ model := Model.ofDocument Model.Reachable.sampleDocument
                        apiVersion := "4.0", packageName := "sample" } : Pass) = pass
  have hmodel : pass.model = Model.ofDocument Model.Reachable.sampleDocument := by rw [← hpass]
  have hrun : (backend.methodsFile.run.run pass).1.isOk = true ∧
      (backend.methodsFile.run.run pass).2.referencedNames = ["RequestFind", "User"] ∧
      (backend.streamsFile.run.run (backend.methodsFile.run.run pass).2).1.isOk = true ∧
      (backend.streamsFile.run.run (backend.methodsFile.run.run pass).2).2.referencedNames =
        ["RequestFind", "User"] := by
    subst hpass
    decide +kernel
  obtain ⟨hok, hnames, hok', hnames'⟩ := hrun
  obtain ⟨methods, afterMethods, hmethods⟩ := Rendering.exists_of_isOk hok
  rw [hmethods] at hnames hok' hnames'
  obtain ⟨streams, afterStreams, hstreams⟩ := Rendering.exists_of_isOk hok'
  rw [hstreams] at hnames'
  have hfirst := (imports_exact (hmodel ▸ hreachable)).1 hmethods
  have hsecond := (imports_exact ((hmodel ▸ hreachable : pass.model.Reachable).derivesTo
    hfirst.derivesTo)).2 hstreams
  exact ⟨methods, streams, afterMethods, afterStreams, hmethods, hnames, hmodel ▸ hfirst, hstreams,
    hnames', hsecond⟩

end TypeScript

end ClientGen
