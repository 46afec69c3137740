import ClientGen.Generation.Recorder
import ClientGen.Proofs.Generation.Advances

/-!
# Halting at the first failure

The recording backend can be told to fail at a question. A pass with such a backend is compared
with the free pass, whose backend fails at no question. Up to the first time that the question is
asked both do the same. There the first one fails, and nothing is asked any more.

This is proved by going through the text of a pass once: a program that is made of others halts
where the first of them does.

## Main definitions

* `ClientGen.Recorder.refusal` — the failure at a question.
* `ClientGen.Rendering.Halted` — how a run that halts at a question compares with the free one.
* `ClientGen.Rendering.HaltsAt` — that a program does what a free one does until it halts.
* `ClientGen.Backend.HaltsAt` — the same for all that a backend renders.

## Main results

* `ClientGen.Rendering.HaltsAt.bind`, `ClientGen.Rendering.HaltsAt.mapM`,
  `ClientGen.Rendering.HaltsAt.foldlM` — programs that are made of others.
* `ClientGen.Backend.HaltsAt.files` — a pass halts where its backend does.
* `ClientGen.Model.generate_haltsAt` — what a pass answers and records if it is told to fail.
-/

set_option autoImplicit false

namespace ClientGen

/-- The failure of the recording backend at a question. -/
def Recorder.refusal (question : String) : Failure := .backend (.unsupported "mock" question)

namespace Rendering

variable {α β : Type} {question : String} {pass : Pass}

/-! ## Two runs -/

/-- How a run compares with a free one that starts in the same pass, by what each of them ends
with. The calls of a run are those of the pass and what has been asked since. -/
inductive Halted (question : String) (pass : Pass) :
    Except Failure α × Pass → Except Failure α × Pass → Prop
  /-- The question is not asked, and both runs end with the same. -/
  | unasked {result : Except Failure α} {after : Pass} (asked : List String)
      (hcalls : after.calls.toList = pass.calls.toList ++ asked) (hasked : question ∉ asked) :
      Halted question pass (result, after) (result, after)
  /-- The question is asked, and the run ends there for the first time. -/
  | stopped {result : Except Failure α} {after last : Pass} (before rest : List String)
      (hcalls : after.calls.toList = pass.calls.toList ++ (before ++ question :: rest))
      (hbefore : question ∉ before)
      (hlast : last.calls.toList = pass.calls.toList ++ (before ++ [question])) :
      Halted question pass (result, after) (.error (Recorder.refusal question), last)

/-- A program does what a free one does until it is asked a question, where it halts. -/
def HaltsAt (question : String) (free halting : Rendering α) : Prop :=
  ∀ pass : Pass, Halted question pass (free.run.run pass) (halting.run.run pass)

/-- A free run adds to the calls. -/
lemma Halted.exists_calls {free halting : Except Failure α × Pass}
    (h : Halted question pass free halting) :
    ∃ asked, free.2.calls.toList = pass.calls.toList ++ asked := by
  cases h with
  | unasked asked hcalls => exact ⟨asked, hcalls⟩
  | stopped before rest hcalls => exact ⟨_, hcalls⟩

/-- What a run that has asked nothing yet goes on to, it compares with as it is. -/
lemma Halted.of_unasked {mid : Pass} {free halting : Except Failure α × Pass} (asked : List String)
    (hcalls : mid.calls.toList = pass.calls.toList ++ asked) (hasked : question ∉ asked)
    (h : Halted question mid free halting) : Halted question pass free halting := by
  cases h with
  | unasked later hlater hnot =>
    refine .unasked (asked ++ later) ?_ ?_
    · rw [hlater, hcalls, List.append_assoc]
    · exact fun hmem => (List.mem_append.mp hmem).elim hasked hnot
  | stopped before rest hlater hnot hlast =>
    refine .stopped (asked ++ before) rest ?_ ?_ ?_
    · rw [hlater, hcalls]
      simp only [List.append_assoc]
    · exact fun hmem => (List.mem_append.mp hmem).elim hasked hnot
    · rw [hlast, hcalls]
      simp only [List.append_assoc]

namespace HaltsAt

/-! ### Programs -/

/-- What asks nothing ends with the same. -/
lemma of_calls_eq {rendering : Rendering α}
    (h : ∀ pass, (rendering.run.run pass).2.calls = pass.calls) :
    HaltsAt question rendering rendering := fun pass =>
  .unasked [] ((congrArg Array.toList (h pass)).trans (List.append_nil _).symm) List.not_mem_nil

/-- A value is the same. -/
lemma pure (value : α) : HaltsAt question (Pure.pure value) (Pure.pure value) :=
  of_calls_eq fun _ => rfl

/-- Another failure is the same. -/
lemma throw (failure : Failure) : HaltsAt question (MonadExcept.throw failure : Rendering α)
    (MonadExcept.throw failure) :=
  of_calls_eq fun _ => rfl

/-- Looking at the pass asks nothing. -/
lemma get : HaltsAt question (MonadState.get : Rendering Pass) MonadState.get :=
  of_calls_eq fun _ => rfl

/-- One thing after another halts in the first one, or else in the second one. -/
lemma bind {free halting : Rendering α} {next next' : α → Rendering β}
    (hfirst : HaltsAt question free halting)
    (hnext : ∀ value, HaltsAt question (next value) (next' value)) :
    HaltsAt question (free >>= next) (halting >>= next') := by
  intro pass
  have h := hfirst pass
  simp only [ExceptT.run_bind, StateT.run_bind]
  generalize free.run.run pass = run at h ⊢
  generalize halting.run.run pass = run' at h ⊢
  cases h with
  | @unasked result mid asked hcalls hasked =>
    cases result with
    | error failure => exact .unasked asked hcalls hasked
    | ok value => exact .of_unasked asked hcalls hasked (hnext value mid)
  | @stopped result mid last before rest hcalls hbefore hlast =>
    cases result with
    | error failure => exact .stopped before rest hcalls hbefore hlast
    | ok value =>
      obtain ⟨later, hlater⟩ := (hnext value mid).exists_calls
      refine .stopped before (rest ++ later) (hlater.trans ?_) hbefore hlast
      rw [hcalls]
      simp only [List.append_assoc, List.cons_append]

/-- Mapping the value halts where the program does. -/
lemma map {free halting : Rendering α} (h : HaltsAt question free halting) (f : α → β) :
    HaltsAt question (f <$> free) (f <$> halting) := by
  rw [← bind_pure_comp, ← bind_pure_comp]
  exact h.bind fun value => .pure (f value)

/-- Rendering the items of a list halts at the first item that does. -/
lemma mapM {render render' : α → Rendering β}
    (h : ∀ item, HaltsAt question (render item) (render' item)) :
    ∀ items : List α, HaltsAt question (items.mapM render) (items.mapM render')
  | [] => .pure []
  | item :: rest => by
    rw [List.mapM_cons, List.mapM_cons]
    exact (h item).bind fun _ => (mapM h rest).bind fun _ => .pure _

/-- Going through the items of a list halts at the first step that does. -/
lemma foldlM {step step' : β → α → Rendering β}
    (h : ∀ value item, HaltsAt question (step value item) (step' value item)) :
    ∀ (items : List α) (value : β), HaltsAt question (items.foldlM step value)
      (items.foldlM step' value)
  | [], value => .pure value
  | item :: rest, value => by
    rw [List.foldlM_cons, List.foldlM_cons]
    exact (h value item).bind fun value => foldlM h rest value

/-! ### What asks nothing -/

/-- Counting a reference asks nothing. -/
lemma reference (id : TypeId) :
    HaltsAt question (Rendering.reference id) (Rendering.reference id) :=
  of_calls_eq fun _ => rfl

/-- Looking at a type asks nothing. -/
lemma node (id : TypeId) : HaltsAt question (Rendering.node id) (Rendering.node id) :=
  of_calls_eq fun _ => rfl

/-- Going on to another file asks nothing. -/
lemma beginFile (file : FileKind) :
    HaltsAt question (Rendering.beginFile file) (Rendering.beginFile file) :=
  of_calls_eq fun _ => rfl

/-- Failing on a type without a name asks nothing. -/
lemma ensureNamed (node : TypeNode) :
    HaltsAt question (Rendering.ensureNamed node) (Rendering.ensureNamed node) := by
  unfold Rendering.ensureNamed
  split
  · exact .throw _
  · exact .pure _

/-- Deriving a type asks nothing. -/
lemma derived (derive : Model → Model.Derivation) :
    HaltsAt question (Rendering.derived derive) (Rendering.derived derive) := by
  refine of_calls_eq fun pass => ?_
  rw [Rendering.derived, run_get_bind]
  generalize derive pass.model = derivation
  obtain ⟨none | id, model⟩ := derivation
  · rfl
  · rfl

/-- Looking for the name of a request type asks nothing. -/
lemma requestName (takesRequests : Bool) (method : Method) :
    HaltsAt question (ClientGen.requestName takesRequests method)
      (ClientGen.requestName takesRequests method) := by
  unfold ClientGen.requestName
  split
  · refine (derived (Model.requestType method.operationId)).bind fun id => ?_
    cases id with
    | none => exact .pure _
    | some id => exact (node id).bind fun _ => .pure _
  · exact .pure _

end HaltsAt

end Rendering

/-! ## Passes -/

/-- Two backends have the same forms, and each thing that one of them renders halts at a question
where the other one goes on. -/
structure Backend.HaltsAt (question : String) (free halting : Backend) : Prop where
  takesRequests_eq : halting.takesRequests = free.takesRequests
  hasStreams_eq : halting.hasStreams = free.hasStreams
  comment_eq : halting.comment = free.comment
  type : ∀ level id, Rendering.HaltsAt question (free.type level id) (halting.type level id)
  method : ∀ level method,
    Rendering.HaltsAt question (free.method level method) (halting.method level method)
  streamer : ∀ level method,
    Rendering.HaltsAt question (free.streamer level method) (halting.streamer level method)
  methodsHead : Rendering.HaltsAt question free.methodsHead halting.methodsHead
  methodsEnd : Rendering.HaltsAt question free.methodsEnd halting.methodsEnd
  streamsHead : Rendering.HaltsAt question free.streamsHead halting.streamsHead
  modelsHead : Rendering.HaltsAt question free.modelsHead halting.modelsHead
  modelsEnd : Rendering.HaltsAt question free.modelsEnd halting.modelsEnd

namespace Backend.HaltsAt

open Rendering

variable {question : String} {free halting : Backend}

/-- Both backends declare types of the same kinds. -/
lemma tallied?_eq (h : free.HaltsAt question halting) (tally : Tally) (kind : TypeKind) :
    halting.tallied? tally kind = free.tallied? tally kind := by
  cases kind <;> simp only [tallied?, h.takesRequests_eq]

/-- Declaring a type. -/
lemma declare (h : free.HaltsAt question halting) (declarations : Declarations)
    (entry : String × TypeId) :
    (free.declare declarations entry).HaltsAt question (halting.declare declarations entry) := by
  refine (Rendering.HaltsAt.node entry.2).bind fun node => ?_
  dsimp only
  rw [h.tallied?_eq]
  split
  · exact .pure _
  · exact (Rendering.HaltsAt.ensureNamed node).bind fun _ =>
      (h.type 0 entry.2).bind fun _ => .pure _

/-- Declaring types in rounds, each of which finds its work in the model as it is then. -/
lemma declareRounds (h : free.HaltsAt question halting) :
    ∀ (rounds : Nat) (declarations : Declarations),
      (free.declareRounds rounds declarations).HaltsAt question
        (halting.declareRounds rounds declarations)
  | 0, declarations => .pure declarations
  | rounds + 1, declarations => by
    refine Rendering.HaltsAt.get.bind fun pass => ?_
    dsimp only
    split
    · exact .pure declarations
    · exact (Rendering.HaltsAt.foldlM h.declare _ _).bind fun _ => declareRounds h rounds _

/-- The file of types. -/
lemma modelsFile (h : free.HaltsAt question halting) :
    free.modelsFile.HaltsAt question halting.modelsFile := by
  unfold Backend.modelsFile
  rw [h.comment_eq]
  exact (Rendering.HaltsAt.beginFile .models).bind fun _ =>
    (Rendering.HaltsAt.get.bind fun _ => h.declareRounds _ _).bind fun _ =>
      h.modelsHead.bind fun _ => h.modelsEnd.bind fun _ => .pure _

/-- The file of methods. -/
lemma methodsFile (h : free.HaltsAt question halting) :
    free.methodsFile.HaltsAt question halting.methodsFile := by
  unfold Backend.methodsFile methodsHeader
  rw [h.comment_eq]
  exact (Rendering.HaltsAt.beginFile .methods).bind fun _ => Rendering.HaltsAt.get.bind fun _ =>
    (Rendering.HaltsAt.mapM (h.method 1) _).bind fun _ => h.methodsHead.bind fun _ =>
      h.methodsEnd.bind fun _ => .pure _

/-- The file of streams. -/
lemma streamsFile (h : free.HaltsAt question halting) :
    free.streamsFile.HaltsAt question halting.streamsFile := by
  unfold Backend.streamsFile methodsHeader
  rw [h.comment_eq]
  exact (Rendering.HaltsAt.beginFile .streams).bind fun _ => Rendering.HaltsAt.get.bind fun _ =>
    (Rendering.HaltsAt.mapM (h.streamer 1) _).bind fun _ => h.streamsHead.bind fun _ =>
      h.methodsEnd.bind fun _ => .pure _

/-- All files of a pass. -/
theorem files (h : free.HaltsAt question halting) :
    free.files.HaltsAt question halting.files := by
  refine h.methodsFile.bind fun _ => ?_
  rw [h.hasStreams_eq]
  dsimp only
  split
  · exact (h.streamsFile.map some).bind fun _ => h.modelsFile.bind fun _ => .pure _
  · exact (Rendering.HaltsAt.pure none).bind fun _ => h.modelsFile.bind fun _ => .pure _

end Backend.HaltsAt

/-! ## The recording backend -/

namespace Recorder

open Rendering (HaltsAt)

variable {text : String} (recorder : Recorder) (question : String)

/-- The recorder that fails at no question: none is empty. -/
def free : Recorder := { recorder with fail := "" }

/-- The recorder that fails at a question. -/
def halting : Recorder := { recorder with fail := question }

/-- Recording a question halts if it is the one to fail at. -/
lemma haltsAt_ask (htext : text ≠ "") :
    HaltsAt question (recorder.free.ask text) ((recorder.halting question).ask text) := by
  intro pass
  have hfree : (recorder.free.ask text).run.run pass =
      (.ok (), { pass with calls := pass.calls.push text }) := by
    unfold ask
    rw [show recorder.free.fail = "" from rfl, if_neg htext]
    rfl
  rw [hfree]
  by_cases heq : text = question
  · subst heq
    have hstop : ((recorder.halting text).ask text).run.run pass =
        (.error (refusal text), { pass with calls := pass.calls.push text }) := by
      unfold ask
      rw [show (recorder.halting text).fail = text from rfl, if_pos rfl]
      rfl
    rw [hstop]
    exact .stopped [] [] (by simp) List.not_mem_nil (by simp)
  · have hsame : ((recorder.halting question).ask text).run.run pass =
        (.ok (), { pass with calls := pass.calls.push text }) := by
      unfold ask
      rw [show (recorder.halting question).fail = question from rfl, if_neg heq]
      rfl
    rw [hsame]
    exact .unasked [text] (by simp) (by simpa using Ne.symm heq)

/-- Recording a question about something halts if it is the one to fail at. -/
lemma haltsAt_ask_question {kind : String} (hkind : kind ≠ "") (subject : String) (level : Nat) :
    HaltsAt question (recorder.free.ask (Recorder.question kind subject level))
      ((recorder.halting question).ask (Recorder.question kind subject level)) :=
  recorder.haltsAt_ask question (by simp [Recorder.question, hkind])

/-- Spelling a type asks about it. -/
lemma haltsAt_spell (id : TypeId) :
    HaltsAt question (recorder.free.spell id) ((recorder.halting question).spell id) :=
  (HaltsAt.reference id).bind fun _ => (HaltsAt.node id).bind fun _ =>
    (recorder.haltsAt_ask question (by simp)).bind fun _ => .pure _

/-- A name with its type. -/
lemma haltsAt_typed (level : Nat) (name : String) (type : TypeId) :
    HaltsAt question (recorder.free.typed level name type)
      ((recorder.halting question).typed level name type) :=
  (recorder.haltsAt_spell question type).bind fun _ => .pure _

/-- A property. -/
lemma haltsAt_property (level : Nat) (property : Property) :
    HaltsAt question (recorder.free.property level property)
      ((recorder.halting question).property level property) :=
  (recorder.haltsAt_ask_question question (by decide) _ _).bind fun _ =>
    recorder.haltsAt_typed question _ _ _

/-- A parameter. -/
lemma haltsAt_parameter (level : Nat) (method : Method) (parameter : Parameter) :
    HaltsAt question (recorder.free.parameter level method parameter)
      ((recorder.halting question).parameter level method parameter) :=
  (recorder.haltsAt_ask_question question (by decide) _ _).bind fun _ =>
    recorder.haltsAt_typed question _ _ _

/-- A type with its properties. -/
lemma haltsAt_type (level : Nat) (id : TypeId) :
    HaltsAt question (recorder.free.type level id)
      ((recorder.halting question).type level id) := by
  refine (HaltsAt.node id).bind fun node =>
    (recorder.haltsAt_ask_question question (by decide) _ _).bind fun _ =>
      (HaltsAt.mapM (recorder.haltsAt_property question _) _).bind fun _ => ?_
  dsimp only
  rw [show recorder.free.write = recorder.write from rfl,
    show (recorder.halting question).write = recorder.write from rfl]
  split
  · refine (HaltsAt.derived _).bind fun write => ?_
    cases write with
    | none => exact (HaltsAt.pure _).bind fun _ => .pure _
    | some write =>
      exact (HaltsAt.node write).bind fun _ => (HaltsAt.pure _).bind fun _ => .pure _
  · refine (HaltsAt.pure none).bind fun write => ?_
    cases write with
    | none => exact (HaltsAt.pure _).bind fun _ => .pure _
    | some write =>
      exact (HaltsAt.node write).bind fun _ => (HaltsAt.pure _).bind fun _ => .pure _

/-- A method with its parameters, or with its request type in their place. -/
lemma haltsAt_method (level : Nat) (method : Method) :
    HaltsAt question (recorder.free.method level method)
      ((recorder.halting question).method level method) := by
  refine (recorder.haltsAt_ask_question question (by decide) _ _).bind fun _ =>
    (HaltsAt.requestName recorder.requests method).bind fun request => ?_
  dsimp only
  split
  · exact (HaltsAt.mapM (recorder.haltsAt_parameter question _ method) _).bind fun _ =>
      (recorder.haltsAt_spell question _).bind fun _ => .pure _
  · exact (HaltsAt.pure _).bind fun _ => (recorder.haltsAt_spell question _).bind fun _ => .pure _

/-- The head or the end of a file. -/
lemma haltsAt_frameText {name : String} :
    HaltsAt question (recorder.free.frameText name)
      ((recorder.halting question).frameText name) :=
  HaltsAt.get.bind fun _ => (recorder.haltsAt_ask question (by simp)).bind fun _ => .pure _

/-- The recording backend halts at the question that it is told to fail at. -/
theorem haltsAt_backend :
    recorder.free.backend.HaltsAt question (recorder.halting question).backend where
  takesRequests_eq := rfl
  hasStreams_eq := rfl
  comment_eq := rfl
  type := recorder.haltsAt_type question
  method := recorder.haltsAt_method question
  streamer _ _ := (recorder.haltsAt_ask_question question (by decide) _ _).bind fun _ => .pure _
  methodsHead := recorder.haltsAt_frameText question
  methodsEnd := recorder.haltsAt_frameText question
  streamsHead := recorder.haltsAt_frameText question
  modelsHead := recorder.haltsAt_frameText question
  modelsEnd := recorder.haltsAt_frameText question

end Recorder

/-- A pass of the recording backend that is told to fail at a question, compared with the free pass
over the same model. If the free pass does not ask the question, both end with the same, and leave
the same behind. If it does, the other one answers the failure at that question, and has asked
what the free one has asked up to there and nothing after it. -/
theorem Model.generate_haltsAt (recorder : Recorder) (question : String) (model : Model)
    (apiVersion packageName : String) :
    let free := model.generate recorder.free.backend apiVersion packageName
    let halting := model.generate (recorder.halting question).backend apiVersion packageName
    (question ∉ free.2.calls.toList → halting = free) ∧
      (question ∈ free.2.calls.toList →
        halting.1 = .error (.backend (.unsupported "mock" question)) ∧
          ∃ before rest, free.2.calls.toList = before ++ question :: rest ∧ question ∉ before ∧
            halting.2.calls.toList = before ++ [question]) := by
  intro free halting
  have h : Rendering.Halted question { model, apiVersion, packageName } free halting :=
    (recorder.haltsAt_backend question).files _
  cases hfree : free with
  | mk result after =>
  cases hhalting : halting with
  | mk result' last =>
  rw [hfree, hhalting] at h
  cases h with
  | unasked asked hcalls hasked =>
    refine ⟨fun _ => rfl, fun hmem => absurd hmem ?_⟩
    rw [hcalls]
    simpa using hasked
  | stopped before rest hcalls hbefore hlast =>
    refine ⟨fun hnot => absurd ?_ hnot, fun _ => ⟨rfl, before, rest, hcalls, hbefore, hlast⟩⟩
    rw [hcalls]
    simp

end ClientGen
