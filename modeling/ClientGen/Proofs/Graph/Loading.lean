import ClientGen.Proofs.BodyReferences
import ClientGen.Proofs.Graph.Resolution
import ClientGen.Proofs.Parameters.Merging

/-!
# The model of a document is well formed

Reading a document stores types, properties and methods one after the other. Each step keeps the
model well formed, also where a property or an operation is left out because of a mistake, and
no type is derived.

## Main definitions

* `ClientGen.Model.Fresh` — well-formed models without derived types.
* `ClientGen.Model.markUse` — the model with an operation recorded at one type.
* `ClientGen.Model.Reads` — outcomes that grow a model, and fail with an error of the program unless
  references go round.
* `ClientGen.Model.ReadsTo` — what reading an operation does to a model.

## Main results

* `ClientGen.Model.WellFormed.loadOperation_cases` — a path has no operation for a verb, or it is
  read.
* `ClientGen.Model.Fresh.loadSchema`, `ClientGen.Model.Fresh.loadOperation` — reading a schema or
  an operation keeps a model fresh.
* `ClientGen.Model.Fresh.ofDocument` — the model of a document is fresh.
-/

set_option autoImplicit false

namespace ClientGen.Model

/-- A well-formed model without derived types. -/
structure Fresh (model : Model) : Prop extends model.WellFormed where
  /-- No shape leads anywhere. -/
  derived_none : ∀ key : String, model.derived[key]? = none
  /-- No type is derived. -/
  not_isDerived : ∀ id : TypeId, ¬(model.node id).kind.IsDerived

namespace Fresh

variable {model new : Model} {base : String} {kind : TypeKind} {schema : Json} {id : Nat}

/-- Adding a type that is not derived keeps a model fresh. -/
lemma add (h : model.Fresh) (hk : kind.RefersBelow model.nodes.size) (hd : ¬kind.IsDerived) :
    (model.add base kind schema).2.Fresh where
  toWellFormed := h.toWellFormed.add hk
  derived_none := h.derived_none
  not_isDerived id := by
    rw [node_add]
    split_ifs
    · exact hd
    · exact h.not_isDerived id

/-- Changing the contents of a type keeps a model fresh, if the new properties are of types. -/
lemma modify (h : model.Fresh) {change : TypeNode → TypeNode}
    (hbare : ∀ node, (change node).bare = node.bare)
    (hp : ∀ p ∈ (change (model.node id)).properties, p.type < model.nodes.size) :
    (model.modify id change).Fresh where
  toWellFormed := h.toWellFormed.modify (fun node => (congrArg TypeNode.id (hbare node) :))
    (fun node => (congrArg TypeNode.name (hbare node) :))
    (fun node => (congrArg TypeNode.kind (hbare node) :)) hp
  derived_none := h.derived_none
  not_isDerived i := by
    have hkind : ∀ node, (change node).kind = node.kind :=
      fun node => (congrArg TypeNode.kind (hbare node) :)
    rw [node_modify_keeps (·.kind) hkind]
    exact h.not_isDerived i

/-- Growing keeps a model fresh. -/
lemma grow (h : model.Fresh) (hg : model.GrowsTo new) : new.Fresh := by
  induction hg with
  | refl => exact h
  | intrinsic name _ ih => exact keeps_intrinsic ih (ih.add trivial id)
  | container wrapper helt _ ih => exact keeps_container ih fun _ => ih.add helt id

/-- Recording a mistake keeps a model fresh. -/
lemma report (h : model.Fresh) (subject : String) (error : SpecError) :
    (model.report subject error).Fresh :=
  ⟨⟨h.id_eq, h.names_iff, h.element_lt, h.source_lt, h.property_lt, h.ref_lt, h.derived_lt,
    h.parameter_lt, h.response_lt, h.operationId_eq⟩, h.derived_none, h.not_isDerived⟩

/-- Leaving out methods keeps a model fresh. -/
lemma retain (h : model.Fresh) (included excluded : List String) :
    (model.retain included excluded).Fresh :=
  ⟨h.toWellFormed.retain included excluded, h.derived_none, h.not_isDerived⟩

/-- The model of built-in types is fresh. -/
lemma initial (document : Document) : (Model.initial document).Fresh := by
  unfold Model.initial
  generalize hm : ({ document } : Model) = start
  have hstart : start.Fresh := by
    subst hm
    exact ⟨wellFormed_empty document, fun _ => by simp, fun _ => by simp [node, default,
      TypeKind.IsDerived]⟩
  clear hm
  induction intrinsicNames generalizing start with
  | nil => exact hstart
  | cons name names ih => exact ih _ (hstart.add trivial id)

/-! ## Schemas -/

/-- Declaring a schema keeps a model fresh. -/
lemma declare (h : model.Fresh) (stem : String) (entry : String × Json) :
    (Model.declare stem model entry).Fresh := by
  have hadd : (model.add entry.1 .component entry.2).2.Fresh := h.add trivial id
  refine ⟨⟨hadd.id_eq, hadd.names_iff, hadd.element_lt, hadd.source_lt, hadd.property_lt, ?_,
    hadd.derived_lt, hadd.parameter_lt, hadd.response_lt, hadd.operationId_eq⟩,
    hadd.derived_none, hadd.not_isDerived⟩
  intro reference id hr
  simp only [Model.declare, Std.TreeMap.getElem?_insert, fst_add, refs_add] at hr ⊢
  rw [size_nodes_add]
  split_ifs at hr
  · obtain rfl := Option.some.inj hr
    exact Nat.lt_succ_self _
  · exact Nat.lt_succ_of_lt (h.ref_lt reference id hr)

/-- Reading properties keeps a model fresh, and the properties are of types of it.

**Proof sketch.** Induction on the properties that are declared. One that resolves grows the
model, and one that does not leaves a mistake behind; either way the others are read in a model
that is fresh. -/
lemma loadProperties (owner : String) (required : List String) :
    ∀ (entries : List (String × Json)) {model : Model}, model.Fresh →
      (Model.loadProperties owner required entries model).2.Fresh ∧
      model.nodes.size ≤ (Model.loadProperties owner required entries model).2.nodes.size ∧
      ∀ p ∈ (Model.loadProperties owner required entries model).1,
        p.type < (Model.loadProperties owner required entries model).2.nodes.size
  | [], _, h => ⟨h, Nat.le_refl _, fun _ hp => absurd hp List.not_mem_nil⟩
  | (name, schema) :: rest, model, h => by
    have hres := resolves_resolve h.toWellFormed schema none
    rcases hr : resolve schema none model with ⟨error | type, mid⟩
    · rw [hr] at hres
      have hmid : (mid.report (owner ++ "." ++ name) error).Fresh := (h.grow hres.grows).report _ _
      obtain ⟨hfresh, hle, hlt⟩ := loadProperties owner required rest hmid
      simp only [Model.loadProperties, hr]
      exact ⟨hfresh, Nat.le_trans hres.grows.size_le hle, hlt⟩
    · rw [hr] at hres
      obtain ⟨hfresh, hle, hlt⟩ := loadProperties owner required rest (h.grow hres.grows)
      simp only [Model.loadProperties, hr]
      refine ⟨hfresh, Nat.le_trans hres.grows.size_le hle, fun p hp => ?_⟩
      rcases List.mem_cons.mp hp with rfl | hp
      · exact Nat.lt_of_lt_of_le (hres.lt_size type rfl type List.mem_cons_self) hle
      · exact hlt p hp

/-- Reading a declared schema keeps a model fresh. -/
theorem loadSchema (h : model.Fresh) (stem : String) (entry : String × Json) :
    (Model.loadSchema stem model entry).Fresh := by
  obtain ⟨name, schema⟩ := entry
  unfold Model.loadSchema
  dsimp only
  split
  next id members _ _ =>
    obtain ⟨hfresh, -, hlt⟩ := loadProperties name (requiredNames schema) members h
    exact hfresh.modify (fun _ => rfl) hlt
  next => exact h

/-- Reading all declared schemas keeps a model fresh. -/
lemma loadTypes (h : model.Fresh) : model.loadTypes.Fresh :=
  List.foldlRecOn _ _ (List.foldlRecOn _ _ h fun _ hm entry _ => hm.declare _ entry)
    fun _ hm entry _ => hm.loadSchema _ entry

end Fresh

/-! ## Parts of an operation -/

/-- A method that consists of some parts has those, and one of its responses is the primary one. -/
lemma parts_of_ofParts {operationId endpoint : String} {verb : Verb} {schema : Json}
    {parameters : List Parameter} {responses : List Response} {method : Method}
    (h : Method.ofParts operationId verb endpoint schema parameters responses = .ok method) :
    ∃ primary,
      method = { operationId, verb, endpoint, schema, parameters, responses, primary } := by
  unfold Method.ofParts at h
  split at h
  · exact absurd h (by simp)
  · split_ifs at h
    exact ⟨_, (Except.ok.inj h).symm⟩

/-- Parts that do not fit together fail with an error of their own. -/
lemma isEndless_of_ofParts {operationId endpoint : String} {verb : Verb} {schema : Json}
    {parameters : List Parameter} {responses : List Response} {error : SpecError}
    (h : Method.ofParts operationId verb endpoint schema parameters responses = .error error)
    (document : Document) : error.isEndless document = false := by
  unfold Method.ofParts at h
  split at h
  · obtain rfl := Except.error.inj h
    rfl
  · split_ifs at h
    obtain rfl := Except.error.inj h
    rfl

/-- References go round in a model that has grown just where they did before. -/
lemma GrowsTo.goesRound_iff {model mid : Model} (h : model.GrowsTo mid) {reference : String} :
    mid.GoesRound reference ↔ model.GoesRound reference := by
  have hext := h.toExtends (Nat.zero_le _)
  rw [GoesRound, GoesRound, hext.document_eq, hext.refs_eq]

/-- The outcome grows the model, and the types that its value refers to, if it has one, are types of
the grown model. If it has none, its error stands for references that are followed for ever just if
some references go round. -/
structure Reads {α : Type} (types : α → List TypeId) (model : Model)
    (result : Except SpecError α × Model) : Prop extends Loads types model result where
  exists_goesRound : ∀ error, result.1 = .error error → error.isEndless model.document = true →
    ∃ reference, model.GoesRound reference

namespace Reads

variable {α β : Type} {types : α → List TypeId} {types' : β → List TypeId} {model mid : Model}
  {fault : SpecError}

/-- A failure of its own, without any effect. -/
lemma error (model : Model) (h : fault.isEndless model.document = false) :
    Reads types model (.error fault, model) :=
  ⟨.error model fault, fun _ herror hendless => by
    obtain rfl := Except.error.inj herror
    exact absurd (h.symm.trans hendless) Bool.false_ne_true⟩

/-- A value that refers only to types that are there. -/
lemma ok {value : α} (h : ∀ type ∈ types value, type < model.nodes.size) :
    Reads types model (.ok value, model) :=
  ⟨.ok h, fun _ herror => absurd herror nofun⟩

/-- An outcome of a model that has grown. -/
lemma after {result : Except SpecError α × Model} (h : model.GrowsTo mid)
    (hr : Reads types mid result) : Reads types model result :=
  ⟨.after h hr.toLoads, fun error herror hendless => by
    rw [← (h.toExtends (Nat.zero_le _)).document_eq] at hendless
    exact (hr.exists_goesRound error herror hendless).imp fun _ => h.goesRound_iff.mp⟩

/-- So it is in the grown model. -/
lemma exists_goesRound_grown {result : Except SpecError α × Model} (h : Reads types model result)
    (error : SpecError) (herror : result.1 = .error error)
    (hendless : error.isEndless result.2.document = true) :
    ∃ reference, result.2.GoesRound reference := by
  rw [(h.grows.toExtends (Nat.zero_le _)).document_eq] at hendless
  exact (h.exists_goesRound error herror hendless).imp fun _ => h.grows.goesRound_iff.mpr

/-- A part has failed. -/
lemma fail (h : Reads types model (.error fault, mid)) : Reads types' model (.error fault, mid) :=
  ⟨⟨h.grows, fun _ hvalue => absurd hvalue nofun⟩, fun _ herror =>
    h.exists_goesRound _ (congrArg Except.error (Except.error.inj herror))⟩

end Reads

/-- A type is looked up. -/
lemma reads_resolve {model : Model} (h : model.WellFormed) (schema : Json) (style : Option Style) :
    Reads (fun id => [id]) model (resolve schema style model) :=
  ⟨resolves_resolve h schema style, fun error herror hendless =>
    let ⟨reference, _, hround⟩ :=
      (isEndless_resolve_iff schema style model).mp ⟨error, herror, hendless⟩
    ⟨reference, hround⟩⟩

section Reads

variable {model : Model}

/-- Reading a list grows the model if reading an item does. -/
lemma reads_loadEach {α β : Type} {types : β → List TypeId} {load : α → Model → Loaded β}
    (hload : ∀ item {model : Model}, model.WellFormed → Reads types model (load item model)) :
    ∀ (items : List α) {model : Model}, model.WellFormed →
      Reads (fun values => values.flatMap types) model (loadEach load items model)
  | [], model, _ => .ok fun _ ht => absurd ht List.not_mem_nil
  | item :: rest, model, h => by
    have hfirst := hload item h
    rw [loadEach]
    rcases hf : load item model with ⟨error | first, mid⟩ <;> rw [hf] at hfirst
    · exact hfirst.fail
    · have hmid : mid.WellFormed := hfirst.grows.wellFormed h
      have hrest := reads_loadEach hload rest hmid
      dsimp only
      rcases hr : loadEach load rest mid with ⟨error | others, final⟩ <;> rw [hr] at hrest
      · exact .after hfirst.grows hrest.fail
      · refine .after hfirst.grows (.after hrest.grows (.ok fun type ht => ?_))
        rw [List.flatMap_cons, List.mem_append] at ht
        rcases ht with ht | ht
        · exact Nat.lt_of_lt_of_le (hfirst.lt_size first rfl type ht)
            hrest.grows.size_le
        · exact hrest.lt_size others rfl type ht

/-- A parameter. -/
lemma reads_loadParameter (declared : Json) (h : model.WellFormed) :
    Reads (fun p : Parameter => [p.type]) model (loadParameter declared model) := by
  unfold loadParameter
  dsimp only
  split
  · exact .error model rfl
  · next location _ =>
    have hres := reads_resolve h
      (((declared.get? "schema").or (contentSchema? declared)).getD declared)
      (declaredStyle? declared)
    split <;> rename_i hr <;> rw [hr] at hres
    · exact hres.fail
    · exact .after hres.grows (.ok (hres.lt_size _ rfl))

/-- A schema, or the type of anything. -/
lemma reads_resolveOrAny (schema : Option Json) (h : model.WellFormed) :
    Reads (fun id => [id]) model (resolveOrAny schema model) := by
  cases schema with
  | none => exact ⟨Resolves.intrinsic h "any", nofun⟩
  | some schema => exact reads_resolve h schema none

/-- A request body. -/
lemma reads_loadBody (body : Json) (h : model.WellFormed) :
    Reads (fun p : Parameter => [p.type]) model (loadBody body model) := by
  unfold loadBody
  split
  next resolved type mid hb =>
  have hres : Reads (fun id => [id]) model (type, mid) := by
    split at hb <;> rw [← (Prod.mk.inj hb).2]
    · exact reads_resolve h _ none
    · exact reads_resolveOrAny _ h
  split
  · exact hres.fail
  · exact .after hres.grows (.ok (hres.lt_size _ rfl))

/-- A response with one kind of content. -/
lemma reads_loadContent (status : Nat) (description : String) (content : String × Json)
    (h : model.WellFormed) :
    Reads (fun r : Response => [r.type]) model
      (loadContent status description content model) := by
  have hres := reads_resolveOrAny (content.2.get? "schema") h
  unfold loadContent
  split <;> rename_i hr <;> rw [hr] at hres
  · exact hres.fail
  · exact .after hres.grows (.ok (hres.lt_size _ rfl))

/-- The responses of a status. -/
lemma reads_loadStatus (entry : String × Json) (h : model.WellFormed) :
    Reads (fun responses : List Response => responses.flatMap fun r => [r.type]) model
      (loadStatus entry model) := by
  unfold loadStatus
  split
  · exact .ok fun _ ht => absurd ht List.not_mem_nil
  · split
    next hnone => exact .error model (Document.isEndless_of_deref?_eq_none hnone)
    · dsimp only
      split
      · exact reads_loadEach (fun content _ h => reads_loadContent _ _ content h) _ h
      · split
        · exact .after (.intrinsic "void" .refl) (.ok fun type ht => by
            obtain rfl := List.mem_singleton.mp ht
            exact h.fst_intrinsic_lt "void")
        · exact .ok fun _ ht => absurd ht List.not_mem_nil

/-- The responses of an operation. -/
lemma reads_loadResponses (operation : Json) (h : model.WellFormed) :
    Reads (fun responses : List Response => responses.flatMap fun r => [r.type]) model
      (loadResponses operation model) := by
  have hload := reads_loadEach (fun entry _ h => reads_loadStatus entry h)
    (((operation.get? "responses").bind Json.asObject?).getD []) h
  unfold loadResponses
  dsimp only
  split <;> rename_i hr <;> rw [hr] at hload
  · exact hload.fail
  · refine .after hload.grows (.ok fun type ht => hload.lt_size _ rfl type ?_)
    rwa [← List.flatMap_id, List.flatMap_assoc] at ht

/-- The parameters of an operation. -/
lemma reads_loadParameters (path operation : Json) (h : model.WellFormed) :
    Reads (fun parameters : List Parameter => parameters.flatMap fun p => [p.type]) model
      (loadParameters path operation model) := by
  unfold loadParameters
  split
  · next herror =>
    obtain ⟨_, _, _, -, -, hnone, rfl⟩ := mergedParameters_eq_error_iff.mp herror
    exact .error model (Document.isEndless_of_deref?_eq_none hnone)
  · next declared _ =>
    have hload := reads_loadEach (fun declared _ h => reads_loadParameter declared h) declared h
    split <;> rename_i hr <;> rw [hr] at hload
    · exact hload.fail
    · next parameters mid =>
      have hsub := hload.lt_size parameters rfl
      split
      · exact .after hload.grows (.ok hsub)
      · next body _ =>
        have hbody := reads_loadBody body (hload.grows.wellFormed h)
        split <;> rename_i hr <;> rw [hr] at hbody
        · exact .after hload.grows hbody.fail
        · refine .after hload.grows (.after hbody.grows (.ok fun type ht => ?_))
          rw [List.flatMap_append, List.mem_append] at ht
          rcases ht with ht | ht
          · exact Nat.lt_of_lt_of_le (hsub type ht) hbody.grows.size_le
          · exact hbody.lt_size _ rfl type (by simpa using ht)

/-- The method that an operation describes: its parameters and its responses are of types of the
grown model. -/
lemma reads_loadMethod (endpoint : String) (verb : Verb) (path operation : Json)
    (h : model.WellFormed) :
    Reads (fun method : Method => (method.parameters.flatMap fun p => [p.type]) ++
        method.responses.flatMap fun r => [r.type]) model
      (loadMethod endpoint verb path operation model) := by
  unfold loadMethod
  split
  · exact .error model rfl
  · next operationId _ =>
    have hparameters := reads_loadParameters path operation h
    split <;> rename_i hr <;> rw [hr] at hparameters
    · exact hparameters.fail
    · next parameters mid =>
      have hresponses := reads_loadResponses operation (hparameters.grows.wellFormed h)
      split <;> rename_i hr <;> rw [hr] at hresponses
      · exact .after hparameters.grows hresponses.fail
      · next responses final =>
        refine .after hparameters.grows (.after hresponses.grows ⟨⟨.refl, ?_⟩,
          fun _ herror hendless =>
            absurd ((isEndless_of_ofParts herror _).symm.trans hendless) Bool.false_ne_true⟩)
        intro method hm type ht
        obtain ⟨_, rfl⟩ := parts_of_ofParts hm
        rcases List.mem_append.mp ht with ht | ht
        · exact Nat.lt_of_lt_of_le (hparameters.lt_size _ rfl type ht) hresponses.grows.size_le
        · exact hresponses.lt_size _ rfl type ht

end Reads

/-! ## Operations -/

/-- The model with an operation recorded at a type. -/
def markUse (operationId : String) (model : Model) (id : TypeId) : Model :=
  model.modify id fun node => { node with methodRefs := node.methodRefs.insert operationId }

/-- Where a type is used is recorded at the type, and at the type inside it. -/
lemma recordUse_eq (operationId : String) (model : Model) (id : TypeId) :
    recordUse operationId model id =
      match (markUse operationId model id).customType? id with
      | some inner => markUse operationId (markUse operationId model id) inner
      | none => markUse operationId model id := rfl

/-- The second model comes from the first one by reading an operation: types are looked up, and then
its method is added, which uses types that are there, or its mistake is reported. -/
inductive ReadsTo (model : Model) : Model → Prop
  /-- The operation describes a method. -/
  | method {mid : Model} {method : Method} : model.GrowsTo mid →
      (∀ p ∈ method.parameters, p.type < mid.nodes.size) →
      (∀ r ∈ method.responses, r.type < mid.nodes.size) → ReadsTo model (mid.addMethod method)
  /-- The operation has a mistake in it, or leads to references that go round. -/
  | mistake {mid : Model} (subject : String) (error : SpecError) : model.GrowsTo mid →
      (error.isEndless mid.document = true → ∃ reference, mid.GoesRound reference) →
        ReadsTo model (mid.report subject error)

/-- An operation is read to its method, or to the mistake in it. -/
lemma WellFormed.readsTo {model : Model} (h : model.WellFormed) (endpoint : String) (verb : Verb)
    (path operation : Json) (subject : String) :
    model.ReadsTo (match model.loadMethod endpoint verb path operation with
      | (.ok method, mid) => mid.addMethod method
      | (.error error, mid) => mid.report subject error) := by
  have hload := reads_loadMethod endpoint verb path operation h
  rcases hr : model.loadMethod endpoint verb path operation with ⟨error | method, mid⟩ <;>
    rw [hr] at hload
  · exact .mistake subject error hload.grows (hload.exists_goesRound_grown error rfl)
  · have hlt := hload.lt_size method rfl
    refine .method hload.grows (fun p hp => hlt _ ?_) (fun r hr => hlt _ ?_)
    · exact List.mem_append_left _ (List.mem_flatMap.mpr ⟨p, hp, List.mem_singleton.mpr rfl⟩)
    · exact List.mem_append_right _ (List.mem_flatMap.mpr ⟨r, hr, List.mem_singleton.mpr rfl⟩)

/-- A path without an operation for a verb leaves a model as it is, and otherwise the operation is
read. -/
lemma WellFormed.loadOperation_cases {model : Model} (h : model.WellFormed) (endpoint : String)
    (path : Json) (verb : Verb) : loadOperation endpoint path model verb = model ∨
      model.ReadsTo (loadOperation endpoint path model verb) := by
  unfold loadOperation
  split
  · exact .inl rfl
  · exact .inr (h.readsTo endpoint verb path _ _)

namespace Fresh

variable {model : Model}

/-- Recording an operation at a type keeps a model fresh. -/
lemma markUse (h : model.Fresh) (operationId : String) (id : TypeId) :
    (Model.markUse operationId model id).Fresh :=
  h.modify (fun _ => rfl) (h.property_lt id)

/-- Recording where a type is used keeps a model fresh. -/
lemma recordUse (h : model.Fresh) (operationId : String) (id : TypeId) :
    (Model.recordUse operationId model id).Fresh := by
  rw [recordUse_eq]
  split
  · exact (h.markUse operationId id).markUse operationId _
  · exact h.markUse operationId id

/-- Recording where types are used loses no type. -/
lemma size_nodes_recordUse (operationId : String) (model : Model) (id : TypeId) :
    (Model.recordUse operationId model id).nodes.size = model.nodes.size := by
  rw [recordUse_eq]
  split <;> simp only [Model.markUse, size_nodes_modify]

/-- Putting an operation in a group keeps a model fresh. -/
lemma recordTag (h : model.Fresh) (operationId tag : String) :
    (Model.recordTag operationId model tag).Fresh :=
  ⟨⟨h.id_eq, h.names_iff, h.element_lt, h.source_lt, h.property_lt, h.ref_lt, h.derived_lt,
    h.parameter_lt, h.response_lt, h.operationId_eq⟩, h.derived_none, h.not_isDerived⟩

/-- Storing a method under its identifier keeps a model fresh, if it uses types of the model. -/
lemma insertMethod (h : model.Fresh) {method : Method}
    (hp : ∀ p ∈ method.parameters, p.type < model.nodes.size)
    (hr : ∀ r ∈ method.responses, r.type < model.nodes.size) :
    ({ model with methods := model.methods.insert method.operationId method } : Model).Fresh := by
  have hmethod : ∀ {operationId : String} {found : Method},
      (model.methods.insert method.operationId method)[operationId]? = some found →
        found = method ∧ operationId = method.operationId ∨
          model.methods[operationId]? = some found := by
    intro operationId found hf
    rw [Std.TreeMap.getElem?_insert] at hf
    split_ifs at hf with he
    · exact Or.inl ⟨(Option.some.inj hf).symm, (Std.LawfulEqCmp.eq_of_compare he).symm⟩
    · exact Or.inr hf
  refine ⟨⟨h.id_eq, h.names_iff, h.element_lt, h.source_lt, h.property_lt, h.ref_lt, h.derived_lt,
    fun operationId found hf => ?_, fun operationId found hf => ?_,
    fun operationId found hf => ?_⟩, h.derived_none, h.not_isDerived⟩
  · rcases hmethod hf with ⟨rfl, -⟩ | hold
    · exact hp
    · exact h.parameter_lt operationId found hold
  · rcases hmethod hf with ⟨rfl, -⟩ | hold
    · exact hr
    · exact h.response_lt operationId found hold
  · rcases hmethod hf with ⟨rfl, rfl⟩ | hold
    · rfl
    · exact h.operationId_eq operationId found hold

/-- Adding a method keeps a model fresh, if it uses types of the model. -/
lemma addMethod (h : model.Fresh) {method : Method}
    (hp : ∀ p ∈ method.parameters, p.type < model.nodes.size)
    (hr : ∀ r ∈ method.responses, r.type < model.nodes.size) :
    (Model.addMethod method model).Fresh := by
  have hused := List.foldlRecOn
    (motive := fun mid : Model => mid.Fresh ∧ mid.nodes.size = model.nodes.size)
    (method.parameters.map (·.type) ++ method.responses.map (·.type))
    (Model.recordUse method.operationId) ⟨h, rfl⟩ fun mid hmid id _ =>
      ⟨hmid.1.recordUse _ id, (size_nodes_recordUse _ mid id).trans hmid.2⟩
  obtain ⟨htagged, hsize⟩ := List.foldlRecOn
    (motive := fun mid : Model => mid.Fresh ∧ mid.nodes.size = model.nodes.size)
    method.groups (Model.recordTag method.operationId) hused fun _ hmid tag _ =>
      ⟨hmid.1.recordTag _ tag, hmid.2⟩
  exact htagged.insertMethod (fun p hpm => hsize ▸ hp p hpm) (fun r hrm => hsize ▸ hr r hrm)

/-- A model that an operation has been read to is fresh. -/
lemma read (h : model.Fresh) {new : Model} (hread : model.ReadsTo new) : new.Fresh := by
  cases hread with
  | method hgrows hp hr => exact (h.grow hgrows).addMethod hp hr
  | mistake subject error hgrows _ => exact (h.grow hgrows).report subject error

/-- Reading an operation keeps a model fresh. -/
theorem loadOperation (h : model.Fresh) (endpoint : String) (path : Json) (verb : Verb) :
    (Model.loadOperation endpoint path model verb).Fresh := by
  rcases h.toWellFormed.loadOperation_cases endpoint path verb with he | hread
  · rwa [he]
  · exact h.read hread

/-- The model of a document is fresh. -/
theorem ofDocument (document : Document) : (Model.ofDocument document).Fresh :=
  List.foldlRecOn _ _ (initial document).loadTypes fun _ hm entry _ =>
    List.foldlRecOn _ _ hm fun _ hm verb _ => hm.loadOperation entry.1 entry.2 verb

end Fresh

end ClientGen.Model
