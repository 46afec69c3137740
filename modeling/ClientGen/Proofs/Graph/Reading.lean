import ClientGen.Proofs.Graph.Loading

/-!
# What each step of reading a document keeps

Reading a document is a sequence of small steps. A built-in type or a container is looked up and
added where it is missing, the properties of a declared schema are filled in, a mistake is
reported, and what a method uses is recorded. So what each of the steps keeps is kept by reading
the whole document, whichever of its parts have mistakes.

## Main definitions

* `ClientGen.Model.IsKeptByLookup` — a property of models that adding a missing type keeps.
* `ClientGen.Model.IsKeptByLoading` — one that the steps in reading a declared schema keep, too.
* `ClientGen.Model.IsKeptByReading` — one that the steps in reading an operation keep, too.

## Main results

* `ClientGen.Model.IsKeptByLookup.grow` — it is kept by resolving schemas.
* `ClientGen.Model.IsKeptByLoading.loadTypes` — it is kept by reading the declared schemas.
* `ClientGen.Model.IsKeptByReading.loadMethods` — it is kept by reading the operations.
* `ClientGen.Model.IsKeptByReading.ofDocument` — so it holds in the model of a document.
-/

set_option autoImplicit false

namespace ClientGen.Model

variable {P : Model → Prop} {model new : Model}

/-! ## Looking up types -/

/-- The property is kept by adding a built-in type, and by adding a container. -/
structure IsKeptByLookup (P : Model → Prop) : Prop where
  /-- A built-in type is added. -/
  intrinsic : ∀ {model : Model} (name : String), model.Fresh → P model →
    P (model.add name .intrinsic .null).2
  /-- A container of a type is added, to which its name does not lead. -/
  container : ∀ {model : Model} (wrapper : Wrapper) {element : Nat}, model.Fresh →
    element < model.nodes.size →
      (∀ id, model.names[model.containerName wrapper element]? = some id →
        (model.node id).kind ≠ .container wrapper element) → P model →
      P (model.add (model.containerName wrapper element) (.container wrapper element) .null).2

namespace IsKeptByLookup

/-- Growing keeps the property. -/
theorem grow (hP : IsKeptByLookup P) (h : model.Fresh) (hg : model.GrowsTo new)
    (hmodel : P model) : P new := by
  induction hg with
  | refl => exact hmodel
  | intrinsic name hg ih => exact keeps_intrinsic ih (hP.intrinsic name (h.grow hg) ih)
  | container wrapper helt hg ih =>
    exact keeps_container ih fun hnot => hP.container wrapper (h.grow hg) helt hnot ih

/-- The property holds in the model of built-in types, if it does in the model without any. -/
lemma initial (hP : IsKeptByLookup P) {document : Document} (hempty : P { document }) :
    P (Model.initial document) := by
  have hstart : ({ document } : Model).Fresh :=
    ⟨wellFormed_empty document, fun _ => by simp, fun _ => by simp [node, default,
      TypeKind.IsDerived]⟩
  exact (List.foldlRecOn (motive := fun mid : Model => mid.Fresh ∧ P mid) intrinsicNames
    (fun mid name => (mid.add name .intrinsic .null).2) ⟨hstart, hempty⟩
    fun _ hmid name _ => ⟨hmid.1.add trivial id, hP.intrinsic name hmid.1 hmid.2⟩).2

end IsKeptByLookup

/-! ## Declared schemas -/

/-- The property is kept by each step in reading the properties of a declared schema. -/
structure IsKeptByLoading (P : Model → Prop) : Prop extends IsKeptByLookup P where
  /-- The properties of a type are filled in. -/
  fill : ∀ {model : Model} {id : Nat} {properties : List Property}, model.Fresh →
    (∀ p ∈ properties, p.type < model.nodes.size) → P model →
      P (model.modify id fun node => { node with
        properties, customTypes := node.customTypes.union (model.customTypeNames properties) })
  /-- A mistake is reported, or that references go round. -/
  report : ∀ {model : Model} (subject : String) (error : SpecError), model.Fresh →
    (error.isEndless model.document = true → ∃ reference, model.GoesRound reference) → P model →
      P (model.report subject error)

namespace IsKeptByLoading

/-- Reading properties keeps the property. -/
lemma loadProperties (hP : IsKeptByLoading P) (owner : String) (required : List String) :
    ∀ (entries : List (String × Json)) {model : Model}, model.Fresh → P model →
      P (Model.loadProperties owner required entries model).2
  | [], _, _, hmodel => hmodel
  | (name, schema) :: rest, model, h, hmodel => by
    have hres := reads_resolve h.toWellFormed schema none
    have hmid := hP.grow h hres.grows hmodel
    rcases hr : resolve schema none model with ⟨error | type, mid⟩ <;> rw [hr] at hres hmid
    · simp only [Model.loadProperties, hr]
      exact loadProperties hP owner required rest ((h.grow hres.grows).report _ _)
        (hP.report _ error (h.grow hres.grows) (hres.exists_goesRound_grown error rfl) hmid)
    · simp only [Model.loadProperties, hr]
      exact loadProperties hP owner required rest (h.grow hres.grows) hmid

/-- Reading a declared schema keeps the property. -/
lemma loadSchema (hP : IsKeptByLoading P) (h : model.Fresh) (stem : String)
    (entry : String × Json) (hmodel : P model) : P (Model.loadSchema stem model entry) := by
  obtain ⟨name, schema⟩ := entry
  unfold Model.loadSchema
  dsimp only
  split
  next id members _ _ =>
    obtain ⟨hfresh, -, hlt⟩ := h.loadProperties name (requiredNames schema) members
    exact hP.fill hfresh hlt (hP.loadProperties name (requiredNames schema) members h hmodel)
  next => exact hmodel

/-- Reading declared schemas one after the other keeps the property. -/
lemma loadSchemas (hP : IsKeptByLoading P) (h : model.Fresh) (stem : String)
    (entries : List (String × Json)) (hmodel : P model) :
    (entries.foldl (Model.loadSchema stem) model).Fresh ∧
      P (entries.foldl (Model.loadSchema stem) model) :=
  List.foldlRecOn (motive := fun mid : Model => mid.Fresh ∧ P mid) entries _ ⟨h, hmodel⟩
    fun _ hmid entry _ => ⟨hmid.1.loadSchema stem entry, hP.loadSchema hmid.1 stem entry hmid.2⟩

/-- Reading all declared schemas keeps the property, if declaring a schema does. -/
theorem loadTypes (hP : IsKeptByLoading P)
    (hdeclare : ∀ {model : Model} (stem : String) (entry : String × Json), model.Fresh → P model →
      P (Model.declare stem model entry))
    (h : model.Fresh) (hmodel : P model) : P model.loadTypes := by
  have hdeclared := List.foldlRecOn (motive := fun mid : Model => mid.Fresh ∧ P mid)
    (model.document.schemas?.getD []) (Model.declare model.document.schemaReferenceStem)
    ⟨h, hmodel⟩ fun _ hmid entry _ => ⟨hmid.1.declare _ entry, hdeclare _ entry hmid.1 hmid.2⟩
  exact (hP.loadSchemas hdeclared.1 _ _ hdeclared.2).2

end IsKeptByLoading

/-! ## Operations -/

/-- The property is kept by each step in reading an operation. -/
structure IsKeptByReading (P : Model → Prop) : Prop extends IsKeptByLoading P where
  /-- A type is used by an operation. -/
  use : ∀ {model : Model} (operationId : String) (id : TypeId), model.Fresh → P model →
    P (markUse operationId model id)
  /-- An operation is put in a group. -/
  tag : ∀ {model : Model} (operationId tag : String), model.Fresh → P model →
    P (Model.recordTag operationId model tag)
  /-- A method is stored under its identifier. -/
  method : ∀ {model : Model} (method : Method), P model →
    P { model with methods := model.methods.insert method.operationId method }

namespace IsKeptByReading

/-- Recording where a type is used keeps the property. -/
lemma recordUse (hP : IsKeptByReading P) (h : model.Fresh) (operationId : String) (id : TypeId)
    (hmodel : P model) : P (Model.recordUse operationId model id) := by
  rw [recordUse_eq]
  split
  · exact hP.use operationId _ (h.markUse operationId id) (hP.use operationId id h hmodel)
  · exact hP.use operationId id h hmodel

/-- Adding a method keeps the property. -/
lemma addMethod (hP : IsKeptByReading P) (h : model.Fresh) (method : Method) (hmodel : P model) :
    P (Model.addMethod method model) := by
  have hused := List.foldlRecOn (motive := fun mid : Model => mid.Fresh ∧ P mid)
    (method.parameters.map (·.type) ++ method.responses.map (·.type))
    (Model.recordUse method.operationId) ⟨h, hmodel⟩ fun _ hmid id _ =>
      ⟨hmid.1.recordUse method.operationId id, hP.recordUse hmid.1 method.operationId id hmid.2⟩
  have htagged := List.foldlRecOn (motive := fun mid : Model => mid.Fresh ∧ P mid) method.groups
    (Model.recordTag method.operationId) hused fun _ hmid tag _ =>
      ⟨hmid.1.recordTag method.operationId tag, hP.tag method.operationId tag hmid.1 hmid.2⟩
  exact hP.method method htagged.2

/-- The property holds of a model that an operation has been read to. -/
lemma read (hP : IsKeptByReading P) (h : model.Fresh) (hmodel : P model)
    (hread : model.ReadsTo new) : P new := by
  cases hread with
  | method hgrows _ _ => exact hP.addMethod (h.grow hgrows) _ (hP.grow h hgrows hmodel)
  | mistake subject error hgrows hendless =>
    exact hP.report subject error (h.grow hgrows) hendless (hP.grow h hgrows hmodel)

/-- Reading an operation keeps the property. -/
lemma loadOperation (hP : IsKeptByReading P) (h : model.Fresh) (endpoint : String) (path : Json)
    (verb : Verb) (hmodel : P model) : P (Model.loadOperation endpoint path model verb) := by
  rcases h.toWellFormed.loadOperation_cases endpoint path verb with he | hread
  · rwa [he]
  · exact hP.read h hmodel hread

/-- Reading all operations keeps the property. -/
theorem loadMethods (hP : IsKeptByReading P) (h : model.Fresh) (hmodel : P model) :
    model.loadMethods.Fresh ∧ P model.loadMethods :=
  List.foldlRecOn (motive := fun mid : Model => mid.Fresh ∧ P mid) _ _ ⟨h, hmodel⟩
    fun _ hmid entry _ =>
      List.foldlRecOn (motive := fun mid : Model => mid.Fresh ∧ P mid) _ _ hmid
        fun _ hm verb _ => ⟨hm.1.loadOperation entry.1 entry.2 verb,
          hP.loadOperation hm.1 entry.1 entry.2 verb hm.2⟩

/-- The property holds in the model of a document, if it does in the model of built-in types and
declaring a schema keeps it. -/
theorem ofDocument (hP : IsKeptByReading P)
    (hdeclare : ∀ {model : Model} (stem : String) (entry : String × Json), model.Fresh → P model →
      P (Model.declare stem model entry))
    {document : Document} (hinitial : P (Model.initial document)) :
    P (Model.ofDocument document) :=
  have hfresh := Fresh.initial document
  (hP.loadMethods hfresh.loadTypes (hP.loadTypes hdeclare hfresh hinitial)).2

end IsKeptByReading

/-! ## The document of a model -/

/-- Reading a document leaves the model one of that document. -/
lemma isKeptByReading_document (document : Document) :
    IsKeptByReading fun model => model.document = document where
  intrinsic _ _ h := h
  container _ _ _ _ _ h := h
  fill _ _ h := h
  report _ _ _ _ h := h
  use _ _ _ h := h
  tag _ _ _ h := h
  method _ h := h

/-- The model of the built-in types is one of its document. -/
lemma document_initial (document : Document) : (Model.initial document).document = document :=
  (isKeptByReading_document document).initial rfl

/-- The model of the declared schemas is one of their document. -/
lemma document_loadTypes (document : Document) :
    (Model.initial document).loadTypes.document = document :=
  (isKeptByReading_document document).loadTypes (fun _ _ _ h => h) (.initial document)
    (document_initial document)

/-- The model of a document is one of that document. -/
lemma document_ofDocument (document : Document) :
    (Model.ofDocument document).document = document :=
  (isKeptByReading_document document).ofDocument (fun _ _ _ h => h) (document_initial document)

end ClientGen.Model
