import ClientGen.Proofs.Schemas.Registration

/-!
# Loading comes to an end

Loading a document looks up the types of properties, parameters, bodies and responses. All these
lookups find the references of the declared schemas, and no others. So if one of them does not come
to an end, then references of the document go round, and a document whose references end is loaded.

## Main definitions

* `ClientGen.Model.EndsUnlessRound` — that no lookup has failed to come to an end before a model was
  reached, unless references go round.

## Main results

* `ClientGen.Model.exists_goesRound_of_mem_ofDocument` — if a lookup does not come to an end, then
  references of the document go round.
* `ClientGen.Model.load_eq_some_iff` — what is loaded, if loading comes to an end.
* `ClientGen.Model.exists_load_of_referencesEnd` — loading comes to an end if references do.
-/

set_option autoImplicit false

namespace ClientGen.Model

variable {document : Document} {model : Model}

/-- The model has the document and the references of a first one, and no lookup before it failed to
come to an end, unless references of the first one go round. -/
structure EndsUnlessRound (start model : Model) : Prop where
  document_eq : model.document = start.document
  refs_eq : model.refs = start.refs
  exists_goesRound : ∀ diagnostic ∈ model.diagnostics,
    diagnostic.error.isEndless start.document = true → ∃ reference, start.GoesRound reference

namespace EndsUnlessRound

variable {start new : Model}

/-- Nothing but the document, the references and the reports matters. -/
lemma congr (h : EndsUnlessRound start model) (hdocument : new.document = model.document)
    (hrefs : new.refs = model.refs) (hdiagnostics : new.diagnostics = model.diagnostics) :
    EndsUnlessRound start new where
  document_eq := hdocument.trans h.document_eq
  refs_eq := hrefs.trans h.refs_eq
  exists_goesRound := hdiagnostics ▸ h.exists_goesRound

/-- A mistake is reported in such a model, or a lookup that shows references that go round. -/
lemma report (h : EndsUnlessRound start model) (subject : String) {error : SpecError}
    (hendless : error.isEndless model.document = true → ∃ reference, model.GoesRound reference) :
    EndsUnlessRound start (model.report subject error) where
  document_eq := h.document_eq
  refs_eq := h.refs_eq
  exists_goesRound diagnostic hd hdiagnostic := by
    rcases Array.mem_push.mp hd with hold | rfl
    · exact h.exists_goesRound diagnostic hold hdiagnostic
    · simp only [GoesRound, h.document_eq, h.refs_eq] at hendless
      exact hendless hdiagnostic

end EndsUnlessRound

/-- Each step of reading the contents of a document leads to such a model. -/
lemma isKeptByReading_endsUnlessRound (start : Model) :
    IsKeptByReading (EndsUnlessRound start) where
  intrinsic _ _ h := h.congr rfl rfl rfl
  container _ _ _ _ _ h := h.congr rfl rfl rfl
  fill _ _ h := h.congr rfl rfl rfl
  report subject _ _ hendless h := h.report subject hendless
  use _ _ _ h := h.congr rfl rfl rfl
  tag _ _ _ h := h.congr rfl rfl rfl
  method _ h := h.congr rfl rfl rfl

/-- When the schemas of a document have just been declared, nothing has been reported. -/
lemma diagnostics_declared (document : Document) : (declared document).diagnostics = #[] :=
  List.foldlRecOn (motive := fun mid : Model => mid.diagnostics = #[]) _ _
    (List.foldlRecOn (motive := fun mid : Model => mid.diagnostics = #[]) _ _ rfl
      fun _ hmid _ _ => hmid) fun _ hmid _ _ => hmid

/-- References go round in the model of the declared schemas just if they do in the document. -/
lemma goesRound_declared_iff {reference : String} : (declared document).GoesRound reference ↔
    document.GoesRound document.declaresReference reference := by
  have hknown : (declared document).refs.contains = document.declaresReference := by
    funext reference
    rw [Bool.eq_iff_iff, ← Std.TreeMap.mem_iff_contains, ← (keepsTypes_declared document).refs_eq,
      mem_refs_ofDocument, Document.declaresReference, List.any_eq_true, List.mem_map]
    simp
  rw [GoesRound, hknown, ← (keepsTypes_declared document).document_eq, document_ofDocument]

/-- If a lookup does not come to an end while a document is read, then references go round. -/
theorem exists_goesRound_of_mem_ofDocument {diagnostic : Diagnostic}
    (h : diagnostic ∈ (ofDocument document).diagnostics)
    (hendless : diagnostic.error.isEndless document = true) :
    ∃ reference, document.GoesRound document.declaresReference reference := by
  have hkept := isKeptByReading_endsUnlessRound (declared document)
  have hdeclared : EndsUnlessRound (declared document) (declared document) :=
    ⟨rfl, rfl, fun diagnostic hd => by simp [diagnostics_declared] at hd⟩
  obtain ⟨hfresh, hschemas⟩ := hkept.loadSchemas (fresh_declared document)
    document.schemaReferenceStem (document.schemas?.getD []) hdeclared
  have hread := (hkept.loadMethods hfresh hschemas).2
  rw [ofDocument, loadTypes, document_initial] at h
  obtain ⟨reference, hround⟩ := hread.exists_goesRound diagnostic h (by
    rwa [← (keepsTypes_declared document).document_eq, document_ofDocument])
  exact ⟨reference, goesRound_declared_iff.mp hround⟩

/-- What is loaded, if loading comes to an end, is the model of the document. Whatever has been
reported in it is a mistake. -/
lemma load_eq_some_iff : load document = some model ↔ model = ofDocument document ∧
    ∀ diagnostic ∈ model.diagnostics, diagnostic.error.isEndless document = false := by
  rw [load, Option.ite_none_left_eq_some, Option.some_inj, eq_comm (b := model), and_comm]
  refine and_congr_right fun hmodel => ?_
  rw [hmodel, Bool.not_eq_true, Array.any_eq_false']
  simp only [Bool.not_eq_true]

/-- Loading a document comes to an end if its references do. -/
theorem exists_load_of_referencesEnd (h : document.ReferencesEnd) :
    ∃ model, load document = some model :=
  ⟨_, load_eq_some_iff.mpr ⟨rfl, fun _ hd => Bool.eq_false_iff.mpr fun hendless =>
    let ⟨reference, hround⟩ := exists_goesRound_of_mem_ofDocument hd hendless
    h reference hround⟩⟩

/-- A document with a request body that refers to itself, and an operation that takes it. -/
def circularDocument : Document where
  root := .object [
    ("components", .object [("requestBodies", .object [("A", .object [
      ("content", .object [("application/json", .object [
        ("schema", .object [("$ref", .string "#/components/requestBodies/A")])])])])])]),
    ("paths", .object [("/a", .object [("post", .object [
      ("operationId", .string "send"),
      ("requestBody", .object [("$ref", .string "#/components/requestBodies/A")])])])])]

example : ¬circularDocument.ReferencesEnd ∧ (load circularDocument).isNone = true := by
  decide +kernel

end ClientGen.Model
