import ClientGen.Proofs.Generation.ClosedFiles
import ClientGen.Proofs.Generation.Repetition

/-!
# Generating files again

Files that have been generated once are generated again from the model that is left behind. The
methods find the types that were derived for them the first time. They may make containers anew
where the name of a container is taken, and the file of types does not show those: it goes through
the same types as before, and writes each of them the same.

## Main definitions

* `ClientGen.Backend.declareItem` — looking at a type, as far as the file of types shows it.
* `ClientGen.Backend.declaredTypes` — the types that the file of types shows.
* `ClientGen.Backend.methodsAndStreams` — the first part of a pass.
* `ClientGen.Backend.IsRepeatable` — backends that render the same again.

## Main results

* `ClientGen.Backend.run_modelsFile` — the file of types shows the declared types only.
* `ClientGen.Backend.run_files_iff` — a pass consists of that part and the file of types.
* `ClientGen.Language.generate_again` — files are generated again as they were.
-/

set_option autoImplicit false

namespace ClientGen

open Rendering

/-! ## Growing adds no types that are declared -/

namespace Model

variable {old new : Model} {id : Nat}

/-- A type that may be declared was there before the model grew. -/
lemma GrowsTo.lt_size_of_isDeclarable (h : old.GrowsTo new)
    (hd : (new.node id).kind.IsDeclarable) : id < old.nodes.size := by
  have hadd : ∀ {mid : Model} {base : String} (kind : TypeKind), ¬kind.IsDeclarable →
      ((mid.add base kind .null).2.node id).kind.IsDeclarable →
        (mid.node id).kind.IsDeclarable := by
    intro mid base kind hkind hnew
    rw [node_add] at hnew
    split_ifs at hnew with hid
    · exact absurd hnew hkind
    · exact hnew
  induction h with
  | refl => exact Backend.lt_size_of_isDeclarable hd
  | @intrinsic mid name _ ih =>
    rcases add_of_intrinsic mid name with ⟨found, -, he⟩ | he <;> rw [he] at hd
    · exact ih hd
    · exact ih (hadd .intrinsic (fun hc => hc) hd)
  | @container mid wrapper element _ _ ih =>
    rcases add_of_container mid wrapper element with ⟨found, -, he⟩ | he <;> rw [he] at hd
    · exact ih hd
    · exact ih (hadd (.container wrapper element) (fun hc => hc) hd)

end Model

namespace Backend

variable {backend : Backend} {old new model : Model}

/-- The types that the file of types shows, by name. -/
def declaredTypes (backend : Backend) (model : Model) : List (String × TypeId) :=
  model.types.filter fun entry => backend.Declares (model.node entry.2).kind

/-- The types that the file of types shows are those of some kinds. -/
lemma mem_declaredTypes (h : model.WellFormed) {name : String} {id : Nat} :
    (name, id) ∈ backend.declaredTypes model ↔
      model.nameOf id = name ∧ backend.Declares (model.node id).kind := by
  rw [declaredTypes, List.mem_filter, h.mem_types_iff, decide_eq_true_eq]
  constructor
  · rintro ⟨⟨-, hname⟩, hd⟩
    exact ⟨hname, hd⟩
  · rintro ⟨hname, hd⟩
    exact ⟨⟨lt_size_of_isDeclarable (isDeclarable_of_declares hd), hname⟩, hd⟩

/-- The types that the file of types shows are in the order of their names. -/
lemma pairwise_declaredTypes (backend : Backend) (model : Model) :
    (backend.declaredTypes model).Pairwise fun first second => first.1 < second.1 := by
  have hordered := Std.TreeMap.ordered_keys_toList (t := model.names)
  exact (hordered.imp fun hlt => compareOfLessAndEq_eq_lt.mp hlt).filter _

/-- The file of types shows the same types after the model has grown.

**Proof sketch.** Both lists are in the order of the names, so it is enough that they have the same
members. -/
theorem declaredTypes_eq (h : old.GrowsTo new) (hold : old.WellFormed) :
    backend.declaredTypes new = backend.declaredTypes old := by
  have hnew : new.WellFormed := h.wellFormed hold
  have he : old.Extends old.nodes.size new := h.toExtends (Nat.le_refl _)
  have hnodup : ∀ model, (backend.declaredTypes model).Nodup := fun model => by
    refine (pairwise_declaredTypes backend model).imp ?_
    rintro first _ hlt rfl
    exact String.lt_irrefl _ hlt
  have hmem : ∀ entry, entry ∈ backend.declaredTypes new ↔ entry ∈ backend.declaredTypes old := by
    rintro ⟨name, id⟩
    rw [mem_declaredTypes hnew, mem_declaredTypes hold]
    constructor
    · rintro ⟨hname, hd⟩
      have hlt := h.lt_size_of_isDeclarable (isDeclarable_of_declares hd)
      rw [he.nameOf_eq hlt] at hname
      rw [he.kind_eq hlt] at hd
      exact ⟨hname, hd⟩
    · rintro ⟨hname, hd⟩
      have hlt := lt_size_of_isDeclarable (isDeclarable_of_declares hd)
      rw [he.nameOf_eq hlt, he.kind_eq hlt]
      exact ⟨hname, hd⟩
  refine ((List.perm_ext_iff_of_nodup (hnodup new) (hnodup old)).mpr hmem).eq_of_pairwise ?_
    (pairwise_declaredTypes backend new) (pairwise_declaredTypes backend old)
  intro _ _ _ _ h₁ h₂
  exact absurd (String.lt_trans h₁ h₂) (String.lt_irrefl _)

/-! ## What the file of types shows -/

/-- What the file of types shows of some declarations. -/
def shown (declarations : Declarations) : Std.TreeMap String String × Tally :=
  (declarations.rendered, declarations.tally)

/-- What the file of types shows after a type has been looked at. -/
def declareItem (backend : Backend) (items : Std.TreeMap String String × Tally)
    (entry : String × TypeId) : Rendering (Std.TreeMap String String × Tally) := do
  let node ← Rendering.node entry.2
  match backend.tallied? items.2 node.kind with
  | none => return items
  | some tally =>
    Rendering.ensureNamed node
    let text ← backend.type 0 entry.2
    return (items.1.insert entry.1 text, tally)

/-- Looking at a type shows what it shows. -/
lemma map_declare (backend : Backend) (declarations : Declarations) (entry : String × TypeId) :
    shown <$> backend.declare declarations entry =
      backend.declareItem (shown declarations) entry := by
  unfold declare declareItem
  dsimp only
  rw [map_bind]
  refine bind_congr fun node => ?_
  show shown <$> (match backend.tallied? declarations.tally node.kind with
    | none => _
    | some tally => _) = match backend.tallied? declarations.tally node.kind with
    | none => _
    | some tally => _
  cases backend.tallied? declarations.tally node.kind with
  | none => exact map_pure _ _
  | some tally =>
    simp only [map_bind, map_pure]
    rfl

/-- Looking at some types shows what they show. -/
lemma map_foldlM_declare (backend : Backend) :
    ∀ (entries : List (String × TypeId)) (declarations : Declarations),
      shown <$> entries.foldlM backend.declare declarations =
        entries.foldlM backend.declareItem (shown declarations)
  | [], declarations => map_pure _ _
  | entry :: rest, declarations => by
    rw [List.foldlM_cons, List.foldlM_cons, map_bind, ← map_declare, bind_map_left]
    exact bind_congr fun value => map_foldlM_declare backend rest value

/-- Rendering an item of the file of types leaves the model as it is. -/
lemma advances_declareItem (htype : ∀ id, (backend.type 0 id).Advances Eq)
    (items : Std.TreeMap String String × Tally) (entry : String × TypeId) :
    (backend.declareItem items entry).Advances Eq := by
  refine (Advances.node entry.2).bind fun node => ?_
  split
  · exact .pure _
  · exact (Advances.ensureNamed node).bind fun _ => (htype entry.2).bind fun _ => .pure _

/-- Looking at a type puts it among those that have been looked at. -/
lemma ensures_visited (pass : Pass) (declarations : Declarations) (entry : String × TypeId) :
    (backend.declare declarations entry).Ensures True pass fun walked _ =>
      walked.visited = entry.2 :: declarations.visited := by
  have htrivial : (backend.type 0 entry.2).Ensures True pass fun _ _ => True := by
    unfold Ensures
    split <;> trivial
  refine Ensures.node_bind ?_
  dsimp only
  split
  · exact Ensures.pure rfl
  · exact Ensures.ensureNamed_bind (fun _ => trivial) (htrivial.bind fun _ _ _ => Ensures.pure rfl)

/-- A round looks at all types that it goes through. -/
lemma mem_visited_of_foldlM {pass after : Pass} {entries : List (String × TypeId)}
    {declarations walked : Declarations}
    (h : (entries.foldlM backend.declare declarations).run.run pass = (.ok walked, after)) :
    ∀ entry ∈ entries, entry.2 ∈ walked.visited := by
  let holds (left : List (String × TypeId)) (walked : Declarations) (_ : Pass) : Prop :=
    ∀ entry ∈ entries, entry.2 ∈ walked.visited ∨ entry ∈ left
  have hstep : ∀ entry rest walked pass, holds (entry :: rest) walked pass →
      (backend.declare walked entry).Ensures True pass (holds rest) := by
    intro entry rest walked pass hw
    refine (ensures_visited pass walked entry).imp fun next _ hvisited other hother => ?_
    rw [hvisited, List.mem_cons]
    rcases hw other hother with hv | hl
    · exact Or.inl (Or.inr hv)
    · rcases List.mem_cons.mp hl with rfl | hr
      · exact Or.inl (Or.inl rfl)
      · exact Or.inr hr
  have hall := (Ensures.foldlM hstep entries (fun _ hentry => Or.inr hentry)).of_ok h
  exact fun entry hentry => (hall entry hentry).resolve_right List.not_mem_nil

/-- If rendering a type leaves the model as it is, one round looks at all types.

**Proof sketch.** The model is the same after the first round, which has looked at all types, so
there is nothing to do in the others. -/
lemma run_declarations (htype : ∀ id, (backend.type 0 id).Advances Eq) {pass : Pass}
    (h : pass.model.WellFormed) : backend.declarations.run.run pass =
      (pass.model.types.foldlM backend.declare {}).run.run pass := by
  have hpending : ({} : Declarations).pending pass.model = pass.model.types := by
    simp [Declarations.pending]
  show (backend.declareRounds (pass.model.nodes.size + 2) {}).run.run pass = _
  rw [run_declareRounds_succ, hpending]
  split_ifs with hnil
  · rw [List.isEmpty_iff.mp hnil]
    rfl
  · rw [ExceptT.run_bind, StateT.run_bind]
    rcases hr : (pass.model.types.foldlM backend.declare {}).run.run pass with
      ⟨error | walked, after⟩
    · rfl
    · have hsame : pass.model = after.model := by
        have hadvances : (shown <$> pass.model.types.foldlM backend.declare {}).Advances Eq := by
          rw [map_foldlM_declare]
          exact Advances.foldlM (advances_declareItem htype) _ _
        have hmap := hadvances pass
        rw [← bind_pure_comp, run_bind_of_ok hr] at hmap
        exact hmap
      have hall : ∀ id < after.model.nodes.size, id ∈ walked.visited := by
        intro id hid
        rw [← hsame] at hid
        exact mem_visited_of_foldlM hr (pass.model.nameOf id, id)
          (h.mem_types_iff.mpr ⟨hid, rfl⟩)
      exact declareRounds_of_visited (hsame ▸ h) hall _

/-- The types that are not declared are not shown.

**Proof sketch.** Induction on the types to look at. A type that is not declared changes nothing,
and rendering one that is leaves the model as it is, so that the same types are declared after
it. -/
lemma run_foldlM_filter (htype : ∀ id, (backend.type 0 id).Advances Eq) :
    ∀ (entries : List (String × TypeId)) (items : Std.TreeMap String String × Tally) (pass : Pass),
      (entries.foldlM backend.declareItem items).run.run pass =
        ((entries.filter fun entry => backend.Declares (pass.model.node entry.2).kind).foldlM
          backend.declareItem items).run.run pass
  | [], _, _ => rfl
  | entry :: rest, items, pass => by
    by_cases hd : backend.Declares (pass.model.node entry.2).kind
    · rw [List.filter_cons_of_pos (by simpa using hd), List.foldlM_cons, List.foldlM_cons,
        ExceptT.run_bind, ExceptT.run_bind, StateT.run_bind, StateT.run_bind]
      have hmodel := advances_declareItem htype items entry pass
      rcases hr : (backend.declareItem items entry).run.run pass with ⟨error | shown, mid⟩
      · rfl
      · rw [hr] at hmodel
        have hrest := run_foldlM_filter htype rest shown mid
        rw [← hmodel] at hrest
        exact hrest
    · have hskip : (backend.declareItem items entry).run.run pass = (.ok items, pass) := by
        show StateT.run (ExceptT.run (match backend.tallied? items.2 (pass.model.node entry.2).kind
          with
          | none => _
          | some tally => _)) pass = _
        rw [tallied?_of_not hd]
        rfl
      rw [List.filter_cons_of_neg (by simpa using hd), List.foldlM_cons, run_bind_of_ok hskip]
      exact run_foldlM_filter htype rest items pass

/-- The rest of the file of types, after its items are known. -/
def modelsRest (backend : Backend) (items : Std.TreeMap String String × Tally) :
    Rendering String := do
  let head ← backend.modelsHead
  let ending ← backend.modelsEnd
  return assemble head (backend.comment 0 (items.2.header items.1.values.length)) items.1.values
    ending

/-- The file of types as it is rendered for some types that it shows. -/
def showModels (backend : Backend) (entries : List (String × TypeId)) : Rendering String :=
  Rendering.beginFile .models >>= fun _ =>
    entries.foldlM backend.declareItem (∅, {}) >>= backend.modelsRest

/-- The file of types shows the declared types only. -/
theorem run_modelsFile (htype : ∀ id, (backend.type 0 id).Advances Eq) {pass : Pass}
    (h : pass.model.WellFormed) : backend.modelsFile.run.run pass =
      (backend.showModels (backend.declaredTypes pass.model)).run.run pass := by
  have hfile : backend.modelsFile = Rendering.beginFile .models >>= fun _ =>
      (shown <$> backend.declarations) >>= backend.modelsRest := by
    simp only [bind_map_left]
    rfl
  have hshown : (shown <$> backend.declarations).run.run
        { pass with file := .models, counts := ∅ } =
      ((backend.declaredTypes pass.model).foldlM backend.declareItem (∅, {})).run.run
        { pass with file := .models, counts := ∅ } := by
    have hrun : backend.declarations.run.run { pass with file := .models, counts := ∅ } =
        (pass.model.types.foldlM backend.declare {}).run.run
          { pass with file := .models, counts := ∅ } := run_declarations htype h
    rw [declaredTypes, ← run_foldlM_filter htype pass.model.types (∅, {})
      { pass with file := .models, counts := ∅ }]
    show _ = (pass.model.types.foldlM backend.declareItem (shown {})).run.run _
    rw [← map_foldlM_declare, ← bind_pure_comp, ← bind_pure_comp, ExceptT.run_bind,
      StateT.run_bind, hrun, ExceptT.run_bind, StateT.run_bind]
  rw [hfile, showModels]
  show (shown <$> backend.declarations >>= backend.modelsRest).run.run _ =
    ((backend.declaredTypes pass.model).foldlM backend.declareItem (∅, {}) >>=
      backend.modelsRest).run.run _
  rw [ExceptT.run_bind, StateT.run_bind, hshown, ExceptT.run_bind, StateT.run_bind]

/-! ## The parts of a pass -/

/-- The file of methods and the file of streams, if there is one. -/
def methodsAndStreams (backend : Backend) : Rendering (String × Option String) :=
  backend.methodsFile >>= fun methods =>
    (if backend.hasStreams then some <$> backend.streamsFile else pure none) >>= fun streams =>
      pure (methods, streams)

/-- A pass renders the files of methods and streams, and then the file of types. -/
lemma run_files_iff {pass final : Pass} {files : Files} :
    backend.files.run.run pass = (.ok files, final) ↔ ∃ mid : Pass,
      backend.methodsAndStreams.run.run pass = (.ok (files.methods, files.streams), mid) ∧
        backend.modelsFile.run.run mid = (.ok files.models, final) := by
  have hfiles : backend.files = backend.methodsAndStreams >>= fun front =>
      backend.modelsFile >>= fun models =>
        pure { methods := front.1, streams := front.2, models } := by
    simp only [files_eq, methodsAndStreams, bind_assoc, pure_bind]
  rw [hfiles]
  constructor
  · intro h
    obtain ⟨front, mid, hfront, hrest⟩ := exists_of_run_bind h
    obtain ⟨models, last, hmodels, hlast⟩ := exists_of_run_bind hrest
    obtain ⟨hvalue, rfl⟩ := Prod.mk.inj hlast
    obtain rfl := Except.ok.inj hvalue
    exact ⟨mid, hfront, hmodels⟩
  · rintro ⟨mid, hfront, hmodels⟩
    rw [run_bind_of_ok hfront, run_bind_of_ok hmodels]
    rfl

/-! ## Backends that render the same again -/

/-- Whatever the backend renders of a well-formed model, it renders the same again, and rendering a
type leaves the model as it is. -/
structure IsRepeatable (backend : Backend) : Prop where
  advances : backend.Advances Model.DerivesTo
  type_eq : ∀ id, (backend.type 0 id).Advances Eq
  modelsHead_eq : backend.modelsHead.Advances Eq
  modelsEnd_eq : backend.modelsEnd.Advances Eq
  type : ∀ (start : Model) (id : TypeId), start.WellFormed → id < start.nodes.size →
    Repeats start (backend.type 0 id)
  method : ∀ (start : Model) (method : Method), method.TypesBelow start.nodes.size →
    Repeats start (backend.method 1 method)
  streamer : ∀ (start : Model) (method : Method), method.TypesBelow start.nodes.size →
    Repeats start (backend.streamer 1 method)
  methodsHead : ∀ start : Model, Repeats start backend.methodsHead
  methodsEnd : ∀ start : Model, Repeats start backend.methodsEnd
  streamsHead : ∀ start : Model, Repeats start backend.streamsHead
  modelsHead : ∀ start : Model, Repeats start backend.modelsHead
  modelsEnd : ∀ start : Model, Repeats start backend.modelsEnd

namespace IsRepeatable

variable {start : Model} (hb : backend.IsRepeatable)

include hb

/-- Rendering an item of the file of types repeats. -/
lemma declareItem (h : start.WellFormed) {entry : String × TypeId}
    (hid : entry.2 < start.nodes.size) (items : Std.TreeMap String String × Tally) :
    Repeats start (backend.declareItem items entry) := by
  refine Repeats.node_bind hid (fun _ => rfl) (fun node => ?_) ?_
  · split
    · exact .pure _
    · exact (Advances.ensureNamed node).bind fun _ =>
        (hb.type start entry.2 h hid).derives.bind fun _ => .pure _
  · split
    · exact .pure _
    · exact (Repeats.ensureNamed _).bind fun _ =>
        (hb.type start entry.2 h hid).bind fun _ => .pure _

/-- The file of types repeats, for types of the model to begin with. -/
lemma showModels (h : start.WellFormed) {entries : List (String × TypeId)}
    (hentries : ∀ entry ∈ entries, entry.2 < start.nodes.size) :
    Repeats start (backend.showModels entries) :=
  (Repeats.beginFile .models).bind fun _ =>
    (Repeats.foldlM entries _ fun entry hentry => hb.declareItem h (hentries entry hentry)).bind
      fun _ => (hb.modelsHead start).bind fun _ => (hb.modelsEnd start).bind fun _ => .pure _

/-- A file of items for the methods repeats. -/
lemma ofMethods (h : start.WellFormed) (file : FileKind) {render : Method → Rendering String}
    {head : Rendering String} (hderives : ∀ method, (render method).Advances Model.DerivesTo)
    (hrender : ∀ method : Method, method.TypesBelow start.nodes.size →
      Repeats start (render method)) (hhead : Repeats start head) :
    Repeats start (Rendering.beginFile file >>= fun _ => (do
      let methods := (← get).model.methods.values
      let items ← methods.mapM render
      let head ← head
      let ending ← backend.methodsEnd
      return assemble head (backend.methodsHeader methods.length) items ending)) := by
  let next (methods : List Method) : Rendering String := do
    let items ← methods.mapM render
    let head ← head
    let ending ← backend.methodsEnd
    return assemble head (backend.methodsHeader methods.length) items ending
  have hnext : ∀ methods, (next methods).Advances Model.DerivesTo := fun methods =>
    (Advances.mapM hderives methods).bind fun _ => hhead.derives.bind fun _ =>
      hb.advances.methodsEnd.bind fun _ => .pure _
  have hitems : Repeats start (start.methods.values.mapM render) :=
    .mapM _ fun method hmethod => hrender method (h.typesBelow hmethod)
  have hstart : Repeats start (next start.methods.values) :=
    hitems.bind fun _ => hhead.bind fun _ => (hb.methodsEnd start).bind fun _ => .pure _
  exact (Repeats.beginFile file).bind fun _ => Repeats.methods_bind hnext hstart

/-- The file of methods and the file of streams, if there is one, repeat. -/
lemma methodsAndStreams (h : start.WellFormed) : Repeats start backend.methodsAndStreams := by
  have hmethods : Repeats start backend.methodsFile :=
    hb.ofMethods h .methods (hb.advances.method 1) (hb.method start) (hb.methodsHead start)
  have hstreams : Repeats start backend.streamsFile :=
    hb.ofMethods h .streams (hb.advances.streamer 1) (hb.streamer start) (hb.streamsHead start)
  refine hmethods.bind fun _ => Repeats.bind ?_ fun _ => .pure _
  split_ifs
  · exact hstreams.map some
  · exact .pure none

/-- The file of types leaves the model as it is. -/
lemma modelsFile_eq {pass : Pass} (h : pass.model.WellFormed) :
    pass.model = (backend.modelsFile.run.run pass).2.model := by
  rw [run_modelsFile hb.type_eq h]
  have hshow : (backend.showModels (backend.declaredTypes pass.model)).Advances Eq :=
    (Advances.beginFile .models).bind fun _ =>
      (Advances.foldlM (advances_declareItem hb.type_eq) _ _).bind fun _ =>
        hb.modelsHead_eq.bind fun _ => hb.modelsEnd_eq.bind fun _ => .pure _
  exact hshow pass

/-- The file of types is rendered again as it was after the model has grown.

**Proof sketch.** It shows the same types, and each of them is rendered as it was. -/
lemma modelsFile_again {first second mid : Pass} {text : String} (hmatch : first.Matches second)
    (hrun : backend.modelsFile.run.run first = (.ok text, mid))
    (hgrows : first.model.GrowsTo second.model) :
    ∃ last, backend.modelsFile.run.run second = (.ok text, last) ∧
      second.model.GrowsTo last.model := by
  have hfirst : first.model.WellFormed := hmatch.first_sound.settled.toWellFormed
  have hsame : first.model = mid.model := by
    have h := hb.modelsFile_eq hfirst
    rwa [hrun] at h
  rw [run_modelsFile hb.type_eq hfirst] at hrun
  rw [run_modelsFile hb.type_eq hmatch.second_sound.settled.toWellFormed,
    declaredTypes_eq hgrows hfirst]
  have hentries : ∀ entry ∈ backend.declaredTypes first.model,
      entry.2 < first.model.nodes.size := fun entry hentry =>
    lt_size_of_isDeclarable (isDeclarable_of_declares ((mem_declaredTypes hfirst).mp hentry).2)
  obtain ⟨last, hlast, -, hgrowsLast⟩ := (hb.showModels hfirst hentries).again (.refl _ _) hmatch
    hrun (hsame ▸ hgrows.toExtends (Nat.le_refl _))
  exact ⟨last, hlast, hgrowsLast⟩

end IsRepeatable

end Backend

/-- The backend of each language renders the same again. -/
lemma Language.isRepeatable_backend (language : Language) : language.backend.IsRepeatable := by
  have hadvances := Backend.OnlyDerives.iff_advances.mp language.onlyDerives_backend
  cases language with
  | python =>
    exact {
      advances := hadvances
      type_eq := fun id => Python.advances_type 0 id
      modelsHead_eq := .fileHead _
      modelsEnd_eq := .pure _
      type := fun _ id h hid => Python.repeats_type h hid 0
      method := fun _ _ h => Python.repeats_method h 1
      streamer := fun _ _ _ => .throw _
      methodsHead := fun _ => .fileHead _
      methodsEnd := fun _ => .pure _
      streamsHead := fun _ => .pure _
      modelsHead := fun _ => .fileHead _
      modelsEnd := fun _ => .pure _ }
  | typeScript =>
    exact {
      advances := hadvances
      type_eq := fun id => TypeScript.advances_type 0 id
      modelsHead_eq := .fileHead _
      modelsEnd_eq := .pure _
      type := fun _ id h hid => TypeScript.repeats_type h hid 0
      method := fun _ _ h => (TypeScript.repeats_call h).bind fun _ => .pure _
      streamer := fun _ _ h => (TypeScript.repeats_call h).bind fun _ => .pure _
      methodsHead := fun _ => .fileHead _
      methodsEnd := fun _ => .pure _
      streamsHead := fun _ => .fileHead _
      modelsHead := fun _ => .fileHead _
      modelsEnd := fun _ => .pure _ }

/-- A pass that begins has referred to nothing. -/
lemma Pass.sound_of_reachable {model : Model} (h : model.Reachable)
    (apiVersion packageName : String) : ({ model, apiVersion, packageName } : Pass).Sound :=
  ⟨h, fun _ hid => absurd hid Std.TreeMap.not_mem_emptyc⟩

/-- Passes that begin match. -/
lemma Pass.matches_of_reachable {first second : Model} (hfirst : first.Reachable)
    (hsecond : second.Reachable) (apiVersion packageName : String) :
    Pass.Matches { model := first, apiVersion, packageName }
      { model := second, apiVersion, packageName } :=
  ⟨sound_of_reachable hfirst _ _, sound_of_reachable hsecond _ _, rfl, rfl, rfl,
    fun _ => iff_of_false (fun ⟨_, hid, _⟩ => absurd hid Std.TreeMap.not_mem_emptyc)
      (fun ⟨_, hid, _⟩ => absurd hid Std.TreeMap.not_mem_emptyc)⟩

/-- If files in a language have been generated for a model that can be reached, the same files are
generated again for the model that is left behind, and that grows by containers at most.

**Proof sketch.** The files of methods and streams repeat in the model that is left behind. In what
that model has grown to, the file of types shows the same types. -/
theorem Language.generate_again (language : Language) {model : Model} (h : model.Reachable)
    {apiVersion packageName : String} {files : Files} {final : Pass}
    (hrun : model.generate language.backend apiVersion packageName = (.ok files, final)) :
    ∃ last : Pass,
      final.model.generate language.backend apiVersion packageName = (.ok files, last) ∧
        final.model.GrowsTo last.model := by
  have hb := language.isRepeatable_backend
  obtain ⟨mid, hfront, hmodels⟩ := Backend.run_files_iff.mp hrun
  have hrepeats := hb.methodsAndStreams h.settled.toWellFormed
  have hmid : mid.model.Reachable := by
    have hderives := hrepeats.derives { model, apiVersion, packageName }
    rw [hfront] at hderives
    exact h.derivesTo hderives
  -- The file of types leaves the model as it is, so both passes over it start with that of `mid`.
  have hsame : mid.model = final.model := by
    have heq := hb.modelsFile_eq hmid.settled.toWellFormed
    rwa [hmodels] at heq
  rw [← hsame]
  obtain ⟨between, hbetween, hmatch, hgrows⟩ := hrepeats.again (.refl _ _)
    (Pass.matches_of_reachable h hmid apiVersion packageName) hfront (.refl _ _)
  obtain ⟨last, hlast, hgrowsLast⟩ := hb.modelsFile_again hmatch hmodels hgrows
  exact ⟨last, Backend.run_files_iff.mpr ⟨between, hbetween, hlast⟩, hgrows.trans hgrowsLast⟩

/-- The files of the sample document for TypeScript, for which two types and a container are made,
are generated again as they were. -/
theorem Language.generate_again_sample : ∃ (files : Files) (final last : Pass),
    (Model.ofDocument Model.Reachable.sampleDocument).generate TypeScript.backend "4.0" "sample" =
      (.ok files, final) ∧
    (Model.ofDocument Model.Reachable.sampleDocument).nodes.size = 25 ∧
    final.model.nodes.size = 28 ∧
    final.model.generate TypeScript.backend "4.0" "sample" = (.ok files, last) := by
  have hrun : ((Model.ofDocument Model.Reachable.sampleDocument).generate TypeScript.backend "4.0"
        "sample").1.isOk = true ∧
      (Model.ofDocument Model.Reachable.sampleDocument).nodes.size = 25 ∧
      ((Model.ofDocument Model.Reachable.sampleDocument).generate TypeScript.backend "4.0"
        "sample").2.model.nodes.size = 28 := by
    decide +kernel
  obtain ⟨hok, hbefore, hafter⟩ := hrun
  obtain ⟨files, final, hgenerate⟩ := exists_of_isOk hok
  have hfinal : ((Model.ofDocument Model.Reachable.sampleDocument).generate TypeScript.backend
      "4.0" "sample").2 = final := congrArg Prod.snd hgenerate
  obtain ⟨last, hlast, -⟩ := generate_again .typeScript
    (.ofDocument Model.Reachable.sampleDocument) hgenerate
  exact ⟨files, final, last, hgenerate, hbefore, hfinal ▸ hafter, hlast⟩

end ClientGen
