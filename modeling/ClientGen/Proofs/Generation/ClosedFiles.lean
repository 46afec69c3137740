import ClientGen.Proofs.Generation.Backends
import ClientGen.Proofs.Generation.Listing

/-!
# The files for a document are closed

A file may refer to any type of the model at the time. Types only come into being while the files
are rendered, and they keep their names. The file of types is the last one, and it declares all
types there are then, apart from built-in types and containers, if the backend takes requests or if
there are no request types. The backend for TypeScript takes requests. The one for Python never asks
for request types, so there are none if there were none at first. So whatever is referred to is
declared, and just once.

## Main definitions

* `ClientGen.Language.IsDeclaration` — the declaration of a type in a language.
* `ClientGen.Model.DeclaredBy` — that some items declare all types that can be referred to.

## Main results

* `ClientGen.Language.rendersTypes` — how the backends render types.
* `ClientGen.Language.declares_of_isDeclarable` — which types they declare.
* `ClientGen.Language.generate_closed` — the files for a document refer to types that are declared.
-/

set_option autoImplicit false

namespace ClientGen

open Rendering

variable {backend : Backend} {Item : Model → TypeId → String → Prop} {model old new : Model}
  {pass : Pass} {items : List (String × String)} {id : Nat}

/-! ## Declarations -/

/-- The lines of a class with a name. -/
def Python.IsClass (name text : String) : Prop :=
  ∃ lines : List String, text = "\n".intercalate
    ("@attr.s(auto_attribs=True, kw_only=True)" :: ("class " ++ name ++ "(model.Model):") :: lines)

/-- An interface with a name, after its documentation. -/
def TypeScript.IsInterface (name text : String) : Prop :=
  ∃ doc body : String, text = docComment 0 doc ++ "export interface " ++ name ++ " " ++ body

/-- The declaration of a type with a name. -/
def Language.IsDeclaration : Language → String → String → Prop
  | .python => Python.IsClass
  | .typeScript => TypeScript.IsInterface

/-- A type is rendered as a class. -/
lemma Python.ensures_type (id : TypeId) : (Python.type 0 id).Ensures True pass fun text after =>
    pass.model = after.model ∧ IsClass (pass.model.nameOf id) text := by
  refine Ensures.node_bind (Ensures.ensureNamed_bind (fun _ => trivial) ?_)
  have hattributes : (((pass.model.node id).requiredProperties ++
      (pass.model.node id).optionalProperties).mapM (Python.property 1)).Ensures True pass
        fun _ after => pass.model = after.model :=
    Ensures.of_advances (Advances.mapM (advances_property 1) _)
  refine hattributes.bind fun attributes after hafter => ?_
  exact Ensures.pure ⟨hafter, _, rfl⟩

/-- A type is rendered as an interface. -/
lemma TypeScript.ensures_type (id : TypeId) :
    (TypeScript.type 0 id).Ensures True pass fun text after =>
      pass.model = after.model ∧ IsInterface (pass.model.nameOf id) text := by
  refine Ensures.node_bind (Ensures.ensureNamed_bind (fun _ => trivial) ?_)
  have hmembers : ((pass.model.node id).properties.mapM (TypeScript.property 1)).Ensures True pass
      fun _ after => pass.model = after.model :=
    Ensures.of_advances (Advances.mapM
      (fun _ => (Advances.spell spellings _).bind fun _ => .pure _) _)
  refine hmembers.bind fun members after hafter => ?_
  have hindent : indent 0 = "" := rfl
  simp only [hindent, String.append_empty]
  exact Ensures.pure ⟨hafter, _, _, rfl⟩

namespace Language

variable (language : Language)

/-- Rendering a type declares it and derives nothing. -/
lemma rendersTypes : language.backend.RendersTypes True fun model id =>
    language.IsDeclaration (model.nameOf id) where
  type pass id _ _ := by
    have htype : (language.backend.type 0 id).Ensures True pass fun text after =>
        pass.model = after.model ∧ language.IsDeclaration (pass.model.nameOf id) text := by
      cases language with
      | python => exact Python.ensures_type id
      | typeScript => exact TypeScript.ensures_type id
    refine htype.imp fun text after hafter => ⟨Or.inl hafter.1.symm, ?_⟩
    rw [← hafter.1]
    exact hafter.2
  item _ _ _ _ _ _ he hd h := by
    rwa [he.nameOf_eq (Backend.lt_size_of_isDeclarable hd)]

/-- The head and the end of the file of types derive nothing. -/
lemma modelsFrame : language.backend.modelsHead.Advances Eq ∧
    language.backend.modelsEnd.Advances Eq := by
  cases language with
  | python => exact ⟨.fileHead _, .pure _⟩
  | typeScript => exact ⟨.fileHead _, .pure _⟩

/-- If there are no derived types before a pass, all types that may be declared afterwards are. -/
lemma declares_of_isDeclarable (h : model.Fresh) {apiVersion packageName : String} {result : Pass}
    (hresult : (model.generate language.backend apiVersion packageName).2 = result)
    (hd : (result.model.node id).kind.IsDeclarable) :
    language.backend.Declares (result.model.node id).kind := by
  have hrequest : ∀ operationId, (result.model.node id).kind = .request operationId →
      language.backend.takesRequests = true := by
    intro operationId hk
    cases language with
    | typeScript => rfl
    | python =>
      have hkeeps : Python.backend.Advances
          (Model.Keeps fun model => model.Settled ∧ model.HasNoRequests) :=
        Python.advances_backend fun id _ hm => ⟨hm.1.writeType id, hm.2.writeType hm.1 id⟩
      have hno := (hkeeps.files { model, apiVersion, packageName }
        ⟨h.settled, h.hasNoRequests⟩).2
      rw [← hresult] at hk
      exact absurd hk (hno id operationId)
  cases hk : (result.model.node id).kind with
  | request operationId => exact hrequest operationId hk
  | write source => trivial
  | component => trivial
  | _ => rw [hk] at hd; exact hd.elim

end Language

/-! ## Closed files -/

/-- The items declare each type that can be referred to just once: the type inside all containers,
if it is not built in. -/
def Model.DeclaredBy (items : List (String × String)) (model : Model) : Prop :=
  ∀ id inner : TypeId, model.customType? id = some inner →
    (items.map Prod.fst).count (model.nameOf inner) = 1

namespace Model.DeclaredBy

/-- Items that declare all types of an extension declare those of the model. -/
lemma of_extends (h : new.DeclaredBy items) (hold : old.WellFormed) (hnew : new.WellFormed)
    (he : old.Extends old.nodes.size new) : old.DeclaredBy items := by
  intro id inner hinner
  obtain ⟨rfl, hno⟩ := customType?_eq_some.mp hinner
  have hlt : old.innermost id < old.nodes.size := (lt_size_of_customType? hinner).2
  have hsame : new.innermost (old.innermost id) = old.innermost id := by
    rw [he.innermost_eq hold hnew hlt, innermost_of_not_container (hold.element?_innermost id)]
  have hcustom : new.customType? (old.innermost id) = some (old.innermost id) :=
    customType?_eq_some.mpr ⟨hsame.symm, by rwa [he.isIntrinsic_eq hlt]⟩
  rw [← he.nameOf_eq hlt]
  exact h _ _ hcustom

/-- They declare whatever the file of a pass refers to. -/
lemma count_eq_one (h : pass.model.DeclaredBy items) {name : String}
    (hname : name ∈ pass.referencedNames) : (items.map Prod.fst).count name = 1 := by
  rw [Pass.referencedNames, Std.TreeSet.mem_toList, Pass.referenced, Std.TreeSet.mem_ofList,
    List.contains_iff_mem, List.mem_map] at hname
  obtain ⟨inner, hmem, rfl⟩ := hname
  obtain ⟨id, -, hinner⟩ := List.mem_filterMap.mp hmem
  exact h id inner hinner

end Model.DeclaredBy

/-- A type that can be referred to may be declared. -/
lemma Model.WellFormed.isDeclarable_of_customType? (h : model.WellFormed) {inner : TypeId}
    (hinner : model.customType? id = some inner) : (model.node inner).kind.IsDeclarable := by
  obtain ⟨rfl, hno⟩ := customType?_eq_some.mp hinner
  have hleaf : (model.node (model.innermost id)).element? = none := h.element?_innermost id
  cases hk : (model.node (model.innermost id)).kind with
  | intrinsic => simp [TypeNode.isIntrinsic, hk] at hno
  | container wrapper element => exact kind_ne_container hleaf wrapper element hk
  | _ => trivial

/-- The items of the types that are declared declare whatever can be referred to, if all types are
declared that may be. -/
lemma Backend.Lists.declaredBy (h : backend.Lists Item model items) (hwf : model.WellFormed)
    (hall : ∀ id : TypeId, (model.node id).kind.IsDeclarable →
      backend.Declares (model.node id).kind) : model.DeclaredBy items :=
  fun _ inner hinner => h.count_eq_one (hall inner (hwf.isDeclarable_of_customType? hinner))

/-! ## Passes -/

namespace Backend

/-- All files of a pass, one after another. -/
lemma files_eq (backend : Backend) : backend.files = backend.methodsFile >>= fun methods =>
    (if backend.hasStreams then some <$> backend.streamsFile else pure none) >>= fun streams =>
      backend.modelsFile >>= fun models => pure { methods, streams, models } := by
  unfold files
  split <;> rfl

/-- The file of streams, if there is one, advances the model. -/
lemma Advances.streams {R : Model → Model → Prop} [IsPreorder Model R] (h : backend.Advances R) :
    (if backend.hasStreams then some <$> backend.streamsFile else pure none :
      Rendering (Option String)).Advances R := by
  split
  · exact h.streamsFile.map some
  · exact .pure none

/-- What the files of a pass ensure: they are rendered one after another, and the last one has the
items of the types that there are afterwards. -/
lemma RendersTypes.files (hb : backend.RendersTypes True Item)
    (hadvances : backend.Advances Model.DerivesTo) (hhead : backend.modelsHead.Advances Eq)
    (hend : backend.modelsEnd.Advances Eq) (hset : pass.model.Settled) :
    backend.files.Ensures True pass fun files final =>
      ∃ (items : List (String × String)) (head ending : String) (afterMethods afterStreams : Pass),
        backend.methodsFile.run.run pass = (.ok files.methods, afterMethods) ∧
        (if backend.hasStreams then some <$> backend.streamsFile else pure none).run.run
          afterMethods = (.ok files.streams, afterStreams) ∧
        backend.modelsFile.run.run afterStreams = (.ok files.models, final) ∧
        files.models = assemble head
          (backend.comment 0 ((backend.tallyAll final.model).header items.length))
          (items.map Prod.snd) ending ∧
        backend.Lists Item final.model items ∧
        pass.model.DerivesTo afterMethods.model ∧
        afterMethods.model.DerivesTo afterStreams.model ∧
        afterStreams.model.DerivesTo final.model := by
  have hmethods : backend.methodsFile.Ensures True pass fun _ after =>
      pass.model.DerivesTo after.model := .of_advances hadvances.methodsFile
  rw [files_eq]
  refine hmethods.with_run.bind fun methods afterMethods hafterMethods => ?_
  obtain ⟨hrunMethods, hderivesMethods⟩ := hafterMethods
  have hstreams : (if backend.hasStreams then some <$> backend.streamsFile else pure none :
      Rendering (Option String)).Ensures True afterMethods fun _ after =>
        afterMethods.model.DerivesTo after.model := .of_advances hadvances.streams
  refine hstreams.with_run.bind fun streams afterStreams hafterStreams => ?_
  obtain ⟨hrunStreams, hderivesStreams⟩ := hafterStreams
  have hsettled : afterStreams.model.Settled :=
    hset.derivesTo (hderivesMethods.trans hderivesStreams)
  have hframe : ∀ {frame : Rendering String}, frame.Advances Eq → ∀ pass : Pass,
      frame.Ensures True pass fun _ after => True ∧ after.model = pass.model :=
    fun h _ => (Ensures.of_advances h).imp fun _ _ hmodel => ⟨trivial, hmodel.symm⟩
  have hmodels := (hb.modelsFile hsettled (Or.inl trivial) (hframe hhead) (hframe hend)).with_run
  refine hmodels.bind fun models final hfinal => ?_
  obtain ⟨hrunModels, walked, mid, -, -, hwalked, head, ending, -, -, htext⟩ := hfinal
  exact Ensures.pure ⟨walked.rendered.toList, head, ending, afterMethods, afterStreams, hrunMethods,
    hrunStreams, hrunModels, htext, hwalked.lists, hderivesMethods, hderivesStreams,
    hwalked.derivesTo⟩

end Backend

/-- The files for a document in a language, without the operations that are not wanted, are closed.
They are rendered one after another, and the last one has items that declare types. While they are
rendered, the model comes from the first one by derivations, and the last one comes from it. Just
one item has the name of each type of such a model, with the type inside all containers standing
for the type if it is not built in. In particular each type that a file refers to is declared just
once. -/
theorem Language.generate_closed (language : Language) (document : Document)
    (included excluded : List String) (apiVersion packageName : String) {model : Model}
    {files : Files} {final : Pass}
    (hmodel : (Model.ofDocument document).retain included excluded = model)
    (h : model.generate language.backend apiVersion packageName = (.ok files, final)) :
    ∃ (items : List (String × String)) (head ending : String) (afterMethods afterStreams : Pass),
      language.backend.methodsFile.run.run { model, apiVersion, packageName } =
        (.ok files.methods, afterMethods) ∧
      (if language.backend.hasStreams then some <$> language.backend.streamsFile
        else pure none).run.run afterMethods = (.ok files.streams, afterStreams) ∧
      language.backend.modelsFile.run.run afterStreams = (.ok files.models, final) ∧
      files.models = assemble head
        (language.backend.comment 0
          ((language.backend.tallyAll final.model).header items.length))
        (items.map Prod.snd) ending ∧
      (∀ entry ∈ items, language.IsDeclaration entry.1 entry.2) ∧
      (∀ moment : Model, model.DerivesTo moment → moment.DerivesTo final.model →
        moment.DeclaredBy items) ∧
      ∀ stage ∈ [afterMethods, afterStreams, final],
        model.DerivesTo stage.model ∧ stage.model.DerivesTo final.model ∧
          ∀ name ∈ stage.referencedNames, (items.map Prod.fst).count name = 1 := by
  have hfresh : model.Fresh := hmodel ▸ (Model.Fresh.ofDocument document).retain included excluded
  have hset : model.Settled := hfresh.settled
  have hstart : ({ model, apiVersion, packageName } : Pass).model.Settled := hset
  have hfiles := (language.rendersTypes.files
    (Backend.OnlyDerives.iff_advances.mp language.onlyDerives_backend) language.modelsFrame.1
    language.modelsFrame.2 hstart).of_ok h
  obtain ⟨items, head, ending, afterMethods, afterStreams, hmethods, hstreams, hmodels, htext,
    hlists, hfirst, hsecond, hthird⟩ := hfiles
  have hfinal : final.model.Settled := hset.derivesTo (hfirst.trans (hsecond.trans hthird))
  have hdeclared : final.model.DeclaredBy items := hlists.declaredBy hfinal.toWellFormed fun _ =>
    language.declares_of_isDeclarable hfresh (congrArg Prod.snd h)
  have hmoment : ∀ moment : Model, model.DerivesTo moment → moment.DerivesTo final.model →
      moment.DeclaredBy items := by
    intro moment hbefore hafter
    have hsettled : moment.Settled := hset.derivesTo hbefore
    exact hdeclared.of_extends hsettled.toWellFormed hfinal.toWellFormed
      (hsettled.extends_of_derivesTo hafter)
  refine ⟨items, head, ending, afterMethods, afterStreams, hmethods, hstreams, hmodels, htext,
    fun entry hentry => ?_, hmoment, fun stage hstage => ?_⟩
  · obtain ⟨id, -, hname, hitem⟩ := hlists.item entry hentry
    rwa [← hname]
  · have hderives : model.DerivesTo stage.model ∧ stage.model.DerivesTo final.model := by
      simp only [List.mem_cons, List.not_mem_nil, or_false] at hstage
      rcases hstage with rfl | rfl | rfl
      · exact ⟨hfirst, hsecond.trans hthird⟩
      · exact ⟨hfirst.trans hsecond, hthird⟩
      · exact ⟨hfirst.trans (hsecond.trans hthird), .refl⟩
    exact ⟨hderives.1, hderives.2, fun name hname =>
      (hmoment stage.model hderives.1 hderives.2).count_eq_one hname⟩

/-- The sample document has files for TypeScript. The file of types refers to three types, one of
which is derived, and declares each of them by one interface. -/
theorem Language.generate_closed_sample : ∃ (items : List (String × String)) (files : Files)
    (final : Pass),
    ((Model.ofDocument Model.Reachable.sampleDocument).retain [] []).generate TypeScript.backend
      "4.0" "sample" = (.ok files, final) ∧
    final.referencedNames = ["Log", "User", "WriteUser"] ∧
    (∀ name ∈ final.referencedNames, (items.map Prod.fst).count name = 1) ∧
    ∀ entry ∈ items, TypeScript.IsInterface entry.1 entry.2 := by
  have hrun : (((Model.ofDocument Model.Reachable.sampleDocument).retain [] []).generate
        TypeScript.backend "4.0" "sample").1.isOk = true ∧
      (((Model.ofDocument Model.Reachable.sampleDocument).retain [] []).generate
        TypeScript.backend "4.0" "sample").2.referencedNames = ["Log", "User", "WriteUser"] := by
    decide +kernel
  obtain ⟨hok, hnames⟩ := hrun
  rcases hgenerate : ((Model.ofDocument Model.Reachable.sampleDocument).retain [] []).generate
    TypeScript.backend "4.0" "sample" with ⟨error | files, final⟩
  · rw [hgenerate] at hok
    exact absurd hok Bool.false_ne_true
  · rw [hgenerate] at hnames
    obtain ⟨items, _, _, _, _, -, -, -, -, hitems, -, hstages⟩ :=
      generate_closed .typeScript Model.Reachable.sampleDocument [] [] "4.0" "sample" rfl hgenerate
    exact ⟨items, files, final, rfl, hnames, (hstages final (by simp)).2.2, hitems⟩

end ClientGen
