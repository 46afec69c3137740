import ClientGen.Proofs.MethodViews
import ClientGen.Proofs.Schemas.Registration
import ClientGen.Proofs.Traversal

/-!
# Each declared schema is represented

After the declared schemas are registered, their properties are read, schema by schema. Each
property becomes a property of the type that stands for the schema, or a report. Reading it only
adds types that are missing, so what has been read stays as it is, and what is read later finds
all schemas declared.

## Main definitions

* `ClientGen.Model.propertyOutcomes`, `ClientGen.Model.schemaOutcomes` — what becomes of the
  properties of a schema, and of those of all schemas.
* `ClientGen.keptProperties`, `ClientGen.propertyReports` — the properties and the reports among
  outcomes.
* `ClientGen.Model.KeepsContents` — that a type keeps its properties and what it refers to.
* `ClientGen.Model.Represents` — a type that stands for a schema, with the properties of the schema.

## Main results

* `ClientGen.Model.loadProperties_eq` — reading properties is reading one after the other.
* `ClientGen.Model.represents_loadSchema`, `ClientGen.Model.represents_foldl_loadSchema` — one
  schema is read into its own type, and so all of them are.
* `ClientGen.Model.schemas_represented` — the declared schemas in the model of a document.
-/

set_option autoImplicit false

namespace ClientGen

/-! ## What becomes of properties -/

/-- A property that a schema declares, with its type or with the mistake in it. -/
abbrev PropertyOutcome := (String × Json) × Except SpecError TypeId

/-- A declared schema with what becomes of its properties. -/
abbrev SchemaOutcome := (String × Json) × List PropertyOutcome

/-- The properties that a schema declares. -/
def declaredProperties (schema : Json) : List (String × Json) :=
  ((schema.get? "properties").bind Json.asObject?).getD []

/-- The properties that have a type. -/
def keptProperties (required : List String) (outcomes : List PropertyOutcome) : List Property :=
  outcomes.filterMap fun
    | ((name, schema), .ok type) => some (.ofSchema name type schema (required.contains name))
    | (_, .error _) => none

/-- The reports of the properties that have none. -/
def propertyReports (owner : String) (outcomes : List PropertyOutcome) : List Diagnostic :=
  outcomes.filterMap fun
    | ((name, _), .error error) => some ⟨owner ++ "." ++ name, error⟩
    | (_, .ok _) => none

/-- The reports of properties of schemas. -/
def schemaReports (outcomes : List SchemaOutcome) : List Diagnostic :=
  outcomes.flatMap fun outcome => propertyReports outcome.1.1 outcome.2

/-- The type has no properties and refers to no other types. -/
structure TypeNode.IsBlank (node : TypeNode) : Prop where
  properties_eq : node.properties = []
  customTypes_eq : node.customTypes = ∅

namespace Model

/-- The model after a property has been read. If it has no type, that is reported. -/
def readProperty (owner : String) (model : Model) (entry : String × Json) : Model :=
  match model.resolve entry.2 none with
  | (.ok _, model) => model
  | (.error error, model) => model.report (owner ++ "." ++ entry.1) error

/-- What becomes of each property, when they are read one after the other. -/
def propertyOutcomes (owner : String) : List (String × Json) → Model → List PropertyOutcome
  | [], _ => []
  | entry :: rest, model =>
    (entry, (model.resolve entry.2 none).1) ::
      propertyOutcomes owner rest (readProperty owner model entry)

/-- What becomes of the properties of each schema, when they are read one after the other. -/
def schemaOutcomes (stem : String) : List (String × Json) → Model → List SchemaOutcome
  | [], _ => []
  | entry :: rest, model =>
    (entry, model.propertyOutcomes entry.1 (declaredProperties entry.2)) ::
      schemaOutcomes stem rest (loadSchema stem model entry)

variable {model old mid new : Model} {stem owner : String} {entry other : String × Json}
  {outcome : SchemaOutcome} {id : Nat}

/-- Each property has one outcome. -/
lemma map_fst_propertyOutcomes : ∀ (entries : List (String × Json)) (model : Model),
    (model.propertyOutcomes owner entries).map Prod.fst = entries
  | [], _ => rfl
  | entry :: rest, model => by
    rw [propertyOutcomes, List.map_cons, map_fst_propertyOutcomes rest]

/-- Each schema has one outcome. -/
lemma map_fst_schemaOutcomes : ∀ (entries : List (String × Json)) (model : Model),
    (model.schemaOutcomes stem entries).map Prod.fst = entries
  | [], _ => rfl
  | entry :: rest, model => by
    rw [schemaOutcomes, List.map_cons, map_fst_schemaOutcomes rest]

/-- The outcomes of a schema are those of the properties that it declares. -/
lemma map_fst_of_mem_schemaOutcomes : ∀ (entries : List (String × Json)) {model : Model},
    outcome ∈ model.schemaOutcomes stem entries →
      outcome.2.map Prod.fst = declaredProperties outcome.1.2
  | [], _, h => absurd h List.not_mem_nil
  | entry :: rest, model, h => by
    rcases List.mem_cons.mp h with rfl | hrest
    · exact map_fst_propertyOutcomes _ model
    · exact map_fst_of_mem_schemaOutcomes rest hrest

/-- Reading properties is reading them one after the other, and keeping those that have a type. -/
theorem loadProperties_eq (owner : String) (required : List String) :
    ∀ (entries : List (String × Json)) (model : Model),
      loadProperties owner required entries model =
        (keptProperties required (model.propertyOutcomes owner entries),
          entries.foldl (readProperty owner) model)
  | [], _ => rfl
  | (name, schema) :: rest, model => by
    rw [loadProperties, propertyOutcomes, List.foldl_cons, readProperty]
    rcases hr : resolve schema none model with ⟨error | type, mid⟩
    · simp only [loadProperties_eq owner required rest]
      rfl
    · simp only [loadProperties_eq owner required rest]
      rfl

/-! ## What reading a property does -/

/-- Reading a property reports its mistake, if it has one. -/
lemma diagnostics_readProperty (h : model.Fresh) :
    (readProperty owner model entry).diagnostics.toList =
      model.diagnostics.toList ++
        propertyReports owner [(entry, (model.resolve entry.2 none).1)] := by
  have hgrows := (resolves_resolve h.toWellFormed entry.2 none).grows
  have hsame := (hgrows.toExtends (Nat.zero_le _)).diagnostics_eq
  rw [readProperty]
  rcases hr : resolve entry.2 none model with ⟨error | type, mid⟩ <;> rw [hr] at hsame <;>
    dsimp only at hsame
  · simp [report, hsame, propertyReports]
  · simp [hsame, propertyReports]

/-- Reading a property keeps a model fresh, and keeps its types. -/
lemma fresh_readProperty (owner : String) (entry : String × Json) (h : model.Fresh) :
    (readProperty owner model entry).Fresh ∧ model.KeepsTypes (readProperty owner model entry) := by
  have hgrows := (resolves_resolve h.toWellFormed entry.2 none).grows
  rw [readProperty]
  rcases hr : resolve entry.2 none model with ⟨error | type, mid⟩ <;> rw [hr] at hgrows
  · exact ⟨(h.grow hgrows).report _ _, (KeepsTypes.grow hgrows).trans (.of_eq rfl rfl rfl rfl)⟩
  · exact ⟨h.grow hgrows, .grow hgrows⟩

/-- Reading properties one after the other reports their mistakes, in order. -/
lemma diagnostics_foldl_readProperty :
    ∀ (entries : List (String × Json)) {model : Model}, model.Fresh →
      (entries.foldl (readProperty owner) model).diagnostics.toList =
        model.diagnostics.toList ++ propertyReports owner (model.propertyOutcomes owner entries)
  | [], model, _ => (List.append_nil _).symm
  | entry :: rest, model, h => by
    rw [List.foldl_cons, diagnostics_foldl_readProperty rest (fresh_readProperty owner entry h).1,
      diagnostics_readProperty h, List.append_assoc, propertyOutcomes, propertyReports,
      propertyReports, propertyReports, ← List.filterMap_append, List.singleton_append]

/-- Reading properties one after the other keeps a model fresh, and keeps its types. -/
lemma fresh_foldl_readProperty (owner : String) (entries : List (String × Json))
    (h : model.Fresh) : (entries.foldl (readProperty owner) model).Fresh ∧
      model.KeepsTypes (entries.foldl (readProperty owner) model) :=
  List.foldlRecOn (motive := fun mid : Model => mid.Fresh ∧ model.KeepsTypes mid) entries _
    ⟨h, .refl model⟩ fun _ hmid entry _ =>
      have hnext := fresh_readProperty owner entry hmid.1
      ⟨hnext.1, hmid.2.trans hnext.2⟩

/-- The types of properties that have been read are there. -/
lemma type_lt_of_mem_keptProperties (owner : String) (required : List String)
    (entries : List (String × Json)) (h : model.Fresh) :
    ∀ p ∈ keptProperties required (model.propertyOutcomes owner entries),
      p.type < (entries.foldl (readProperty owner) model).nodes.size := by
  have hlt := (h.loadProperties owner required entries).2.2
  rwa [loadProperties_eq] at hlt

/-! ## What stays as it is -/

/-- The second model has all types of the first one, and one of them with the same properties, which
refers to the same types. -/
structure KeepsContents (id : TypeId) (old new : Model) : Prop extends old.KeepsTypes new where
  properties_eq : (new.node id).properties = (old.node id).properties
  customTypes_eq : (new.node id).customTypes = (old.node id).customTypes

namespace KeepsContents

/-- A type has its own contents. -/
lemma refl (id : TypeId) (model : Model) : KeepsContents id model model :=
  ⟨.refl model, rfl, rfl⟩

/-- What has the contents that a third model has of a type has those that the second one has. -/
lemma trans (h₁ : KeepsContents id old mid) (h₂ : KeepsContents id mid new) :
    KeepsContents id old new :=
  ⟨h₁.toKeepsTypes.trans h₂.toKeepsTypes, h₂.properties_eq.trans h₁.properties_eq,
    h₂.customTypes_eq.trans h₁.customTypes_eq⟩

/-- A model with the same types and the same node has the contents. -/
lemma of_node_eq (h : old.KeepsTypes new) (hnode : new.node id = old.node id) :
    KeepsContents id old new :=
  ⟨h, by rw [hnode], by rw [hnode]⟩

/-- Adding a type keeps the contents of the types that are there. -/
lemma add (hid : id < model.nodes.size) (base : String) (kind : TypeKind) (schema : Json) :
    KeepsContents id model (model.add base kind schema).2 :=
  of_node_eq (.add model base kind schema) (node_add_of_ne (Nat.ne_of_lt hid))

/-- Looking up types keeps the contents of the types that are there. -/
lemma grow (h : model.Fresh) (hid : id < model.nodes.size) (hg : model.GrowsTo new) :
    KeepsContents id model new := by
  have hkept : IsKeptByLookup (KeepsContents id model) :=
    { intrinsic := fun name _ hmid =>
        hmid.trans (add (Nat.lt_of_lt_of_le hid hmid.size_le) name .intrinsic .null)
      container := fun _ _ _ _ _ hmid =>
        hmid.trans (add (Nat.lt_of_lt_of_le hid hmid.size_le) _ _ .null) }
  exact hkept.grow h hg (refl id model)

/-- Reading a property keeps the contents of the types that are there. -/
lemma readProperty (h : model.Fresh) (hid : id < model.nodes.size) (owner : String)
    (entry : String × Json) : KeepsContents id model (Model.readProperty owner model entry) := by
  have hgrow := grow h hid (resolves_resolve h.toWellFormed entry.2 none).grows
  rw [Model.readProperty]
  rcases hr : resolve entry.2 none model with ⟨error | type, mid⟩ <;> rw [hr] at hgrow
  · exact hgrow.trans (of_node_eq (.of_eq rfl rfl rfl rfl) rfl)
  · exact hgrow

/-- Reading properties keeps the contents of the types that are there. -/
lemma foldl_readProperty (h : model.Fresh) (hid : id < model.nodes.size) (owner : String)
    (entries : List (String × Json)) :
    KeepsContents id model (entries.foldl (Model.readProperty owner) model) :=
  (List.foldlRecOn (motive := fun mid : Model => mid.Fresh ∧ KeepsContents id model mid) entries _
    ⟨h, refl id model⟩ fun _ hmid entry _ => ⟨(fresh_readProperty owner entry hmid.1).1,
      hmid.2.trans (readProperty hmid.1 (Nat.lt_of_lt_of_le hid hmid.2.size_le) owner entry)⟩).2

/-- Recording where a type is used keeps the contents of all types. -/
lemma recordUse (operationId : String) (type : TypeId) :
    KeepsContents id model (Model.recordUse operationId model type) := by
  have hmark (mid : Model) (used : TypeId) : KeepsContents id mid (markUse operationId mid used) :=
    ⟨.modify fun _ => rfl, node_modify_keeps TypeNode.properties (fun _ => by rfl) id,
      node_modify_keeps TypeNode.customTypes (fun _ => by rfl) id⟩
  rw [recordUse_eq]
  split
  · exact (hmark model type).trans (hmark _ _)
  · exact hmark model type

/-- Adding a method keeps the contents of all types. -/
lemma addMethod (h : model.Fresh) (method : Method) :
    KeepsContents id model (model.addMethod method) := by
  have hused := List.foldlRecOn (motive := KeepsContents id model) method.usedTypes
    (Model.recordUse method.operationId) (refl id model) fun _ hmid used _ =>
      hmid.trans (recordUse method.operationId used)
  have hnode : (model.addMethod method).node id =
      (method.usedTypes.foldl (Model.recordUse method.operationId) model).node id := by
    rw [node, node, nodes_addMethod]
  exact ⟨(KeepsTypes.isKeptByReading model).addMethod h method (.refl model),
    hnode ▸ hused.properties_eq, hnode ▸ hused.customTypes_eq⟩

/-- A model that an operation has been read to keeps the contents of the types that were there. -/
lemma read (h : model.Fresh) (hid : id < model.nodes.size)
    (hread : model.ReadsTo new) : KeepsContents id model new := by
  cases hread with
  | method hgrows _ _ => exact (grow h hid hgrows).trans (addMethod (h.grow hgrows) _)
  | mistake subject error hgrows _ =>
    exact (grow h hid hgrows).trans (of_node_eq (.of_eq rfl rfl rfl rfl) rfl)

/-- Reading an operation keeps the contents of the types that are there. -/
lemma loadOperation (h : model.Fresh) (hid : id < model.nodes.size) (endpoint : String)
    (path : Json) (verb : Verb) :
    KeepsContents id model (Model.loadOperation endpoint path model verb) := by
  rcases h.toWellFormed.loadOperation_cases endpoint path verb with he | hread
  · rw [he]
    exact refl id model
  · exact read h hid hread

/-- Reading all operations keeps the contents of the types that are there. -/
theorem loadMethods (h : model.Fresh) (hid : id < model.nodes.size) :
    KeepsContents id model model.loadMethods :=
  (List.foldlRecOn (motive := fun mid : Model => mid.Fresh ∧ KeepsContents id model mid) _ _
    ⟨h, refl id model⟩ fun _ hmid entry _ =>
      List.foldlRecOn (motive := fun mid : Model => mid.Fresh ∧ KeepsContents id model mid) _ _
        hmid fun _ hm verb _ => ⟨hm.1.loadOperation entry.1 entry.2 verb, hm.2.trans
          (loadOperation hm.1 (Nat.lt_of_lt_of_le hid hm.2.size_le) entry.1 entry.2 verb)⟩).2

end KeepsContents

/-! ## Reading a schema -/

/-- The model with the contents of a type filled in. -/
def fillIn (model : Model) (id : TypeId) (properties : List Property) : Model :=
  model.modify id fun node => { node with
    properties, customTypes := node.customTypes.union (model.customTypeNames properties) }

/-- Reading a schema is reading its properties and filling in the type that stands for it, if the
schema has any. -/
lemma loadSchema_cases (href : model.refs[stem ++ entry.1]? = some id) :
    (declaredProperties entry.2 = [] ∧ loadSchema stem model entry = model) ∨
      loadSchema stem model entry =
        ((declaredProperties entry.2).foldl (readProperty entry.1) model).fillIn id
          (keptProperties (requiredNames entry.2)
            (model.propertyOutcomes entry.1 (declaredProperties entry.2))) := by
  obtain ⟨name, schema⟩ := entry
  unfold declaredProperties loadSchema
  dsimp only
  rw [href]
  cases (schema.get? "properties").bind Json.asObject? with
  | none => exact Or.inl ⟨rfl, rfl⟩
  | some members =>
    simp only [loadProperties_eq]
    exact Or.inr rfl

/-- Reading a schema keeps all types. -/
lemma Fresh.keepsTypes_loadSchema (h : model.Fresh) (stem : String) (entry : String × Json) :
    model.KeepsTypes (Model.loadSchema stem model entry) :=
  (KeepsTypes.isKeptByReading model).loadSchema h stem entry (.refl model)

/-- Reading a schema reports the mistakes in its properties. -/
lemma diagnostics_loadSchema (h : model.Fresh) (href : model.refs[stem ++ entry.1]? = some id) :
    (loadSchema stem model entry).diagnostics.toList = model.diagnostics.toList ++
      propertyReports entry.1 (model.propertyOutcomes entry.1 (declaredProperties entry.2)) := by
  rcases loadSchema_cases href with ⟨hnone, heq⟩ | heq
  · rw [heq, hnone]
    exact (List.append_nil _).symm
  · rw [heq]
    exact diagnostics_foldl_readProperty _ h

/-- Reading a schema keeps the contents of the types that do not stand for it. -/
lemma KeepsContents.loadSchema {type : TypeId} (h : model.Fresh) (hid : id < model.nodes.size)
    (href : model.refs[stem ++ entry.1]? = some type) (hne : id ≠ type) :
    KeepsContents id model (Model.loadSchema stem model entry) := by
  rcases loadSchema_cases href with ⟨-, heq⟩ | heq <;> rw [heq]
  · exact refl id model
  · exact (foldl_readProperty h hid entry.1 _).trans
      (of_node_eq (.modify fun _ => rfl) (node_modify_of_ne hne))

/-! ## Types that stand for schemas, with their properties -/

/-- The type stands for a declared schema. It has the properties of the schema that have a type, and
refers to the types inside these, except built-in ones. -/
structure Represents (model : Model) (stem : String) (id : TypeId) (outcome : SchemaOutcome) :
    Prop extends Registers model stem id outcome.1 where
  properties_eq :
    (model.node id).properties = keptProperties (requiredNames outcome.1.2) outcome.2
  mem_customTypes : ∀ name, name ∈ (model.node id).customTypes ↔
    ∃ p ∈ (model.node id).properties, ∃ type : TypeId,
      model.customType? p.type = some type ∧ model.nameOf type = name

/-- The type inside all containers stays. -/
lemma KeepsTypes.innermost_eq (h : old.KeepsTypes new) (hold : old.WellFormed)
    (hnew : new.WellFormed) (hid : id < old.nodes.size) : new.innermost id = old.innermost id := by
  induction id using hold.container_induction with
  | leaf id hleaf =>
    have hleaf' : (new.node id).element? = none := by
      rwa [TypeNode.element?, h.kind_eq hid]
    rw [innermost_of_not_container hleaf, innermost_of_not_container hleaf']
  | container id wrapper element hk ih =>
    have hlt := Nat.lt_trans (hold.element_lt id wrapper element hk) hid
    rw [innermost, innermost, hold.unwrap_container hk,
      hnew.unwrap_container ((h.kind_eq hid).trans hk)]
    exact ih hlt

/-- The type inside all containers stays what it is, if it is not built in. -/
lemma KeepsTypes.customType?_eq (h : old.KeepsTypes new) (hold : old.WellFormed)
    (hnew : new.WellFormed) (hid : id < old.nodes.size) :
    new.customType? id = old.customType? id := by
  have hlt := Nat.lt_of_le_of_lt (hold.innermost_le id) hid
  rw [customType?, customType?, h.innermost_eq hold hnew hid, TypeNode.isIntrinsic,
    TypeNode.isIntrinsic, h.kind_eq hlt]

/-- Properties refer to the types that they referred to. -/
lemma KeepsTypes.mem_customTypeNames (h : old.KeepsTypes new) (hold : old.WellFormed)
    (hnew : new.WellFormed) {properties : List Property}
    (hlt : ∀ p ∈ properties, p.type < old.nodes.size) (name : String) :
    name ∈ new.customTypeNames properties ↔ name ∈ old.customTypeNames properties := by
  rw [Model.mem_customTypeNames, Model.mem_customTypeNames]
  refine exists_congr fun p => and_congr_right fun hp => exists_congr fun type => ?_
  rw [h.customType?_eq hold hnew (hlt p hp)]
  exact and_congr_right fun hc => by rw [h.nameOf_eq (lt_size_of_customType? hc).2]

/-- A type that stands for a schema does so in a model with the same contents of it. -/
lemma Represents.keepsContents (h : old.Represents stem id outcome) (hk : KeepsContents id old new)
    (hold : old.WellFormed) (hnew : new.WellFormed) : new.Represents stem id outcome where
  toRegisters := h.toRegisters.keepsTypes hk.toKeepsTypes
  properties_eq := hk.properties_eq.trans h.properties_eq
  mem_customTypes name := by
    rw [hk.customTypes_eq, h.mem_customTypes, hk.properties_eq, ← Model.mem_customTypeNames,
      ← Model.mem_customTypeNames]
    exact (hk.toKeepsTypes.mem_customTypeNames hold hnew (hold.property_lt id) name).symm

/-- Reading a schema fills in the type that stands for it, if nothing has been filled in yet. -/
theorem represents_loadSchema (h : model.Fresh) (hentry : model.Registers stem id entry)
    (hblank : (model.node id).IsBlank) :
    (loadSchema stem model entry).Represents stem id
      (entry, model.propertyOutcomes entry.1 (declaredProperties entry.2)) := by
  have hkeeps := h.keepsTypes_loadSchema stem entry
  have hfresh := h.loadSchema stem entry
  set kept := keptProperties (requiredNames entry.2)
    (model.propertyOutcomes entry.1 (declaredProperties entry.2)) with hkept
  obtain ⟨hfilled, hrefers⟩ : ((loadSchema stem model entry).node id).properties = kept ∧
      ∀ name, name ∈ ((loadSchema stem model entry).node id).customTypes ↔
        name ∈ (loadSchema stem model entry).customTypeNames kept := by
    rcases loadSchema_cases hentry.refs_eq with ⟨hnone, heq⟩ | heq
    · have hempty : kept = [] := by
        rw [hkept, hnone]
        rfl
      rw [heq, hempty, hblank.properties_eq, hblank.customTypes_eq]
      exact ⟨rfl, fun name => by simp [mem_customTypeNames]⟩
    · set mid := (declaredProperties entry.2).foldl (readProperty entry.1) model
      have hfreshMid : mid.Fresh := (fresh_foldl_readProperty entry.1 _ h).1
      have hmid : KeepsContents id model mid := .foldl_readProperty h hentry.lt_size entry.1 _
      have hid : id < mid.nodes.size := Nat.lt_of_lt_of_le hentry.lt_size hmid.size_le
      have hlt : ∀ p ∈ kept, p.type < mid.nodes.size := type_lt_of_mem_keptProperties _ _ _ h
      have hnode : ((mid.fillIn id kept).node id) = { mid.node id with
          properties := kept
          customTypes := (mid.node id).customTypes.union (mid.customTypeNames kept) } :=
        node_modify_self hid
      rw [heq] at hfresh ⊢
      rw [hnode, hmid.customTypes_eq, hblank.customTypes_eq]
      refine ⟨rfl, fun name => ?_⟩
      have hkeep : mid.KeepsTypes (mid.fillIn id kept) := .modify fun _ => rfl
      rw [hkeep.mem_customTypeNames hfreshMid.toWellFormed hfresh.toWellFormed hlt]
      exact Std.TreeSet.mem_union_iff.trans (or_iff_right Std.TreeSet.not_mem_emptyc)
  refine ⟨hentry.keepsTypes hkeeps, hfilled, fun name => ?_⟩
  rw [hrefers, mem_customTypeNames, hfilled]

/-- Reading schemas one after the other fills in the types that stand for them.

**Proof sketch.** Induction on the schemas. The first one is read into its own type. Reading the
others leaves that type as it is, since it stands for none of them. -/
theorem represents_foldl_loadSchema :
    ∀ (entries : List (String × Json)) {ids : List TypeId} {model : Model}, model.Fresh →
      List.Forall₂ (model.Registers stem) ids entries → ids.Nodup →
        (∀ id ∈ ids, (model.node id).IsBlank) →
          List.Forall₂ ((entries.foldl (loadSchema stem) model).Represents stem) ids
            (model.schemaOutcomes stem entries)
  | [], [], _, _, _, _, _ => .nil
  | entry :: rest, id :: ids, model, h, .cons hentry hrest, hnodup, hblank => by
    obtain ⟨hnew, hdistinct⟩ := List.nodup_cons.mp hnodup
    have hkeeps := h.keepsTypes_loadSchema stem entry
    have hfresh := h.loadSchema stem entry
    have hsize := hkeeps.size_le
    have hfirst := represents_loadSchema h hentry (hblank id List.mem_cons_self)
    refine .cons ?_ (represents_foldl_loadSchema rest hfresh (hrest.imp fun _ _ hr =>
      hr.keepsTypes hkeeps) hdistinct fun other ho => ?_)
    · -- the others leave the first one as it is
      have hothers := List.foldlRecOn (motive := fun mid : Model =>
          mid.Fresh ∧ KeepsContents id (loadSchema stem model entry) mid)
        rest (loadSchema stem) ⟨hfresh, .refl id _⟩ fun mid hmid other ho => by
          obtain ⟨type, htype, hregisters⟩ := exists_of_mem_right hrest ho
          have href := ((hregisters.keepsTypes hkeeps).keepsTypes hmid.2.toKeepsTypes).refs_eq
          have hid := Nat.lt_of_lt_of_le hfirst.lt_size hmid.2.size_le
          exact ⟨hmid.1.loadSchema stem other, hmid.2.trans
            (.loadSchema hmid.1 hid href fun he => hnew (he ▸ htype))⟩
      exact hfirst.keepsContents hothers.2 hfresh.toWellFormed hothers.1.toWellFormed
    · have hother := hblank other (List.mem_cons_of_mem _ ho)
      have hlt : other < model.nodes.size := by
        obtain ⟨schema, -, hschema⟩ := exists_of_mem_right (R := fun entry id =>
          model.Registers stem id entry) hrest.flip ho
        exact hschema.lt_size
      have hkept := KeepsContents.loadSchema h hlt hentry.refs_eq fun he => hnew (he ▸ ho)
      exact ⟨hkept.properties_eq.trans hother.properties_eq,
        hkept.customTypes_eq.trans hother.customTypes_eq⟩

/-- Reading schemas one after the other reports the mistakes in their properties, in order. -/
lemma diagnostics_foldl_loadSchema :
    ∀ (entries : List (String × Json)) {model : Model}, model.Fresh →
      (∀ entry ∈ entries, stem ++ entry.1 ∈ model.refs) →
        (entries.foldl (loadSchema stem) model).diagnostics.toList =
          model.diagnostics.toList ++ schemaReports (model.schemaOutcomes stem entries)
  | [], _, _, _ => (List.append_nil _).symm
  | entry :: rest, model, h, hrefs => by
    have hkeeps := h.keepsTypes_loadSchema stem entry
    obtain ⟨id, hid⟩ := Option.isSome_iff_exists.mp
      (Std.TreeMap.mem_iff_isSome_getElem?.mp (hrefs entry List.mem_cons_self))
    have hrest : ∀ other ∈ rest, stem ++ other.1 ∈ (loadSchema stem model entry).refs :=
      fun other ho => hkeeps.refs_eq ▸ hrefs other (List.mem_cons_of_mem _ ho)
    rw [List.foldl_cons, diagnostics_foldl_loadSchema rest (h.loadSchema stem entry) hrest,
      diagnostics_loadSchema h hid, List.append_assoc]
    rfl

/-! ## When a property is read -/

/-- A property is read in a model that has the types of the first model, and whose types the last
one has. -/
lemma exists_resolve_of_mem_propertyOutcomes {property : PropertyOutcome} :
    ∀ (entries : List (String × Json)) {model : Model}, model.Fresh →
      property ∈ model.propertyOutcomes owner entries →
        ∃ mid, model.KeepsTypes mid ∧ mid.KeepsTypes (entries.foldl (readProperty owner) model) ∧
          (mid.resolve property.1.2 none).1 = property.2
  | [], _, _, hp => absurd hp List.not_mem_nil
  | entry :: rest, model, h, hp => by
    obtain ⟨hfresh, hkeeps⟩ := fresh_readProperty owner entry h
    rcases List.mem_cons.mp hp with rfl | hrest
    · exact ⟨model, .refl model,
        hkeeps.trans (fresh_foldl_readProperty owner rest hfresh).2, rfl⟩
    · obtain ⟨mid, hbefore, hafter, hresolve⟩ :=
        exists_resolve_of_mem_propertyOutcomes rest hfresh hrest
      exact ⟨mid, hkeeps.trans hbefore, hafter, hresolve⟩

/-- So is a property of one of several schemas. -/
lemma exists_resolve_of_mem_schemaOutcomes {property : PropertyOutcome} :
    ∀ (entries : List (String × Json)) {model : Model}, model.Fresh →
      (∀ entry ∈ entries, stem ++ entry.1 ∈ model.refs) →
        outcome ∈ model.schemaOutcomes stem entries → property ∈ outcome.2 →
          ∃ mid, model.KeepsTypes mid ∧ mid.KeepsTypes (entries.foldl (loadSchema stem) model) ∧
            (mid.resolve property.1.2 none).1 = property.2
  | [], _, _, _, ho, _ => absurd ho List.not_mem_nil
  | entry :: rest, model, h, hrefs, ho, hp => by
    have hkeeps := h.keepsTypes_loadSchema stem entry
    have hfresh := h.loadSchema stem entry
    have hrest : ∀ other ∈ rest, stem ++ other.1 ∈ (loadSchema stem model entry).refs :=
      fun other ho => hkeeps.refs_eq ▸ hrefs other (List.mem_cons_of_mem _ ho)
    rcases List.mem_cons.mp ho with rfl | hin
    · obtain ⟨mid, hbefore, hafter, hresolve⟩ := exists_resolve_of_mem_propertyOutcomes _ h hp
      obtain ⟨id, hid⟩ := Option.isSome_iff_exists.mp
        (Std.TreeMap.mem_iff_isSome_getElem?.mp (hrefs entry List.mem_cons_self))
      have hfilled : mid.KeepsTypes (loadSchema stem model entry) := by
        rcases loadSchema_cases hid with ⟨hnone, -⟩ | heq
        · exact absurd hp (by simp [hnone, propertyOutcomes])
        · rw [heq]
          exact hafter.trans (.modify fun _ => rfl)
      have hothers := ((KeepsTypes.isKeptByReading _).loadSchemas hfresh stem rest (.refl _)).2
      exact ⟨mid, hbefore, hfilled.trans hothers, hresolve⟩
    · obtain ⟨mid, hbefore, hafter, hresolve⟩ :=
        exists_resolve_of_mem_schemaOutcomes rest hfresh hrest hin hp
      exact ⟨mid, hkeeps.trans hbefore, hafter, hresolve⟩

/-! ## The declared schemas of a document -/

/-- What becomes of the properties of the schemas of a document, which are read when all schemas are
declared. -/
def documentSchemas (document : Document) : List SchemaOutcome :=
  (declared document).schemaOutcomes document.schemaReferenceStem (document.schemas?.getD [])

/-- A type that is added has no contents. -/
lemma isBlank_add {base : String} {kind : TypeKind} {schema : Json}
    (h : ∀ id, (model.node id).IsBlank) (id : TypeId) :
    ((model.add base kind schema).2.node id).IsBlank := by
  rw [node_add]
  split_ifs
  · exact ⟨rfl, rfl⟩
  · exact h id

/-- When the schemas of a document have just been declared, no type has any contents. -/
lemma isBlank_declared (document : Document) :
    ∀ id : TypeId, ((declared document).node id).IsBlank := by
  have hkept : IsKeptByLookup fun mid : Model => ∀ id, (mid.node id).IsBlank :=
    ⟨fun _ _ hmid => isBlank_add hmid, fun _ _ _ _ _ hmid => isBlank_add hmid⟩
  have hdeclare (mid : Model) (stem : String) (entry : String × Json)
      (hmid : ∀ id, (mid.node id).IsBlank) : ∀ id, ((declare stem mid entry).node id).IsBlank :=
    isBlank_add hmid
  exact List.foldlRecOn (motive := fun mid : Model => ∀ id, (mid.node id).IsBlank) _ _
    (hkept.initial fun _ => ⟨rfl, rfl⟩) fun mid hmid entry _ => hdeclare mid _ entry hmid

/-- Reading the types of a document is reading its schemas when they are declared. -/
lemma loadTypes_eq_foldl (document : Document) : (initial document).loadTypes =
    (document.schemas?.getD []).foldl (loadSchema document.schemaReferenceStem)
      (declared document) := by
  rw [loadTypes, document_initial]
  rfl

/-- Once the schemas of a document are declared, the references of all of them are there. -/
lemma mem_refs_declared (document : Document) : ∀ entry ∈ document.schemas?.getD [],
    document.schemaReferenceStem ++ entry.1 ∈ (declared document).refs := by
  intro entry hentry
  rw [← (keepsTypes_declared document).refs_eq, mem_refs_ofDocument]
  exact List.mem_map_of_mem hentry

/-- What is reported of the model of a document: the properties without a type, and then the
operations that fail. -/
lemma diagnostics_ofDocument (document : Document) : (ofDocument document).diagnostics.toList =
    schemaReports (documentSchemas document) ++ failures (documentOutcomes document) := by
  rw [(accounts_ofDocument document).diagnostics_eq, loadTypes_eq_foldl,
    diagnostics_foldl_loadSchema _ (fresh_declared document) (mem_refs_declared document),
    diagnostics_declared]
  rfl

/-- A property without a type has a mistake in it, if loading comes to an end. -/
lemma isEndless_of_mem_documentSchemas {document : Document} {entry : String × Json}
    {error : SpecError} (hload : load document = some model)
    (ho : outcome ∈ documentSchemas document) (hp : (entry, .error error) ∈ outcome.2) :
    error.isEndless document = false := by
  obtain ⟨rfl, hmistakes⟩ := load_eq_some_iff.mp hload
  refine hmistakes ⟨outcome.1.1 ++ "." ++ entry.1, error⟩ (Array.mem_toList_iff.mp ?_)
  rw [diagnostics_ofDocument]
  exact List.mem_append_left _ (List.mem_flatMap.mpr
    ⟨outcome, ho, List.mem_filterMap.mpr ⟨_, hp, rfl⟩⟩)

/-- A reference to a schema of the sample document. -/
def nodesLink (name : String) : Json :=
  .object [("$ref", .string ("#/components/schemas/" ++ name))]

/-- A document with a schema that has the name of a built-in type and refers to the next schema, and
a schema that refers to itself and to a schema that is missing. -/
def nodesDocument : Document where
  root := .object [("components", .object [("schemas", .object [
    ("string", .object [("properties", .object [("first", nodesLink "Node")])]),
    ("Node", .object [
      ("required", .array [.string "label"]),
      ("properties", .object [
        ("label", .object [("type", .string "string")]),
        ("missing", nodesLink "Leaf"),
        ("children", .object [("type", .string "array"), ("items", nodesLink "Node")])])])])])]

/-- The references of the sample document end. The types for its schemas, and what becomes of their
properties. -/
lemma nodesDocument_schemas : nodesDocument.ReferencesEnd ∧
    (ofDocument nodesDocument).components = [22, 23] ∧
      (ofDocument nodesDocument).nameOf 22 = "string2" ∧
      ((ofDocument nodesDocument).node 23).properties.map (fun p => (p.name, p.type, p.required)) =
        [("label", 0, true), ("children", 24, false)] ∧
      (schemaReports (documentSchemas nodesDocument)).map (·.subject) = ["Node.missing"] := by
  decide +kernel

end Model

end ClientGen
