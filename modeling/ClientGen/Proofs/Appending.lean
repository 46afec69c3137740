import ClientGen.Proofs.Registry

/-!
# What is asked of a model only appends

Once a model is made, types are resolved and derived in it, and files are generated from it. All of
that appends to the model. A type that is there keeps all it has, and at most refers to more types;
names and shapes lead where they led, and what is new among them leads to new types; and nothing
happens to the methods, their groups, the references and the reports. This holds also for what
fails halfway through.

## Main definitions

* `ClientGen.Model.Call`, `ClientGen.Model.Call.perform` — what can be asked of a model, and the
  model afterwards.
* `ClientGen.Model.Call.IsDerivation` — that a call is not to resolve a schema.
* `ClientGen.Model.AppendsTo` — a model that has been appended to.

## Main results

* `ClientGen.Model.Settled.perform` — one call extends a settled model and leaves it settled.
* `ClientGen.Model.Settled.performAll` — so any number of calls does.
* `ClientGen.Model.Reachable.calls_append` — calls only append to a model that can be reached.
-/

set_option autoImplicit false

namespace ClientGen.Model

/-! ## Calls -/

/-- What can be asked of a model. -/
inductive Call where
  /-- The type of a schema. -/
  | resolve (schema : Json) (style : Option Style)
  /-- The request type of a method. -/
  | requestType (operationId : String)
  /-- The write type of a type. -/
  | writeType (id : TypeId)
  /-- The derived types of all methods. -/
  | deriveAll
  /-- The files in a language. -/
  | generate (language : Language) (apiVersion packageName : String)
  /-- The files of a backend that records what it is asked, and fails where it is told to. -/
  | record (recorder : Recorder) (apiVersion packageName : String)

/-- The model after a call, whether the call succeeds or fails. -/
def Call.perform (model : Model) : Call → Model
  | .resolve schema style => (model.resolve schema style).2
  | .requestType operationId => (model.requestType operationId).2
  | .writeType id => (model.writeType id).2
  | .deriveAll => model.deriveAll
  | .generate language apiVersion packageName =>
    (model.generate language.backend apiVersion packageName).2.model
  | .record recorder apiVersion packageName =>
    (model.generate recorder.backend apiVersion packageName).2.model

/-- The model after calls, one after the other. -/
def performAll (model : Model) (calls : List Call) : Model := calls.foldl Call.perform model

variable {model old new : Model} {id : Nat}

@[simp] lemma performAll_nil : model.performAll [] = model := rfl

@[simp] lemma performAll_cons {call : Call} {calls : List Call} :
    model.performAll (call :: calls) = (call.perform model).performAll calls := rfl

/-- The call is not to resolve a schema. -/
def Call.IsDerivation : Call → Prop
  | .resolve _ _ => False
  | _ => True

/-- A call that is not to resolve a schema derives types only. -/
lemma Call.IsDerivation.derivesTo {call : Call} (h : call.IsDerivation) :
    model.DerivesTo (call.perform model) := by
  cases call with
  | resolve schema style => exact h.elim
  | requestType operationId => exact DerivesTo.refl.requestType operationId
  | writeType id => exact DerivesTo.refl.writeType id
  | deriveAll => exact .deriveAll model
  | generate language apiVersion packageName =>
    exact language.onlyDerives_backend.generate model apiVersion packageName
  | record recorder apiVersion packageName =>
    exact recorder.onlyDerives_backend.generate model apiVersion packageName

/-- Calls that are not to resolve schemas derive types only. -/
lemma derivesTo_performAll {calls : List Call} (h : ∀ call ∈ calls, call.IsDerivation) :
    model.DerivesTo (model.performAll calls) := by
  induction calls generalizing model with
  | nil => exact .refl
  | cons call calls ih =>
    obtain ⟨hcall, hcalls⟩ := List.forall_mem_cons.mp h
    exact hcall.derivesTo.trans (ih hcalls)

namespace Settled

/-- A call extends a settled model and leaves it settled.

**Proof sketch.** Resolving a schema grows the model, and everything else derives types. Both keep a
model settled and extend it. -/
theorem perform (h : model.Settled) (call : Call) :
    (call.perform model).Settled ∧ model.Extends model.nodes.size (call.perform model) := by
  have hderived : call.IsDerivation →
      (call.perform model).Settled ∧ model.Extends model.nodes.size (call.perform model) :=
    fun hcall => ⟨h.derivesTo hcall.derivesTo, h.extends_of_derivesTo hcall.derivesTo⟩
  cases call with
  | resolve schema style =>
    have hgrows := (resolves_resolve h.toWellFormed schema style).grows
    exact ⟨h.grow hgrows, hgrows.toExtends (Nat.le_refl _)⟩
  | _ => exact hderived trivial

/-- Calls extend a settled model and leave it settled. -/
theorem performAll (h : model.Settled) (calls : List Call) :
    (model.performAll calls).Settled ∧ model.Extends model.nodes.size (model.performAll calls) := by
  induction calls generalizing model with
  | nil => exact ⟨h, .refl _ model⟩
  | cons call calls ih =>
    obtain ⟨hmid, hfirst⟩ := h.perform call
    obtain ⟨hnew, hrest⟩ := ih hmid
    rw [performAll_cons]
    exact ⟨hnew, hfirst.trans (hrest.mono hfirst.size_le)⟩

end Settled

/-! ## Appending -/

/-- The second model has all that the first one has, and differs from it only in what is
appended. -/
structure AppendsTo (old new : Model) : Prop where
  document_eq : new.document = old.document
  refs_eq : new.refs = old.refs
  methods_eq : new.methods = old.methods
  tags_eq : new.tags = old.tags
  diagnostics_eq : new.diagnostics = old.diagnostics
  /-- No type is lost. -/
  size_le : old.nodes.size ≤ new.nodes.size
  /-- A type keeps its number, name, kind, schema, properties and the operations that use it. -/
  node_eq : ∀ id : TypeId, id < old.nodes.size →
    new.node id = { old.node id with customTypes := (new.node id).customTypes }
  /-- A type refers to the types that it referred to. -/
  customTypes_le : ∀ id : TypeId, id < old.nodes.size →
    ∀ name ∈ (old.node id).customTypes, name ∈ (new.node id).customTypes
  /-- What a type refers to besides is the name of a type. -/
  customTypes_new : ∀ id : TypeId, id < old.nodes.size → ∀ name ∈ (new.node id).customTypes,
    name ∈ (old.node id).customTypes ∨ ∃ type < new.nodes.size, new.nameOf type = name
  /-- Names lead where they led. -/
  names_le : ∀ (name : String) (id : TypeId),
    old.names[name]? = some id → new.names[name]? = some id
  /-- A new name is that of a new type. -/
  names_new : ∀ (name : String) (id : TypeId), new.names[name]? = some id →
    old.names[name]? = some id ∨ old.names[name]? = none ∧ old.nodes.size ≤ id
  /-- Shapes lead where they led. -/
  derived_le : ∀ (key : String) (id : TypeId),
    old.derived[key]? = some id → new.derived[key]? = some id
  /-- A new shape leads to a new type. -/
  derived_new : ∀ (key : String) (id : TypeId), new.derived[key]? = some id →
    old.derived[key]? = some id ∨ old.derived[key]? = none ∧ old.nodes.size ≤ id

/-- An extension keeps a type but for the names that it refers to. -/
lemma Extends.node_eq (h : old.Extends old.nodes.size new) (hid : id < old.nodes.size) :
    new.node id = { old.node id with customTypes := (new.node id).customTypes } := by
  have hbare := h.bare_eq id hid
  have hproperties := h.properties_eq id hid
  have hrefs := h.methodRefs_eq id hid
  generalize new.node id = after at hbare hproperties hrefs
  generalize old.node id = before at hbare hproperties hrefs
  obtain ⟨_, _, _, _, _, _, _⟩ := after
  obtain ⟨_, _, _, _, _, _, _⟩ := before
  simp only [TypeNode.bare, TypeNode.mk.injEq] at hbare hproperties hrefs
  obtain ⟨rfl, rfl, rfl, rfl, -⟩ := hbare
  subst hproperties hrefs
  rfl

/-- A name of an extension that leads to an old type led there. -/
lemma Extends.getElem?_names_of_lt {limit : Nat} (h : old.Extends limit new)
    (hold : old.WellFormed) (hnew : new.WellFormed) {name : String} (hid : id < old.nodes.size)
    (hn : new.names[name]? = some id) : old.names[name]? = some id := by
  have hname : new.nameOf id = name := ((hnew.names_iff name id).mp hn).2
  rw [h.nameOf_eq hid] at hname
  exact (hold.names_iff name id).mpr ⟨hid, hname⟩

/-- A shape of an extension that leads to an old type led there.

**Proof sketch.** The old type is a derived one, so some shape led to it, and still does. Only one
shape leads to it in the extension. -/
lemma Extends.getElem?_derived_of_lt {limit : Nat} (h : old.Extends limit new)
    (hold : old.Settled) (hnew : new.Settled) {key : String} (hid : id < old.nodes.size)
    (hk : new.derived[key]? = some id) : old.derived[key]? = some id := by
  have hd : (new.node id).kind.IsDerived := hnew.isDerived key id hk
  have hdOld : (old.node id).kind.IsDerived := h.kind_eq hid ▸ hd
  obtain ⟨former, hformer⟩ := (hold.exists_key_iff id).mpr hdOld
  have hsame : key = former :=
    (hnew.existsUnique_key hd).unique hk (h.derived_le former id hformer)
  rwa [hsame]

/-- In a table that keeps where its entries lead, an entry is an old one, or it is a new one that
leads to a new type, if the entries that lead to old types are old. -/
lemma old_or_new {before after : Std.TreeMap String TypeId} {bound : Nat} {key : String}
    (hle : ∀ other, before[key]? = some other → after[key]? = some other)
    (hlt : id < bound → after[key]? = some id → before[key]? = some id)
    (hk : after[key]? = some id) :
    before[key]? = some id ∨ before[key]? = none ∧ bound ≤ id := by
  cases hb : before[key]? with
  | some other =>
    rw [hle other hb] at hk
    exact Or.inl hk
  | none =>
    refine Or.inr ⟨rfl, Nat.le_of_not_lt fun hid => ?_⟩
    rw [hlt hid hk] at hb
    exact Option.some_ne_none id hb

/-- An extension appends, if both models are settled. -/
theorem Extends.appendsTo (h : old.Extends old.nodes.size new) (hold : old.Settled)
    (hnew : new.Settled) : old.AppendsTo new where
  document_eq := h.document_eq
  refs_eq := h.refs_eq
  methods_eq := h.methods_eq
  tags_eq := h.tags_eq
  diagnostics_eq := h.diagnostics_eq
  size_le := h.size_le
  node_eq _ hid := h.node_eq hid
  customTypes_le := h.customTypes_le
  customTypes_new id hid name hn := by
    refine (h.customTypes_new id hid name hn).imp_right fun hmem => ?_
    rw [Std.TreeMap.mem_iff_isSome_getElem?, Option.isSome_iff_exists] at hmem
    obtain ⟨type, htype⟩ := hmem
    exact ⟨type, (hnew.names_iff name type).mp htype⟩
  names_le := h.names_le
  names_new name id hn := old_or_new (h.names_le name)
    (fun hid => h.getElem?_names_of_lt hold.toWellFormed hnew.toWellFormed hid) hn
  derived_le := h.derived_le
  derived_new key id hk := old_or_new (h.derived_le key)
    (fun hid => h.getElem?_derived_of_lt hold hnew hid) hk

/-- Whatever is asked of a model that can be reached, and however often, it is only appended to. -/
theorem Reachable.calls_append (h : model.Reachable) (calls : List Call) :
    model.AppendsTo (model.performAll calls) := by
  obtain ⟨hnew, hextends⟩ := h.settled.performAll calls
  exact hextends.appendsTo h.settled hnew

/-- Asking the model of the sample document for the request type of its method, and for the write
type of that, appends four types. The type of users is one of those that were there; it refers to
one more type, its write type, and has not changed otherwise. -/
theorem Reachable.calls_append_sample :
    (Model.ofDocument sampleDocument).AppendsTo sampleModel ∧
      (Model.ofDocument sampleDocument).nodes.size = 25 ∧ sampleModel.nodes.size = 29 ∧
      (sampleModel.node 23).customTypes.toList = ["User", "WriteUser"] ∧
      ((Model.ofDocument sampleDocument).node 23).customTypes.toList = ["User"] ∧
      sampleModel.node 23 = { (Model.ofDocument sampleDocument).node 23 with
        customTypes := (sampleModel.node 23).customTypes } := by
  have hmodel : (Model.ofDocument sampleDocument).performAll
      [.requestType "find", .writeType 25] = sampleModel := by
    rw [performAll_cons, performAll_cons, performAll_nil, Call.perform, Call.perform, sampleModel]
  have happends : (Model.ofDocument sampleDocument).AppendsTo sampleModel := by
    rw [← hmodel]
    exact calls_append (.ofDocument sampleDocument) _
  obtain ⟨⟨hafter, -, hnow⟩, -⟩ := sampleModel_nodes
  have hsizes : (Model.ofDocument sampleDocument).nodes.size = 25 ∧
      ((Model.ofDocument sampleDocument).node 23).customTypes.toList = ["User"] := by
    decide
  obtain ⟨hbefore, hthen⟩ := hsizes
  exact ⟨happends, hbefore, hafter, hnow, hthen, happends.node_eq 23 (hbefore ▸ by decide)⟩

end ClientGen.Model
