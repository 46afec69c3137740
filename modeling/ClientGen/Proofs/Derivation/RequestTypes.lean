import ClientGen.Proofs.Derivation.WriteTypes

/-!
# Deriving request types

The request type of a method is registered under the shape of the parameters, and then its
properties are pointed at write types. No write type of it is derived meanwhile, so it refers to
the types of its properties only.

## Main results

* `ClientGen.Model.requestCore_spec_new` — deriving a request type that is not there yet.
* `ClientGen.Model.Settled.answers_requestType`, `ClientGen.Model.Settled.answers_writeType` — a
  derived type that is asked for is one that its shape leads to, or a new one.
* `ClientGen.Model.Settled.writeType`, `ClientGen.Model.Settled.requestType`,
  `ClientGen.Model.Settled.deriveAll` — what is derived keeps a model settled.
-/

set_option autoImplicit false

namespace ClientGen.Model

variable {limit : Nat} {pending : List TypeId} {model : Model} {id : Nat} {operationId : String}

/-- The properties that the request type of a method is asked for with. -/
def requestProperties (method : Method) : List Property := method.allParameters.map (·.toProperty)

/-- The model after the request type of a method is registered. -/
def registerRequest (model : Model) (method : Method) : Model :=
  model.register (model.shapeDigest (requestProperties method)) (requestName method.operationId)
    (.request method.operationId)
    (describedAs ("Dynamically generated request type for " ++ method.operationId))

/-- The model after a request type got its properties. -/
def fillRequest (model : Model) (request : TypeId) (operationId : String)
    (properties : List Property) : Model :=
  model.modify request fun node =>
    { node with
      properties
      customTypes := model.customTypeNames properties
      methodRefs := node.methodRefs.insert operationId }

/-- All types keep their kinds when a request type is filled in. -/
lemma kind_fillRequest {request : Nat} {properties : List Property} (i : Nat) :
    ((model.fillRequest request operationId properties).node i).kind = (model.node i).kind :=
  node_modify_keeps (·.kind) (fun _ => by rfl) i

/-- All types keep their names when a request type is filled in. -/
lemma nameOf_fillRequest {request : Nat} {properties : List Property} (i : Nat) :
    (model.fillRequest request operationId properties).nameOf i = model.nameOf i :=
  node_modify_keeps (·.name) (fun _ => by rfl) i

/-- A request type that is there. -/
lemma requestCore_of_recorded {method : Method}
    (hk : model.derived[model.shapeDigest (requestProperties method)]? = some id) :
    requestCore method model = (id, model) := by
  rw [requestProperties] at hk
  rw [requestCore]
  dsimp only
  rw [hk]

/-- The request type of a method that may use one. -/
lemma requestType_eq {method : Method} (hm : model.methods[operationId]? = some method)
    (hmay : method.mayUseRequest = true) :
    requestType operationId model =
      (some (requestCore method model).1, (requestCore method model).2) := by
  rw [requestType, hm, Option.filter_some, if_pos hmay]

/-- A method whose request type is there leaves the model as it is. -/
lemma requestType_of_recorded {method : Method} (hm : model.methods[operationId]? = some method)
    (hmay : method.mayUseRequest = true)
    (hk : model.derived[model.shapeDigest (requestProperties method)]? = some id) :
    requestType operationId model = (some id, model) := by
  rw [requestType_eq hm hmay, requestCore_of_recorded hk]

/-- A method that is given a request type is there and may use one. -/
lemma exists_method_of_requestType {new : Model}
    (hr : requestType operationId model = (some id, new)) :
    ∃ method, model.methods[operationId]? = some method ∧ method.mayUseRequest = true := by
  cases hm : model.methods[operationId]?.filter (·.mayUseRequest) with
  | none =>
    rw [requestType, hm] at hr
    exact absurd (congrArg Prod.fst hr) (Option.some_ne_none id).symm
  | some method => exact ⟨method, Option.filter_eq_some_iff.mp hm⟩

/-- A request type that is not there yet. -/
lemma requestCore_of_new {method : Method}
    (hk : model.derived[model.shapeDigest (requestProperties method)]? = none) :
    requestCore method model =
      (model.nodes.size,
        (pointAtWriteTypes writeType (requestProperties method)
          (model.registerRequest method)).2.fillRequest model.nodes.size method.operationId
            (pointAtWriteTypes writeType (requestProperties method)
              (model.registerRequest method)).1) := by
  rw [requestProperties] at hk
  rw [requestCore]
  dsimp only
  rw [hk]
  rfl

/-- Deriving write types does what it has to in all models. -/
lemma writesWithin_writeType (limit : Nat) : WritesWithin limit (limit + 1) writeType :=
  fun h _ _ hid => writeType_spec h hid

/-- Filling in a pending request type finishes it. -/
lemma Coherent.fillRequest {request : Nat} {method : Method} {results : List Property}
    (h : model.Coherent limit (request :: pending))
    (hk : (model.node request).kind = .request method.operationId)
    (hm : model.methods[method.operationId]? = some method)
    (hr : List.Forall₂ model.IsRepointed (requestProperties method) results)
    (hlt : ∀ p ∈ results, p.type < model.nodes.size) :
    (model.fillRequest request method.operationId results).Coherent limit pending ∧
      model.Extends limit (model.fillRequest request method.operationId results) := by
  have hrlt : request < model.nodes.size := h.pending_lt request List.mem_cons_self
  have hge : limit ≤ request := h.pending_ge request List.mem_cons_self
  unfold Model.fillRequest
  generalize hchange : (fun node : TypeNode => { node with
    properties := results
    customTypes := model.customTypeNames results
    methodRefs := node.methodRefs.insert method.operationId }) = change
  have hbare : ∀ node, (change node).bare = node.bare := fun _ => by rw [← hchange]; rfl
  have hself : (model.modify request change).node request = change (model.node request) :=
    node_modify_self hrlt
  have hprops : ((model.modify request change).node request).properties = results := by
    rw [hself, ← hchange]
  have he : model.Extends limit (model.modify request change) := .modify hge hbare
  have hnew : (model.modify request change).Coherent limit (request :: pending) := by
    refine h.fill List.mem_cons_self hbare fun p hp => ?_
    rw [← hchange] at hp
    exact hlt p hp
  have hkind : ((model.modify request change).node request).kind = .request method.operationId :=
    (he.kind_eq hrlt).trans hk
  refine ⟨hnew.finishRequest hkind (fun found ho => ?_) ?_, he⟩
  · have hfound : found = requestProperties method ∧ ∀ p ∈ found, p.type < limit := by
      refine ⟨?_, fun p hp => ho.type_lt hnew.toClosedBelow hp⟩
      rw [hkind] at ho
      generalize method.operationId = operationId at ho hm
      cases ho with
      | request _ _ hf => rw [requestProperties, hf method hm]
    obtain ⟨rfl, htypes⟩ := hfound
    rw [hprops]
    exact forall₂_isRepointed_of_extends hr h.toClosedBelow he hnew.toWellFormed htypes hlt
  · rw [hprops, he.customTypeNames_eq h.toWellFormed hnew.toWellFormed hlt, hself, ← hchange]

/-- The parameters of a method that may use a request type are what that is asked for with. -/
lemma Settled.isOrigin_request {method : Method} (h : model.Settled)
    (hm : model.methods[method.operationId]? = some method) (hmay : method.mayUseRequest = true) :
    model.IsOrigin model.nodes.size (.request method.operationId) (requestProperties method) :=
  .request hmay (h.parameter_lt method.operationId method hm) fun _ hf =>
    Option.some.inj (hf.symm.trans hm)

/-- Registering the request type of a method, where the shape of that leads nowhere, makes it
pending. -/
lemma Settled.registerRequest {method : Method} (h : model.Settled)
    (hm : model.methods[method.operationId]? = some method) (hmay : method.mayUseRequest = true)
    (hk : model.derived[model.shapeDigest (requestProperties method)]? = none) :
    (model.registerRequest method).Coherent model.nodes.size [model.nodes.size] ∧
      model.Extends model.nodes.size (model.registerRequest method) ∧
      ((model.registerRequest method).node model.nodes.size).kind = .request method.operationId :=
  ⟨Coherent.register h (h.isOrigin_request hm hmay) hk,
    Coherent.extends_register (Nat.le_refl _) hk, congrArg TypeNode.kind node_add_self⟩

/-- Deriving a request type that is not there yet. It is the request type of that method.

**Proof sketch.** The request type is registered, its properties are pointed at write types, which
only extends the model, and then its contents are filled in. -/
theorem requestCore_spec_new {method : Method} (h : model.Settled)
    (hm : model.methods[method.operationId]? = some method) (hmay : method.mayUseRequest = true)
    (hk : model.derived[model.shapeDigest (requestProperties method)]? = none) :
    ∃ new : Model, requestCore method model = (model.nodes.size, new) ∧ new.Settled ∧
      model.Extends model.nodes.size new ∧
      (new.node model.nodes.size).kind = .request method.operationId := by
  have ho := h.isOrigin_request hm hmay
  rw [requestCore_of_new hk]
  obtain ⟨hreg, hext, hkind⟩ := h.registerRequest hm hmay hk
  have hsize : model.nodes.size < (model.registerRequest method).nodes.size :=
    hreg.pending_lt _ List.mem_cons_self
  have hpoint := pointAtWriteTypes_spec (writesWithin_writeType model.nodes.size)
    (requestProperties method) hreg (Nat.lt_succ_of_le (unrecorded_le _ _))
    fun p hp => ho.type_lt h.toClosedBelow hp
  generalize pointAtWriteTypes writeType (requestProperties method)
    (model.registerRequest method) = pointed at hpoint
  obtain ⟨results, mid⟩ := pointed
  have hmidMethod : mid.methods[method.operationId]? = some method := by
    rw [(hext.trans hpoint.toExtends).methods_eq]
    exact hm
  obtain ⟨hnew, hfill⟩ := hpoint.coherent.fillRequest ((hpoint.toExtends.kind_eq hsize).trans hkind)
    hmidMethod hpoint.isRepointed hpoint.lt_size
  have hlast := hpoint.toExtends.trans hfill
  exact ⟨_, rfl, hnew.settled, hext.trans hlast, (hlast.kind_eq hsize).trans hkind⟩

/-! ## Answers -/

/-- What asking for a derived type of a kind gives if the shape of it has the digest: the type that
the digest leads to, or a new one. -/
inductive Answers (model : Model) (key : String) (kind : TypeKind) : Derivation → Prop
  /-- The digest leads to a type, and the model stays as it is. -/
  | recorded {id : TypeId} : model.derived[key]? = some id → Answers model key kind (some id, model)
  /-- The digest leads nowhere, and a type of the kind is added. -/
  | made {new : Model} : model.derived[key]? = none → new.Settled →
      model.Extends model.nodes.size new → (new.node model.nodes.size).kind = kind →
      Answers model key kind (some model.nodes.size, new)

namespace Answers

variable {key : String} {kind : TypeKind} {answer : Derivation} {new : Model}

/-- An answer keeps a model settled and extends it. -/
lemma spec (ha : model.Answers key kind answer) (h : model.Settled) :
    answer.2.Settled ∧ model.Extends model.nodes.size answer.2 := by
  cases ha with
  | recorded _ => exact ⟨h, .refl _ model⟩
  | made _ hnew he _ => exact ⟨hnew, he⟩

/-- The answer is a derived type, and one of the kind if it was not there before. -/
lemma isDerived (ha : model.Answers key kind (some id, new)) (h : model.Settled)
    (hd : kind.IsDerived) :
    (new.node id).kind.IsDerived ∧ (model.nodes.size ≤ id → (new.node id).kind = kind) := by
  cases ha with
  | recorded hk =>
    exact ⟨h.isDerived key id hk,
      fun hle => absurd (h.derived_lt key id hk) (Nat.not_lt_of_le hle)⟩
  | made _ _ _ hkind => exact ⟨hkind ▸ hd, fun _ => hkind⟩

/-- If the answer leaves the model as it is, the digest leads to a type. A new one would be one type
more. -/
lemma exists_recorded (ha : model.Answers key kind answer) (hd : kind.IsDerived)
    (hthere : answer.2 = model) : ∃ id : TypeId, model.derived[key]? = some id := by
  cases ha with
  | recorded hk => exact ⟨_, hk⟩
  | @made new _ _ _ hkind =>
    obtain rfl : new = model := hthere
    exact absurd (lt_size_of_isDerived (hkind ▸ hd)) (Nat.lt_irrefl _)

end Answers

namespace Settled

/-- A method that may use a request type is answered by the shape of its parameters. -/
theorem answers_requestType {method : Method} (h : model.Settled)
    (hm : model.methods[operationId]? = some method) (hmay : method.mayUseRequest = true) :
    model.Answers (model.shapeDigest (requestProperties method)) (.request operationId)
      (Model.requestType operationId model) := by
  obtain rfl := h.operationId_eq operationId method hm
  cases hk : model.derived[model.shapeDigest (requestProperties method)]? with
  | some request =>
    rw [requestType_of_recorded hm hmay hk]
    exact .recorded hk
  | none =>
    obtain ⟨new, heq, hnew, he, hkind⟩ := requestCore_spec_new h hm hmay hk
    rw [requestType_eq hm hmay, heq]
    exact .made hk hnew he hkind

/-- A type with a write type, which is no container, is answered by the shape of what can be written
of it. -/
theorem answers_writeType (h : model.Settled) (hleaf : (model.node id).element? = none)
    (hw : model.HasWriteType id) :
    model.Answers (model.writeKey id) (.write id) (Model.writeType id model) := by
  cases hk : model.derived[model.writeKey id]? with
  | some write =>
    rw [writeType_of_recorded hleaf hw hk]
    exact .recorded hk
  | none =>
    obtain ⟨new, heq, hnew, he, hkind⟩ := writeType_of_new h hleaf hw hk
    rw [heq]
    exact .made hk hnew he hkind

end Settled

/-! ## Settled models -/

namespace Settled

/-- Deriving a write type keeps a model settled and extends it. -/
lemma writeType_spec (h : model.Settled) (id : Nat) : (Model.writeType id model).2.Settled ∧
    model.Extends model.nodes.size (Model.writeType id model).2 := by
  by_cases hid : id < model.nodes.size
  · have hspec := Model.writeType_spec h hid
    exact ⟨hspec.coherent.settled, hspec.toExtends⟩
  · rw [writeType_of_not (not_hasWriteType_of_size_le (Nat.le_of_not_lt hid))]
    exact ⟨h, .refl _ model⟩

/-- Deriving a write type keeps a model settled. -/
theorem writeType (h : model.Settled) (id : TypeId) : (Model.writeType id model).2.Settled :=
  (h.writeType_spec id).1

/-- Deriving a request type keeps a model settled and extends it. -/
lemma requestType_spec (h : model.Settled) (operationId : String) :
    (Model.requestType operationId model).2.Settled ∧
      model.Extends model.nodes.size (Model.requestType operationId model).2 := by
  cases hm : model.methods[operationId]?.filter (·.mayUseRequest) with
  | none =>
    rw [Model.requestType, hm]
    exact ⟨h, .refl _ model⟩
  | some method =>
    obtain ⟨hfound, hmay⟩ := Option.filter_eq_some_iff.mp hm
    exact (h.answers_requestType hfound hmay).spec h

/-- Deriving a request type keeps a model settled. -/
theorem requestType (h : model.Settled) (operationId : String) :
    (Model.requestType operationId model).2.Settled :=
  (h.requestType_spec operationId).1

end Settled

end ClientGen.Model
