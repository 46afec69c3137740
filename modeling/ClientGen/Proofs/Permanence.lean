import ClientGen.Proofs.Continuation
import ClientGen.Proofs.Generation.Sending

/-!
# Derived types are permanent

What is derived for a type or a method is looked up by what can be sent of the type, or by the
parameters of the method. None of that changes once the model of a document is made, and no shape
is ever led elsewhere. So the first answer is the answer for good.

## Main results

* `ClientGen.Model.Settled.writeType_retain`, `ClientGen.Model.Settled.requestType_retain` —
  leaving out methods changes no answer for what is left.
* `ClientGen.Model.Reachable.derivations_permanent` — asking again gives the same answer and leaves
  the model as it is, whatever has been done in between.
-/

set_option autoImplicit false

namespace ClientGen.Model

variable {model later : Model} {id : Nat} {operationId : String} {included excluded : List String}

namespace Settled

/-! ## Leaving out methods -/

/-- Leaving out methods keeps the answer for a type whose write type is there, if that is no
container. -/
lemma writeType_retain (h : model.Settled) (hleaf : (model.node id).element? = none)
    (hthere : (Model.writeType id model).2 = model) :
    Model.writeType id (model.retain included excluded) =
      ((Model.writeType id model).1, model.retain included excluded) := by
  have hnodes : (model.retain included excluded).nodes = model.nodes := rfl
  have hleaf' : ((model.retain included excluded).node id).element? = none := by
    rwa [node_congr hnodes]
  by_cases hw : model.HasWriteType id
  · obtain ⟨write, hk⟩ := (h.answers_writeType hleaf hw).exists_recorded trivial hthere
    rw [writeType_of_recorded hleaf hw hk]
    refine writeType_of_recorded hleaf' ((hasWriteType_congr hnodes id).mpr hw) ?_
    rwa [writeKey_congr hnodes]
  · rw [writeType_of_leaf_of_not hleaf hw]
    exact writeType_of_leaf_of_not hleaf' (by rwa [hasWriteType_congr hnodes])

/-- Leaving out other methods keeps the answer for a method whose request type is there. -/
lemma requestType_retain {method : Method} (h : model.Settled)
    (hm : (model.retain included excluded).methods[operationId]? = some method)
    (hthere : (Model.requestType operationId model).2 = model) :
    Model.requestType operationId (model.retain included excluded) =
      ((Model.requestType operationId model).1, model.retain included excluded) := by
  have hnodes : (model.retain included excluded).nodes = model.nodes := rfl
  have hold : model.methods[operationId]? = some method := of_getElem?_methods_retain hm
  by_cases hmay : method.mayUseRequest = true
  · obtain ⟨request, hk⟩ := (h.answers_requestType hold hmay).exists_recorded trivial hthere
    rw [requestType_of_recorded hold hmay hk,
      requestType_of_recorded hm hmay (by rwa [shapeDigest_congr hnodes])]
  · rw [Model.requestType, hm, Model.requestType, hold, Option.filter_some, if_neg hmay]

/-! ## Asking again -/

/-- After the request type of a method is derived, it is there. -/
lemma requestType_again (h : model.Settled) (operationId : String) :
    Model.requestType operationId (Model.requestType operationId model).2 =
      ((Model.requestType operationId model).1, (Model.requestType operationId model).2) :=
  h.requestType_later (h.requestType operationId) (.refl _ _)

end Settled

namespace Continues

/-- A shape that leads to a type leads to it for good. -/
lemma derived_le (h : model.Continues later) (hreach : model.Reachable) {key : String}
    (hk : model.derived[key]? = some id) : later.derived[key]? = some id :=
  h.keeps hreach (P := fun mid : Model => mid.derived[key]? = some id) hk
    (fun _ _ he hmid => he.derived_le key id hmid) fun _ _ _ hmid => hmid

/-- The answer for a type that is no container is the same in any later model and leaves that as it
is. -/
lemma writeType_eq (h : (model.writeType id).2.Continues later) (hreach : model.Reachable)
    (hid : id < model.nodes.size) (hleaf : (model.node id).element? = none) :
    later.writeType id = ((model.writeType id).1, later) := by
  have hfirst := (hreach.settled.writeType_spec id).2
  have hstart : id < (model.writeType id).2.nodes.size ∧
      ((model.writeType id).2.node id).element? = none ∧
      Model.writeType id (model.writeType id).2 = ((model.writeType id).1, (model.writeType id).2) :=
    ⟨Nat.lt_of_lt_of_le hid hfirst.size_le, (hfirst.element?_eq hid).trans hleaf,
      hreach.settled.writeType_again hleaf⟩
  have hkept := h.keeps (hreach.writeType id) (P := fun mid : Model => id < mid.nodes.size ∧
      (mid.node id).element? = none ∧ mid.writeType id = ((model.writeType id).1, mid)) hstart
    (fun hold hnew he hmid => ?_) fun included excluded hmid hP => ?_
  · exact hkept.2.2
  · obtain ⟨hlt, hmidLeaf, hanswer⟩ := hmid
    refine ⟨Nat.lt_of_lt_of_le hlt he.size_le, (he.element?_eq hlt).trans hmidLeaf, ?_⟩
    rw [hold.writeType_of_extends hnew he hlt hmidLeaf (congrArg Prod.snd hanswer), hanswer]
  · obtain ⟨hlt, hmidLeaf, hanswer⟩ := hP
    refine ⟨hlt, hmidLeaf, ?_⟩
    rw [hmid.writeType_retain hmidLeaf (congrArg Prod.snd hanswer), hanswer]

/-- The answer for a method is the same in any later model that has the method, and leaves that
model as it is. -/
lemma requestType_eq (h : (model.requestType operationId).2.Continues later)
    (hreach : model.Reachable) (hm : operationId ∈ later.methods) :
    later.requestType operationId = ((model.requestType operationId).1, later) := by
  have hkept := h.keeps (hreach.requestType operationId) (P := fun mid : Model =>
      ∀ method, mid.methods[operationId]? = some method →
        mid.requestType operationId = ((model.requestType operationId).1, mid))
    (fun _ _ => hreach.settled.requestType_again operationId)
    (fun hold hnew he hmid method hm => ?_) fun included excluded hmid hP method hm => ?_
  · obtain ⟨method, hm⟩ := Option.isSome_iff_exists.mp (Std.TreeMap.mem_iff_isSome_getElem?.mp hm)
    exact hkept method hm
  · rw [he.methods_eq] at hm
    have hanswer := hmid method hm
    rw [hold.requestType_later hnew (by rw [hanswer]; exact he), hanswer]
  · have hanswer := hP method (of_getElem?_methods_retain hm)
    rw [hmid.requestType_retain hm (congrArg Prod.snd hanswer), hanswer]

end Continues

/-- Once the write type of a type that is no container has been asked for, or the request type of a
method, asking again in any later model gives the same answer and leaves that model as it is, as
long as the method is there. A shape that leads to a type leads to it for good.

**Proof sketch.** Right after the answer is given, it is there. An extension keeps what the answer
is looked up by, and what that leads to; leaving out methods touches neither. -/
theorem Reachable.derivations_permanent (h : model.Reachable) :
    (∀ id : TypeId, id < model.nodes.size → (model.node id).element? = none →
      ∀ later : Model, (model.writeType id).2.Continues later →
        later.writeType id = ((model.writeType id).1, later)) ∧
    (∀ (operationId : String) (later : Model), (model.requestType operationId).2.Continues later →
      operationId ∈ later.methods →
        later.requestType operationId = ((model.requestType operationId).1, later)) ∧
    ∀ later : Model, model.Continues later → ∀ (key : String) (id : TypeId),
      model.derived[key]? = some id → later.derived[key]? = some id :=
  ⟨fun _ hid hleaf _ hlater => hlater.writeType_eq h hid hleaf,
    fun _ _ hlater hm => hlater.requestType_eq h hm,
    fun _ hlater _ _ hk => hlater.derived_le h hk⟩

/-! ## A sample -/

/-- The sample model after the list of logs has been resolved, and with one method chosen. -/
def Reachable.sampleLater : Model :=
  (sampleModel.resolve
    (.object [("type", .string "array"), ("items", sampleReference "Log")]) none).2.retain ["find"] []

/-- In the sample model the write type of users and the request type of the method are there, so
they are in the later one. -/
theorem Reachable.derivations_permanent_sample :
    sampleLater.writeType 23 = (some 26, sampleLater) ∧
      sampleLater.requestType "find" = (some 25, sampleLater) := by
  obtain ⟨-, ⟨-, hinner⟩, ⟨hrequest, hsome, -⟩, hwrite, -⟩ := sampleModel_nodes
  obtain ⟨method, hm⟩ := Option.isSome_iff_exists.mp hsome
  have hset := reachable_sampleModel.settled
  have hfirst : sampleModel.writeType 23 = (some 26, sampleModel) := hset.writeType_source hwrite
  have hsecond : sampleModel.requestType "find" = (some 25, sampleModel) :=
    hset.requestType_operationId hrequest hm
  have hcontinues : sampleModel.Continues sampleLater := (Continues.refl.resolve _ none).retain _ _
  have hleaf : (sampleModel.node 23).element? = none := hinner ▸ hset.element?_innermost 24
  have hmethod : "find" ∈ sampleLater.methods := by
    have hgrows := (resolves_resolve hset.toWellFormed
      (.object [("type", .string "array"), ("items", sampleReference "Log")]) none).grows
    rw [Std.TreeMap.mem_iff_isSome_getElem?, sampleLater, Model.retain, Std.TreeMap.getElem?_filter',
      (hgrows.toExtends (Nat.zero_le _)).methods_eq, hm]
    rfl
  obtain ⟨hwrites, hrequests, -⟩ := derivations_permanent reachable_sampleModel
  have hlaterWrite := hwrites 23 (hset.source_lt 26 23 hwrite) hleaf sampleLater
    (by rw [hfirst]; exact hcontinues)
  have hlaterRequest := hrequests "find" sampleLater (by rw [hsecond]; exact hcontinues) hmethod
  rw [hfirst] at hlaterWrite
  rw [hsecond] at hlaterRequest
  exact ⟨hlaterWrite, hlaterRequest⟩

end ClientGen.Model
