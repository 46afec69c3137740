import ClientGen.Proofs.Graph.References
import ClientGen.Proofs.Registry

/-!
# Cross references of derived types

A derived type keeps the operations that use it, and a type keeps the names of the types that it
refers to, its write types among them. These are written down when a derived type is made and never
again. So they tell of the operation, or of the type, that the derived type was made for, and not of
others that are given it because their shape is the same.

## Main definitions

* `ClientGen.Model.IsMadeFor` — the operations that a derived type was made for.
* `ClientGen.Model.CrossReferenced` — models with the cross references of the derived types that
  are not pending, and no others.

## Main results

* `ClientGen.Model.isInvariant_crossReferenced` — models that can be reached are cross-referenced.
* `ClientGen.Model.Reachable.cross_references` — what is asked for a derived type is referred to
  exactly if the type was made for it.
* `ClientGen.Model.Reachable.unrecorded_use` — the second of two methods of one shape is not
  recorded at the request type that it is given.
-/

set_option autoImplicit false

namespace ClientGen.Model

variable {limit : Nat} {pending : List TypeId} {model old new : Model} {base : String}
  {kind : TypeKind} {schema : Json} {id write source request : Nat} {operationId : String}

/-- The operation is one that a derived type of this kind was made for: the one of a request type,
or one that uses the source of a write type. -/
def IsMadeFor (model : Model) (operationId : String) : TypeKind → Prop
  | .request own => operationId = own
  | .write source => operationId ∈ (model.node source).methodRefs
  | _ => False

/-- The cross references of the derived types that are not pending are there, and no others. -/
structure CrossReferenced (pending : List TypeId) (model : Model) : Prop where
  /-- Whatever a type refers to is the name of a type. -/
  refersToNames : model.RefersToNames
  /-- No operation uses a type that is pending. -/
  methodRefs_pending : ∀ id ∈ pending, ∀ operationId, operationId ∉ (model.node id).methodRefs
  /-- A derived type is used by the operations that it was made for. -/
  methodRefs_iff : ∀ id : TypeId, id ∉ pending → (model.node id).kind.IsDerived →
    ∀ operationId, operationId ∈ (model.node id).methodRefs ↔
      model.IsMadeFor operationId (model.node id).kind
  /-- A type refers to its write types. -/
  write_mem : ∀ write source : TypeId, write ∉ pending → (model.node write).kind = .write source →
    model.nameOf write ∈ (model.node source).customTypes
  /-- A type that is not derived refers to no derived types but its write types. -/
  kind_write : ∀ source write : TypeId, ¬(model.node source).kind.IsDerived →
    (model.node write).kind.IsDerived → model.nameOf write ∈ (model.node source).customTypes →
      (model.node write).kind = .write source

/-! ## Filling in a write type -/

section FillWrite

variable {node : TypeNode} {properties : List Property} {i : Nat} {name : String}

/-- The other types keep the operations that use them. -/
lemma methodRefs_fillWrite_of_ne (hi : i ≠ write) :
    ((model.fillWrite source write node properties).node i).methodRefs =
      (model.node i).methodRefs :=
  (node_modify_keeps (·.methodRefs) (fun _ => by rfl) i).trans
    (congrArg TypeNode.methodRefs (node_modify_of_ne hi))

/-- The write type is used by the operations that use its source. -/
lemma methodRefs_fillWrite_self (hw : write < model.nodes.size) :
    ((model.fillWrite source write node properties).node write).methodRefs = node.methodRefs := by
  refine (node_modify_keeps (·.methodRefs) (fun _ => by rfl) write).trans ?_
  rw [node_modify_self hw]

/-- The other types refer to what they referred to, and the source to its write type. -/
lemma mem_customTypes_fillWrite_of_ne (hi : i ≠ write) (hs : source < model.nodes.size) :
    name ∈ ((model.fillWrite source write node properties).node i).customTypes ↔
      name ∈ (model.node i).customTypes ∨ i = source ∧ name = model.nameOf write := by
  unfold fillWrite
  dsimp only
  rw [mem_customTypes_refer, node_modify_of_ne hi, size_nodes_modify, and_iff_left hs,
    show ∀ change : TypeNode → TypeNode, (∀ node, (change node).name = node.name) →
      (model.modify write change).nameOf write = model.nameOf write from
        fun change hc => node_modify_keeps (·.name) hc write]
  exact fun _ => rfl

/-- References to names stay such, if the source is a type. -/
lemma RefersToNames.fillWrite (h : model.RefersToNames) (hwf : model.WellFormed)
    (hs : source < model.nodes.size) (hw : write < model.nodes.size)
    (hnode : node.name = model.nameOf source) :
    (model.fillWrite source write node properties).RefersToNames := by
  have hmid : (model.modify write fun old => { old with
      properties
      customTypes := (model.customTypeNames properties).insert node.name
      methodRefs := node.methodRefs }).RefersToNames := by
    refine h.modify fun other ho => ?_
    rcases Std.TreeSet.mem_insert.mp ho with heq | hold
    · rw [← Std.LawfulEqCmp.eq_of_compare heq, hnode]
      exact hwf.nameOf_mem_names hs
    · exact hwf.mem_names_of_mem_customTypeNames hold
  refine hmid.modify fun other ho => ?_
  rcases Std.TreeSet.mem_insert.mp ho with heq | hold
  · rw [← Std.LawfulEqCmp.eq_of_compare heq, nameOf,
      node_modify_keeps (·.name) (fun _ => by rfl) write]
    exact hwf.nameOf_mem_names hw
  · exact hmid source other hold

end FillWrite

/-! ## The steps -/

/-- The operations that a derived type was made for stay, if those that use its source do. -/
lemma isMadeFor_congr (h : ∀ source : TypeId, kind = .write source →
    (new.node source).methodRefs = (old.node source).methodRefs) :
    new.IsMadeFor operationId kind ↔ old.IsMadeFor operationId kind := by
  cases kind with
  | write source => rw [IsMadeFor, IsMadeFor, h source rfl]
  | _ => exact Iff.rfl

namespace CrossReferenced

/-- In a model of the same types with the same names the same cross references are there. -/
lemma congr (h : old.CrossReferenced pending) (hnodes : new.nodes = old.nodes)
    (hnames : new.names = old.names) : new.CrossReferenced pending := by
  obtain ⟨_, nodes, names, _, _, _, _, _⟩ := new
  obtain rfl : nodes = old.nodes := hnodes
  obtain rfl : names = old.names := hnames
  exact ⟨h.refersToNames, h.methodRefs_pending, h.methodRefs_iff, h.write_mem, h.kind_write⟩

/-- A model without derived types is cross-referenced. -/
lemma of_fresh (h : model.Fresh) (hn : model.RefersToNames) : model.CrossReferenced [] where
  refersToNames := hn
  methodRefs_pending _ hid := absurd hid List.not_mem_nil
  methodRefs_iff id _ hd := absurd hd (h.not_isDerived id)
  write_mem write _ _ hk := absurd (hk ▸ trivial) (h.not_isDerived write)
  kind_write _ write _ hd := absurd hd (h.not_isDerived write)

/-- Adding a type, which is pending from then on if it is derived, keeps the cross references.

**Proof sketch.** The new type refers to nothing, and no type refers to it: what a type refers to
is the name of a type that was there, and the new name was free. -/
lemma add {now : List TypeId} (h : model.CrossReferenced pending) (hwf : model.WellFormed)
    (hnow : ∀ id ∈ now, id ∈ pending ∨ id = model.nodes.size) (hle : pending ⊆ now)
    (hd : kind.IsDerived → model.nodes.size ∈ now) :
    (model.add base kind schema).2.CrossReferenced now := by
  have hold : ∀ id : TypeId, id ≠ model.nodes.size →
      (model.add base kind schema).2.node id = model.node id := fun id => node_add_of_ne
  have hself : (model.add base kind schema).2.node model.nodes.size =
      { id := model.nodes.size, name := model.uniqueName base, kind, schema } := node_add_self
  have hsource : ∀ id source : TypeId, (model.node id).kind = .write source →
      source ≠ model.nodes.size := fun id source hk => Nat.ne_of_lt (hwf.source_lt id source hk)
  -- A derived type that is not pending is one that was there.
  have hne : ∀ id : TypeId, id ∉ now → ((model.add base kind schema).2.node id).kind.IsDerived →
      id ≠ model.nodes.size := by
    rintro id hid hk rfl
    rw [hself] at hk
    exact hid (hd hk)
  refine ⟨h.refersToNames.add, fun id hid operationId => ?_, fun id hid hk operationId => ?_,
    fun write source hid hk => ?_, fun source write hs hw hn => ?_⟩
  · by_cases hi : id = model.nodes.size
    · rw [hi, hself]
      exact Std.TreeSet.not_mem_emptyc
    · rw [hold id hi]
      exact h.methodRefs_pending id ((hnow id hid).resolve_right hi) operationId
  · have hi := hne id hid hk
    rw [hold id hi] at hk ⊢
    rw [h.methodRefs_iff id (fun hc => hid (hle hc)) hk operationId]
    exact (isMadeFor_congr fun source hk => by rw [hold source (hsource id source hk)]).symm
  · have hi := hne write hid (by rw [hk]; trivial)
    rw [hold write hi] at hk
    rw [nameOf, hold write hi, hold source (hsource write source hk)]
    exact h.write_mem write source (fun hc => hid (hle hc)) hk
  · by_cases hi : source = model.nodes.size
    · rw [hi, hself] at hn
      exact absurd hn Std.TreeSet.not_mem_emptyc
    · rw [hold source hi] at hs hn
      by_cases hi' : write = model.nodes.size
      · rw [nameOf, hi', hself] at hn
        have htaken := h.refersToNames source _ hn
        rw [Std.TreeMap.mem_iff_isSome_getElem?, getElem?_names_uniqueName] at htaken
        exact Bool.noConfusion htaken
      · rw [nameOf, hold write hi'] at hn
        rw [hold write hi'] at hw ⊢
        exact h.kind_write source write hs hw hn

/-- Registering a type makes it pending and keeps the cross references. -/
lemma register (h : model.CrossReferenced pending) (hwf : model.WellFormed) (key base : String)
    (kind : TypeKind) (schema : Json) :
    (model.register key base kind schema).CrossReferenced (model.nodes.size :: pending) := by
  have hadd : (model.add base kind schema).2.CrossReferenced (model.nodes.size :: pending) :=
    h.add hwf (fun _ hid => (List.mem_cons.mp hid).symm) (List.subset_cons_self _ _)
      fun _ => List.mem_cons_self
  exact hadd.congr rfl rfl

/-- Filling in a write type records its cross references. -/
lemma fillWrite {node : TypeNode} {properties : List Property}
    (h : model.CrossReferenced (write :: pending)) (hc : model.Coherent limit (write :: pending))
    (hnot : write ∉ pending) (hk : (model.node write).kind = .write source)
    (hname : node.name = model.nameOf source)
    (hrefs : node.methodRefs = (model.node source).methodRefs) :
    (model.fillWrite source write node properties).CrossReferenced pending := by
  have hwlt : write < model.nodes.size := hc.pending_lt write List.mem_cons_self
  have hslt : source < model.nodes.size := hc.source_lt write source hk
  -- Sources are below the limit, so the write type is the source of none.
  have hne : ∀ id other : TypeId, (model.node id).kind = .write other → other ≠ write :=
    fun id other ho => Nat.ne_of_lt
      (Nat.lt_of_lt_of_le (hc.source_lt_limit ho) (hc.pending_ge write List.mem_cons_self))
  refine ⟨h.refersToNames.fillWrite hc.toWellFormed hslt hwlt hname, fun id hid operationId => ?_,
    fun id hid hd operationId => ?_, fun other under hid ho => ?_, fun under other hu ho hn => ?_⟩
  · rw [methodRefs_fillWrite_of_ne (by rintro rfl; exact hnot hid)]
    exact h.methodRefs_pending id (List.mem_cons_of_mem _ hid) operationId
  · rw [kind_fillWrite] at hd ⊢
    rw [isMadeFor_congr fun under hu => methodRefs_fillWrite_of_ne (hne id under hu)]
    by_cases hi : id = write
    · rw [hi, methodRefs_fillWrite_self hwlt, hrefs, hk]
      exact Iff.rfl
    · rw [methodRefs_fillWrite_of_ne hi]
      exact h.methodRefs_iff id (fun hm => (List.mem_cons.mp hm).elim hi hid) hd operationId
  · rw [kind_fillWrite] at ho
    rw [nameOf_fillWrite, mem_customTypes_fillWrite_of_ne (hne other under ho) hslt]
    by_cases hi : other = write
    · rw [hi] at ho ⊢
      exact Or.inr ⟨TypeKind.write.inj (ho.symm.trans hk), rfl⟩
    · exact Or.inl (h.write_mem other under (fun hm => (List.mem_cons.mp hm).elim hi hid) ho)
  · rw [kind_fillWrite] at hu ho ⊢
    have hi : under ≠ write := by
      rintro rfl
      exact hu (by rw [hk]; trivial)
    rw [nameOf_fillWrite, mem_customTypes_fillWrite_of_ne hi hslt] at hn
    rcases hn with hold | ⟨rfl, heq⟩
    · exact h.kind_write under other hu ho hold
    · rw [hc.nameOf_injOn (lt_size_of_isDerived ho) hwlt heq]
      exact hk

/-- Filling in a request type records the operation that it was made for. -/
lemma fillRequest (properties : List Property) (h : model.CrossReferenced [request])
    (hc : model.Coherent limit [request]) (hk : (model.node request).kind = .request operationId) :
    (model.fillRequest request operationId properties).CrossReferenced [] := by
  have hrlt : request < model.nodes.size := hc.pending_lt request List.mem_cons_self
  have hne : ∀ id other : TypeId, (model.node id).kind = .write other → other ≠ request :=
    fun id other ho => Nat.ne_of_lt
      (Nat.lt_of_lt_of_le (hc.source_lt_limit ho) (hc.pending_ge request List.mem_cons_self))
  have hother : ∀ id : TypeId, id ≠ request →
      (model.fillRequest request operationId properties).node id = model.node id :=
    fun id => node_modify_of_ne
  have hpending : ∀ id : TypeId, id ≠ request → id ∉ [request] :=
    fun id hi hm => hi (List.mem_singleton.mp hm)
  refine ⟨h.refersToNames.modify fun other ho => hc.mem_names_of_mem_customTypeNames ho,
    fun id hid => absurd hid List.not_mem_nil, fun id _ hd used => ?_, fun other under _ ho => ?_,
    fun under other hu ho hn => ?_⟩
  · rw [kind_fillRequest] at hd ⊢
    rw [isMadeFor_congr fun under hu =>
      congrArg TypeNode.methodRefs (hother under (hne id under hu))]
    by_cases hi : id = request
    · rw [hi, Model.fillRequest, node_modify_self hrlt, hk, Std.TreeSet.mem_insert,
        Std.LawfulEqCmp.compare_eq_iff_eq,
        or_iff_left (h.methodRefs_pending request List.mem_cons_self used)]
      exact eq_comm
    · rw [hother id hi]
      exact h.methodRefs_iff id (hpending id hi) hd used
  · rw [kind_fillRequest] at ho
    have hi : other ≠ request := by
      rintro rfl
      rw [hk] at ho
      exact TypeKind.noConfusion ho
    rw [nameOf_fillRequest, hother under (hne other under ho)]
    exact h.write_mem other under (hpending other hi) ho
  · rw [kind_fillRequest] at hu ho ⊢
    have hi : under ≠ request := by
      rintro rfl
      exact hu (by rw [hk]; trivial)
    rw [nameOf_fillRequest, hother under hi] at hn
    exact h.kind_write under other hu ho hn

end CrossReferenced

/-- Models that can be reached are cross-referenced. -/
theorem isInvariant_crossReferenced : IsInvariant CrossReferenced where
  container _ _ h _ _ hmodel :=
    hmodel.add h.toWellFormed (fun _ => Or.inl) (List.Subset.refl _) False.elim
  register h _ hmodel := hmodel.register h.toWellFormed _ _ _ _
  fill h hnot hk hname hrefs hmodel := hmodel.fillWrite h hnot hk hname hrefs
  registerRequest _ h hmodel := hmodel.register h.toWellFormed _ _ _ _
  fillRequest properties h hk hmodel := hmodel.fillRequest properties h hk
  initial document := .of_fresh (.initial document) (.initial document)
  ofDocument document := .of_fresh (.ofDocument document) (.ofDocument document)
  intrinsic _ h hmodel :=
    hmodel.add h.toWellFormed (fun _ => Or.inl) (List.Subset.refl _) False.elim
  retain _ _ _ hmodel := hmodel.congr rfl rfl

/-! ## What is asked for -/

namespace Settled

/-- What is asked for as the request type of a method is a derived type, and the one of that method
if it was not there before. -/
lemma isDerived_requestType (h : model.Settled)
    (hr : Model.requestType operationId model = (some request, new)) :
    (new.node request).kind.IsDerived ∧
      (model.nodes.size ≤ request → (new.node request).kind = .request operationId) := by
  obtain ⟨method, hm, hmay⟩ := exists_method_of_requestType hr
  exact (hr ▸ h.answers_requestType hm hmay).isDerived h trivial

/-- What is asked for as the write type of a type that is no container is a derived type, and the
one of that type if it was not there before. -/
lemma isDerived_writeType (h : model.Settled) (hleaf : (model.node source).element? = none)
    (hr : Model.writeType source model = (some write, new)) :
    (new.node write).kind.IsDerived ∧
      (model.nodes.size ≤ write → (new.node write).kind = .write source) := by
  have hw : model.HasWriteType source := hasWriteType_of_writeType hleaf hr
  exact (hr ▸ h.answers_writeType hleaf hw).isDerived h trivial

end Settled

/-- A type that is no write type refers to a derived type exactly if that is its write type, or,
for a request type, if a property is of that type. -/
lemma Reachable.mem_customTypes_iff (h : model.Reachable)
    (hs : ∀ under : TypeId, (model.node source).kind ≠ .write under)
    (hw : (model.node write).kind.IsDerived) :
    model.nameOf write ∈ (model.node source).customTypes ↔
      (model.node write).kind = .write source ∨
        (∃ operationId, (model.node source).kind = .request operationId) ∧
          ∃ p ∈ (model.node source).properties, model.innermost p.type = write := by
  have href : model.CrossReferenced [] := isInvariant_crossReferenced.of_reachable h
  have hwlt : write < model.nodes.size := lt_size_of_isDerived hw
  refine ⟨fun hn => ?_, ?_⟩
  · by_cases hd : (model.node source).kind.IsDerived
    · have hrequest : ∃ operationId, (model.node source).kind = .request operationId := by
        cases hk : (model.node source).kind with
        | request operationId => exact ⟨operationId, rfl⟩
        | write under => exact absurd hk (hs under)
        | _ => rw [hk] at hd; exact hd.elim
      obtain ⟨operationId, hk⟩ := hrequest
      rcases (h.settled.customTypes_iff source operationId hk List.not_mem_nil _).mp hn with
        hp | ⟨other, -, hk', hn'⟩
      · obtain ⟨p, hp, type, htype, hn'⟩ := mem_customTypeNames.mp hp
        obtain ⟨rfl, hlt⟩ := lt_size_of_customType? htype
        exact Or.inr ⟨⟨operationId, hk⟩, p, hp, h.settled.nameOf_injOn hlt hwlt hn'⟩
      · have hlt : other < model.nodes.size :=
          lt_size_of_kind_ne (by rw [hk']; exact TypeKind.noConfusion)
        rw [← h.settled.nameOf_injOn hlt hwlt hn']
        exact Or.inl hk'
    · exact Or.inl (href.kind_write source write hd hw hn)
  · rintro (hk | ⟨⟨operationId, hk⟩, p, hp, rfl⟩)
    · exact href.write_mem write source List.not_mem_nil hk
    · rw [h.settled.customTypes_iff source operationId hk List.not_mem_nil]
      refine Or.inl (mem_customTypeNames.mpr ⟨p, hp, _, ?_, rfl⟩)
      rw [customType?]
      refine if_neg fun hi => ?_
      rw [TypeNode.isIntrinsic, decide_eq_true_eq] at hi
      rw [hi] at hw
      exact hw

/-- What is asked for as the request type of a method is used by the method exactly if it was made
for it, and so if it is new. What is asked for as the write type of a type is referred to by that
type exactly if it was made for it, or if a property of a request type is of that type anyway, and
is used by the operations that it was made for and no others. It was made for that type if it is
new. -/
theorem Reachable.cross_references (h : model.Reachable) :
    (∀ (operationId : String) (request : TypeId) (new : Model),
      Model.requestType operationId model = (some request, new) →
        (∀ used : String, used ∈ (new.node request).methodRefs ↔
          new.IsMadeFor used (new.node request).kind) ∧
        (model.nodes.size ≤ request → (new.node request).kind = .request operationId)) ∧
    ∀ (source write : TypeId) (new : Model), (model.node source).element? = none →
      Model.writeType source model = (some write, new) →
        (new.nameOf write ∈ (new.node source).customTypes ↔
          (new.node write).kind = .write source ∨
            (∃ operationId, (new.node source).kind = .request operationId) ∧
              ∃ p ∈ (new.node source).properties, new.innermost p.type = write) ∧
        (∀ used : String, used ∈ (new.node write).methodRefs ↔
          new.IsMadeFor used (new.node write).kind) ∧
        (model.nodes.size ≤ write → (new.node write).kind = .write source) := by
  refine ⟨fun operationId request new hr => ?_, fun source write new hleaf hr => ?_⟩
  · have hnew : new.Reachable := by
      have := h.requestType operationId
      rwa [hr] at this
    obtain ⟨hd, hkind⟩ := h.settled.isDerived_requestType hr
    have href : new.CrossReferenced [] := isInvariant_crossReferenced.of_reachable hnew
    exact ⟨href.methodRefs_iff request List.not_mem_nil hd, hkind⟩
  · have hnew : new.Reachable := by
      have := h.writeType source
      rwa [hr] at this
    obtain ⟨hd, hkind⟩ := h.settled.isDerived_writeType hleaf hr
    have href : new.CrossReferenced [] := isInvariant_crossReferenced.of_reachable hnew
    refine ⟨hnew.mem_customTypes_iff (fun under hk => ?_) hd,
      href.methodRefs_iff write List.not_mem_nil hd, hkind⟩
    -- A write type has no write type, so there would be nothing to ask for.
    have hk' : (model.node source).kind = .write under := by
      have he : model.Extends model.nodes.size new := by
        have := (h.settled.writeType_spec source).2
        rwa [hr] at this
      rw [← he.kind_eq]
      · exact hk
      · by_contra hle
        rw [writeType_of_not (not_hasWriteType_of_size_le (Nat.le_of_not_lt hle))] at hr
        exact absurd (congrArg Prod.fst hr) (Option.some_ne_none write).symm
    exact absurd (hasWriteType_of_writeType hleaf hr) (h.settled.not_hasWriteType_of_write hk')

/-! ## A shared shape -/

/-- A document with two methods of the same parameters. -/
def sharedDocument : Document where
  root := .object [("paths", .object [
    ("/a", queryMethod "a" ["x", "y"]), ("/b", queryMethod "b" ["x", "y"])])]

/-- The model of the shared document, with the request type of the first method. -/
def sharedModel : Model := ((Model.ofDocument sharedDocument).requestType "a").2

/-- The second method of the shared document is given the request type that was made for the first
one, which is not used by the second one. -/
theorem Reachable.unrecorded_use : sharedModel.Reachable ∧
    (Model.requestType "b" sharedModel).1 = some 22 ∧
    "b" ∉ ((Model.requestType "b" sharedModel).2.node 22).methodRefs := by
  have hreach : sharedModel.Reachable := (Reachable.ofDocument sharedDocument).requestType "a"
  have hfacts : (Model.requestType "b" sharedModel).1 = some 22 ∧
      ((Model.requestType "b" sharedModel).2.node 22).kind = .request "a" := by
    decide +kernel
  obtain ⟨hr, hk⟩ := hfacts
  refine ⟨hreach, hr, fun hc => ?_⟩
  have hrefs := (hreach.cross_references.1 "b" 22 _ (Prod.ext hr rfl)).1 "b"
  rw [hk] at hrefs
  have heq : "b" = "a" := hrefs.mp hc
  exact absurd heq (by decide)

end ClientGen.Model
