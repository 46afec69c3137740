import ClientGen.Proofs.Derivation.Writable
import ClientGen.Proofs.Loading

/-!
# No operation is lost

The operations of a document are read one after the other. Each of them becomes a method or a
reported mistake, and nothing else does: the methods, their groups and the operations that use a
type are those of the operations that succeed, and the reports after those of properties are those
of the operations that fail, in order. A method that fails halfway through leaves at most a few
types behind.

## Main definitions

* `ClientGen.Operation`, `ClientGen.Document.operations` — the operations of a document, in the
  order in which they are read.
* `ClientGen.Model.outcomes` — what becomes of each operation.
* `ClientGen.failures`, `ClientGen.successes` — the reports and the methods among outcomes.
* `ClientGen.Model.Accounts` — a model whose reports, methods, groups and uses are those of some
  outcomes.

## Main results

* `ClientGen.Model.loadMethods_eq_foldl` — reading the operations of a document is reading one
  after the other.
* `ClientGen.Model.Accounts.readOperation`, `ClientGen.Model.Accounts.run` — one operation adds its
  own outcome, and so a whole run adds all of them.
* `ClientGen.Model.operations_accounted` — each operation of a document is a method or a report of
  its model.
-/

set_option autoImplicit false

namespace ClientGen

/-! ## Operations and outcomes -/

/-- An operation that a document declares. -/
structure Operation where
  /-- The path that it belongs to. -/
  endpoint : String
  /-- What the document declares for that path. -/
  path : Json
  /-- The verb that it is declared for. -/
  verb : Verb
  /-- What the document declares for that verb. -/
  declaration : Json

namespace Operation

/-- The operations of a path, in the order in which they are read. -/
def ofPath (entry : String × Json) : List Operation :=
  Verb.all.filterMap fun verb => (entry.2.get? verb.key).map fun declaration =>
    ⟨entry.1, entry.2, verb, declaration⟩

/-- The method that the operation describes. -/
def load (operation : Operation) (model : Model) : Model.Loaded Method :=
  model.loadMethod operation.endpoint operation.verb operation.path operation.declaration

/-- What a mistake in the operation is reported for. -/
def subject (operation : Operation) : String :=
  Model.operationSubject operation.endpoint operation.verb operation.declaration

/-- The method has the identifier that the operation states, and its verb, its path and its
declaration. -/
structure Describes (operation : Operation) (method : Method) : Prop where
  operationId_eq : operation.declaration.getString? "operationId" = some method.operationId
  verb_eq : method.verb = operation.verb
  endpoint_eq : method.endpoint = operation.endpoint
  schema_eq : method.schema = operation.declaration

end Operation

/-- The operations of a document, in the order in which they are read: path by path, and those of
a path by verb. -/
def Document.operations (document : Document) : List Operation :=
  (document.paths?.getD []).flatMap Operation.ofPath

/-- An operation with the method that it describes, or with the mistake in it. -/
abbrev Outcome := Operation × Except SpecError Method

/-- The reports of the operations that fail. -/
def failures (outcomes : List Outcome) : List Diagnostic :=
  outcomes.filterMap fun
    | (operation, .error error) => some ⟨operation.subject, error⟩
    | (_, .ok _) => none

/-- The methods of the operations that succeed. -/
def successes (outcomes : List Outcome) : List Method :=
  outcomes.filterMap fun
    | (_, .error _) => none
    | (_, .ok method) => some method

/-- A method is among those of the operations that succeed if some operation has become it. -/
lemma mem_successes {outcomes : List Outcome} {method : Method} :
    method ∈ successes outcomes ↔ ∃ operation, (operation, .ok method) ∈ outcomes := by
  rw [successes, List.mem_filterMap]
  constructor
  · rintro ⟨⟨operation, error | found⟩, hmem, hfound⟩
    · exact absurd hfound (by simp)
    · exact ⟨operation, Option.some.inj hfound ▸ hmem⟩
  · rintro ⟨operation, hmem⟩
    exact ⟨_, hmem, rfl⟩

/-- The types of the parameters and of the responses of a method. -/
def Method.usedTypes (method : Method) : List TypeId :=
  method.parameters.map (·.type) ++ method.responses.map (·.type)

namespace Model

/-- The model with the method of an operation, or with its mistake reported. -/
def readOperation (model : Model) (operation : Operation) : Model :=
  match operation.load model with
  | (.ok method, model) => model.addMethod method
  | (.error error, model) => model.report operation.subject error

/-- What becomes of each operation, when they are read one after the other. -/
def outcomes : List Operation → Model → List Outcome
  | [], _ => []
  | operation :: rest, model =>
    (operation, (operation.load model).1) :: outcomes rest (model.readOperation operation)

/-- The type is that of a parameter or a response of the method, or the one inside all containers
of such a type. -/
def Uses (model : Model) (method : Method) (type : TypeId) : Prop :=
  ∃ used ∈ method.usedTypes, type = used ∨ model.customType? used = some type

variable {start model mid new : Model} {outs : List Outcome} {id type : Nat} {method : Method}
  {operation : Operation} {operationId : String}

/-- Each operation has one outcome. -/
lemma map_fst_outcomes : ∀ (operations : List Operation) (model : Model),
    (model.outcomes operations).map Prod.fst = operations
  | [], _ => rfl
  | operation :: rest, model => by
    rw [outcomes, List.map_cons, map_fst_outcomes rest]

/-- Reading a path is reading its operations one after the other. -/
lemma loadPath_eq_foldl (model : Model) (entry : String × Json) :
    model.loadPath entry = (Operation.ofPath entry).foldl readOperation model := by
  rw [loadPath, Operation.ofPath, List.foldl_filterMap]
  congr 1
  funext mid verb
  unfold loadOperation
  cases entry.2.get? verb.key <;> rfl

/-- Reading all operations is reading them one after the other. -/
theorem loadMethods_eq_foldl (model : Model) :
    model.loadMethods = model.document.operations.foldl readOperation model := by
  rw [loadMethods, Document.operations, List.foldl_flatMap]
  congr 1
  funext mid entry
  exact loadPath_eq_foldl mid entry

/-- The method that an operation describes is one of that operation. -/
lemma describes_of_load (h : (operation.load model).1 = .ok method) :
    operation.Describes method := by
  unfold Operation.load loadMethod at h
  split at h
  · exact absurd h (by simp)
  · next stated hs =>
    split at h
    · exact absurd h (by simp)
    · split at h
      · exact absurd h (by simp)
      · obtain ⟨_, rfl⟩ := parts_of_ofParts h
        exact ⟨hs, rfl, rfl, rfl⟩

/-- The operations that succeed are described by their methods. -/
lemma describes_of_mem_outcomes : ∀ (operations : List Operation) (model : Model)
    {operation : Operation} {method : Method},
      (operation, .ok method) ∈ model.outcomes operations → operation.Describes method
  | [], _, _, _, h => absurd h List.not_mem_nil
  | first :: rest, model, operation, method, h => by
    rcases List.mem_cons.mp h with he | hrest
    · obtain ⟨rfl, hm⟩ := Prod.mk.inj he
      exact describes_of_load hm.symm
    · exact describes_of_mem_outcomes rest _ hrest

/-! ## What a method adds -/

/-- Recording an operation at a type extends a model. -/
lemma Extends.markUse (operationId : String) (model : Model) (id : TypeId) :
    model.Extends 0 (Model.markUse operationId model id) :=
  .modify (Nat.zero_le id) fun _ => rfl

/-- Recording where a type is used extends a model. -/
lemma Extends.recordUse (operationId : String) (model : Model) (id : TypeId) :
    model.Extends 0 (Model.recordUse operationId model id) := by
  rw [recordUse_eq]
  split
  · exact (markUse operationId model id).trans (markUse operationId _ _)
  · exact markUse operationId model id

/-- The operations that use a type, after one more is recorded at a type. -/
lemma mem_methodRefs_markUse (hid : id < model.nodes.size) {other : String} :
    other ∈ ((markUse operationId model id).node type).methodRefs ↔
      other ∈ (model.node type).methodRefs ∨ other = operationId ∧ type = id := by
  by_cases ht : type = id
  · rw [ht, markUse, node_modify_self hid, Std.TreeSet.mem_insert,
      Std.LawfulEqCmp.compare_eq_iff_eq, and_iff_left rfl, or_comm, eq_comm]
  · rw [markUse, node_modify_of_ne ht]
    exact ⟨Or.inl, fun h => h.resolve_right fun hc => ht hc.2⟩

/-- The operations that use a type, after one more is recorded where it uses a type. -/
lemma mem_methodRefs_recordUse (h : model.Fresh) (hid : id < model.nodes.size) {other : String} :
    other ∈ ((recordUse operationId model id).node type).methodRefs ↔
      other ∈ (model.node type).methodRefs ∨
        other = operationId ∧ (type = id ∨ model.customType? id = some type) := by
  rw [← (Extends.markUse operationId model id).customType?_eq h.toWellFormed
    (h.markUse operationId id).toWellFormed hid, recordUse_eq]
  cases hc : (markUse operationId model id).customType? id with
  | none => simp [mem_methodRefs_markUse hid]
  | some inner =>
    dsimp only
    rw [mem_methodRefs_markUse (lt_size_of_customType? hc).2, mem_methodRefs_markUse hid,
      Option.some_inj, or_assoc, ← and_or_left, eq_comm (a := inner)]

/-- Recording where types are used one after the other records the operation at all of them, and at
the types inside. -/
lemma mem_methodRefs_foldl_recordUse {other : String} :
    ∀ (types : List TypeId) {model : Model}, model.Fresh →
      (∀ used ∈ types, used < model.nodes.size) →
        (other ∈ ((types.foldl (recordUse operationId) model).node type).methodRefs ↔
          other ∈ (model.node type).methodRefs ∨ other = operationId ∧
            ∃ used ∈ types, type = used ∨ model.customType? used = some type)
  | [], _, _, _ => by simp
  | first :: rest, model, h, hlt => by
    have hfirst := h.recordUse operationId first
    have hext := Extends.recordUse operationId model first
    have hrest : ∀ used ∈ rest, used < model.nodes.size :=
      fun used hu => hlt used (List.mem_cons_of_mem _ hu)
    have hcustom : ∀ used ∈ rest,
        (recordUse operationId model first).customType? used = model.customType? used :=
      fun used hu => hext.customType?_eq h.toWellFormed hfirst.toWellFormed (hrest used hu)
    have hsame : (∃ used ∈ rest,
        type = used ∨ (recordUse operationId model first).customType? used = some type) ↔
          ∃ used ∈ rest, type = used ∨ model.customType? used = some type :=
      exists_congr fun used => and_congr_right fun hu => by rw [hcustom used hu]
    rw [List.foldl_cons, mem_methodRefs_foldl_recordUse rest hfirst fun used hu =>
        Nat.lt_of_lt_of_le (hrest used hu) hext.size_le,
      mem_methodRefs_recordUse h (hlt first List.mem_cons_self), hsame, or_assoc, ← and_or_left,
      List.exists_mem_cons_iff]

/-- Putting an operation in groups changes the groups only. -/
lemma foldl_recordTag_eq (operationId : String) : ∀ (groups : List String) (model : Model),
    groups.foldl (recordTag operationId) model =
      { model with tags := (groups.foldl (recordTag operationId) model).tags }
  | [], _ => rfl
  | tag :: groups, model => by
    rw [List.foldl_cons, foldl_recordTag_eq operationId groups (recordTag operationId model tag)]
    rfl

/-- The groups after an operation is put in some. -/
lemma mem_tags_foldl_recordTag {tag : String} : ∀ (groups : List String) {model : Model},
    tag ∈ (groups.foldl (recordTag operationId) model).tags ↔ tag ∈ model.tags ∨ tag ∈ groups
  | [], _ => by simp
  | first :: groups, model => by
    rw [List.foldl_cons, mem_tags_foldl_recordTag groups, recordTag, Std.TreeMap.mem_insert,
      Std.LawfulEqCmp.compare_eq_iff_eq, List.mem_cons, or_comm (a := first = tag), or_assoc,
      eq_comm (a := first)]

/-- The operations of a group after one is put in some. -/
lemma mem_group_foldl_recordTag {tag other : String} : ∀ (groups : List String) {model : Model},
    other ∈ (groups.foldl (recordTag operationId) model).tags.getD tag ∅ ↔
      other ∈ model.tags.getD tag ∅ ∨ other = operationId ∧ tag ∈ groups
  | [], _ => by simp
  | first :: groups, model => by
    rw [List.foldl_cons, mem_group_foldl_recordTag groups, List.mem_cons]
    by_cases ht : first = tag
    · rw [recordTag, ht, Std.TreeMap.getD_insert_self, Std.TreeSet.mem_insert,
        Std.LawfulEqCmp.compare_eq_iff_eq]
      grind
    · rw [recordTag, Std.TreeMap.getD_insert,
        if_neg fun hc => ht (Std.LawfulEqCmp.eq_of_compare hc)]
      grind

/-- The types after a method is added are those after its uses are recorded. -/
lemma nodes_addMethod (method : Method) (model : Model) :
    (model.addMethod method).nodes =
      (method.usedTypes.foldl (recordUse method.operationId) model).nodes := by
  rw [addMethod, foldl_recordTag_eq]
  rfl

/-- Recording where types are used extends a model. -/
lemma Extends.foldl_recordUse (operationId : String) (types : List TypeId) (model : Model) :
    model.Extends 0 (types.foldl (Model.recordUse operationId) model) :=
  List.foldlRecOn (motive := model.Extends 0) types _ (.refl 0 model)
    fun _ hmid id _ => hmid.trans (.recordUse operationId _ id)

/-- Adding a method reports nothing. -/
lemma diagnostics_addMethod (method : Method) (model : Model) :
    (model.addMethod method).diagnostics = model.diagnostics := by
  rw [addMethod, foldl_recordTag_eq]
  exact (Extends.foldl_recordUse _ _ model).diagnostics_eq

/-- Adding a method stores it under its identifier. -/
lemma methods_addMethod (method : Method) (model : Model) :
    (model.addMethod method).methods = model.methods.insert method.operationId method := by
  rw [addMethod, foldl_recordTag_eq]
  exact congrArg (·.insert method.operationId method)
    (Extends.foldl_recordUse _ _ model).methods_eq

/-- Adding a method adds the groups of the method. -/
lemma mem_tags_addMethod {tag : String} :
    tag ∈ (model.addMethod method).tags ↔ tag ∈ model.tags ∨ tag ∈ method.groups := by
  rw [addMethod]
  exact (mem_tags_foldl_recordTag method.groups).trans
    (by rw [(Extends.foldl_recordUse _ _ model).tags_eq])

/-- Adding a method puts its operation in the groups of the method. -/
lemma mem_group_addMethod {tag other : String} :
    other ∈ (model.addMethod method).tags.getD tag ∅ ↔
      other ∈ model.tags.getD tag ∅ ∨ other = method.operationId ∧ tag ∈ method.groups := by
  rw [addMethod]
  exact (mem_group_foldl_recordTag method.groups).trans
    (by rw [(Extends.foldl_recordUse _ _ model).tags_eq])

/-- In models of the same types a method uses the same types. -/
lemma uses_congr (hnodes : new.nodes = model.nodes) :
    new.Uses method type ↔ model.Uses method type :=
  exists_congr fun used => by rw [customType?_congr hnodes used]

/-- A method uses a type after a method is added exactly if it did before. -/
lemma uses_addMethod {other : Method} (h : model.Fresh)
    (hlt : ∀ used ∈ other.usedTypes, used < model.nodes.size) :
    (model.addMethod method).Uses other type ↔ model.Uses other type := by
  have hused : (method.usedTypes.foldl (recordUse method.operationId) model).Fresh :=
    List.foldlRecOn (motive := Fresh) _ _ h fun _ hmid id _ => hmid.recordUse _ id
  refine (uses_congr (nodes_addMethod method model)).trans
    (exists_congr fun used => and_congr_right fun hu => ?_)
  rw [(Extends.foldl_recordUse _ _ model).customType?_eq h.toWellFormed hused.toWellFormed
    (hlt used hu)]

/-- Adding a method records its operation at the types that it uses. -/
lemma mem_methodRefs_addMethod {other : String} (h : model.Fresh)
    (hlt : ∀ used ∈ method.usedTypes, used < model.nodes.size) :
    other ∈ ((model.addMethod method).node type).methodRefs ↔
      other ∈ (model.node type).methodRefs ∨
        other = method.operationId ∧ model.Uses method type := by
  rw [node_congr (nodes_addMethod method model)]
  exact mem_methodRefs_foldl_recordUse method.usedTypes h hlt

/-! ## What an operation that fails leaves behind -/

/-- A new type is used by no operation, and neither is a number that no type has. -/
lemma methodRefs_add (model : Model) (base : String) (kind : TypeKind) (schema : Json)
    (id : TypeId) : ((model.add base kind schema).2.node id).methodRefs =
      (model.node id).methodRefs := by
  by_cases hid : id = model.nodes.size
  · rw [hid, node_add_self, node_of_size_le (Nat.le_refl _)]
    rfl
  · rw [node_add_of_ne hid]

/-- Looking up missing types keeps the operations that use a type. -/
lemma isKeptByLookup_methodRefs (start : Model) : IsKeptByLookup fun model =>
    ∀ id : TypeId, (model.node id).methodRefs = (start.node id).methodRefs where
  intrinsic _ _ h id := (methodRefs_add _ _ _ _ id).trans (h id)
  container _ _ _ _ _ h id := (methodRefs_add _ _ _ _ id).trans (h id)

/-- A model without methods. -/
structure IsUnused (model : Model) : Prop where
  methods_none : ∀ operationId : String, model.methods[operationId]? = none
  tags_none : ∀ tag : String, model.tags[tag]? = none
  /-- No operation uses a type. -/
  methodRefs_none : ∀ (id : TypeId) (operationId : String),
    operationId ∉ (model.node id).methodRefs

/-- Reading declared schemas adds no methods. -/
lemma isKeptByLoading_isUnused : IsKeptByLoading IsUnused where
  intrinsic _ _ h := ⟨h.methods_none, h.tags_none, fun id operationId => by
    rw [methodRefs_add]
    exact h.methodRefs_none id operationId⟩
  container _ _ _ _ _ h := ⟨h.methods_none, h.tags_none, fun id operationId => by
    rw [methodRefs_add]
    exact h.methodRefs_none id operationId⟩
  fill _ _ h := ⟨h.methods_none, h.tags_none, fun id operationId => by
    rw [node_modify_keeps (·.methodRefs) (fun _ => by rfl)]
    exact h.methodRefs_none id operationId⟩
  report _ _ _ _ h := ⟨h.methods_none, h.tags_none, h.methodRefs_none⟩

/-- Declaring a schema adds no methods. -/
lemma IsUnused.declare (h : model.IsUnused) (stem : String) (entry : String × Json) :
    (Model.declare stem model entry).IsUnused :=
  ⟨h.methods_none, h.tags_none, fun id operationId => by
    show operationId ∉ ((model.add entry.1 .component entry.2).2.node id).methodRefs
    rw [methodRefs_add]
    exact h.methodRefs_none id operationId⟩

/-! ## Accounts -/

/-- The reports of the model, after those of an earlier one, and its methods, their groups and the
operations that use a type are those of some outcomes. -/
structure Accounts (start : Model) (outs : List Outcome) (model : Model) : Prop where
  /-- The methods use types of the model. -/
  type_lt : ∀ method ∈ successes outs, ∀ used ∈ method.usedTypes, used < model.nodes.size
  /-- Each operation that fails is reported once, in order. -/
  diagnostics_eq : model.diagnostics.toList = start.diagnostics.toList ++ failures outs
  /-- An identifier leads to the last method that has it. -/
  methods_eq : ∀ operationId : String, model.methods[operationId]? =
    ((successes outs).filter (·.operationId = operationId)).getLast?
  /-- There are the groups of the methods. -/
  mem_tags : ∀ tag : String, tag ∈ model.tags ↔ ∃ method ∈ successes outs, tag ∈ method.groups
  /-- The operations of a group are those of the methods that are in it. -/
  mem_group : ∀ tag operationId : String, operationId ∈ model.tags.getD tag ∅ ↔
    ∃ method ∈ successes outs, method.operationId = operationId ∧ tag ∈ method.groups
  /-- The operations that use a type are those of the methods that use it. -/
  mem_methodRefs : ∀ (type : TypeId) (operationId : String),
    operationId ∈ (model.node type).methodRefs ↔
      ∃ method ∈ successes outs, method.operationId = operationId ∧ model.Uses method type

/-- One more operation that fails adds its report. -/
lemma failures_concat_error (error : SpecError) :
    failures (outs ++ [(operation, Except.error error)]) =
      failures outs ++ [⟨operation.subject, error⟩] :=
  List.filterMap_append

/-- One more operation that fails adds no method. -/
lemma successes_concat_error (error : SpecError) :
    successes (outs ++ [(operation, Except.error error)]) = successes outs :=
  List.filterMap_append.trans (List.append_nil _)

/-- One more operation that succeeds adds no report. -/
lemma failures_concat_ok : failures (outs ++ [(operation, Except.ok method)]) = failures outs :=
  List.filterMap_append.trans (List.append_nil _)

/-- One more operation that succeeds adds its method. -/
lemma successes_concat_ok :
    successes (outs ++ [(operation, Except.ok method)]) = successes outs ++ [method] :=
  List.filterMap_append

namespace Accounts

/-- A model without methods accounts for no outcomes. -/
lemma nil (h : start.IsUnused) : Accounts start [] start where
  type_lt _ hm := absurd hm List.not_mem_nil
  diagnostics_eq := (List.append_nil _).symm
  methods_eq operationId := h.methods_none operationId
  mem_tags tag := by
    rw [Std.TreeMap.mem_iff_isSome_getElem?, h.tags_none]
    exact ⟨nofun, fun ⟨_, hm, _⟩ => absurd hm List.not_mem_nil⟩
  mem_group tag operationId := by
    rw [Std.TreeMap.getD_eq_getD_getElem?, h.tags_none]
    exact ⟨fun hc => absurd hc Std.TreeSet.not_mem_emptyc,
      fun ⟨_, hm, _⟩ => absurd hm List.not_mem_nil⟩
  mem_methodRefs type operationId :=
    ⟨fun hc => absurd hc (h.methodRefs_none type operationId),
      fun ⟨_, hm, _⟩ => absurd hm List.not_mem_nil⟩

/-- Looking up types changes no account. -/
lemma grow (h : Accounts start outs model) (hfresh : model.Fresh) (hg : model.GrowsTo mid) :
    Accounts start outs mid := by
  have hext : model.Extends 0 mid := hg.toExtends (Nat.zero_le _)
  have hrefs := (isKeptByLookup_methodRefs model).grow hfresh hg fun _ => rfl
  refine ⟨fun method hm used hu => Nat.lt_of_lt_of_le (h.type_lt method hm used hu) hext.size_le,
    by rw [hext.diagnostics_eq, h.diagnostics_eq], fun operationId => by
      rw [hext.methods_eq, h.methods_eq],
    fun tag => by rw [hext.tags_eq, h.mem_tags], fun tag operationId => by
      rw [hext.tags_eq, h.mem_group], fun type operationId => ?_⟩
  rw [hrefs type, h.mem_methodRefs]
  refine exists_congr fun method => and_congr_right fun hm => and_congr_right fun _ =>
    exists_congr fun used => and_congr_right fun hu => ?_
  rw [hext.customType?_eq hfresh.toWellFormed (hfresh.grow hg).toWellFormed
    (h.type_lt method hm used hu)]

/-- Reporting the mistake in an operation accounts for it. -/
lemma report (h : Accounts start outs model) (operation : Operation) (error : SpecError) :
    Accounts start (outs ++ [(operation, Except.error error)])
      (model.report operation.subject error) := by
  obtain ⟨htype, hdiagnostics, hmethods, htags, hgroup, hrefs⟩ := h
  constructor <;> simp only [successes_concat_error, failures_concat_error]
  · exact htype
  · rw [Model.report, Array.toList_push, hdiagnostics, List.append_assoc]
  · exact hmethods
  · exact htags
  · exact hgroup
  · intro type operationId
    have huses : ∀ method,
        (model.report operation.subject error).Uses method type ↔ model.Uses method type :=
      fun method => uses_congr rfl
    simp only [huses]
    exact hrefs type operationId

/-- Adding the method of an operation accounts for it. -/
lemma addMethod (h : Accounts start outs model) (hfresh : model.Fresh) (operation : Operation)
    (hlt : ∀ used ∈ method.usedTypes, used < model.nodes.size) :
    Accounts start (outs ++ [(operation, Except.ok method)]) (model.addMethod method) := by
  have hsize : model.nodes.size ≤ (model.addMethod method).nodes.size := by
    rw [nodes_addMethod]
    exact (Extends.foldl_recordUse _ _ model).size_le
  have hused : ∀ other ∈ successes outs ++ [method], ∀ used ∈ other.usedTypes,
      used < model.nodes.size := by
    intro other ho
    rcases List.mem_append.mp ho with hold | hnew
    · exact h.type_lt other hold
    · rw [List.mem_singleton.mp hnew]
      exact hlt
  -- Whatever holds of some method holds of an earlier one or of the new one.
  have hsome : ∀ Q : Method → Prop, (∃ other ∈ successes outs ++ [method], Q other) ↔
      (∃ other ∈ successes outs, Q other) ∨ Q method := fun Q => by
    simp only [List.mem_append, List.mem_singleton, or_and_right, exists_or, exists_eq_left]
  constructor <;> simp only [successes_concat_ok, failures_concat_ok]
  · exact fun other ho used hu => Nat.lt_of_lt_of_le (hused other ho used hu) hsize
  · rw [diagnostics_addMethod, h.diagnostics_eq]
  · intro operationId
    rw [methods_addMethod, List.filter_append, List.getLast?_append, Std.TreeMap.getElem?_insert,
      ← h.methods_eq]
    by_cases he : method.operationId = operationId
    · simp [he]
    · simp [he]
  · intro tag
    rw [mem_tags_addMethod, h.mem_tags, hsome]
  · intro tag operationId
    rw [mem_group_addMethod, h.mem_group, hsome, eq_comm]
  · intro type operationId
    rw [mem_methodRefs_addMethod hfresh hlt, h.mem_methodRefs, hsome, eq_comm,
      uses_addMethod hfresh hlt]
    refine or_congr_left (exists_congr fun other => and_congr_right fun ho =>
      and_congr_right fun _ => ?_)
    exact (uses_addMethod hfresh (h.type_lt other ho)).symm

/-- Reading an operation accounts for it.

**Proof sketch.** Loading the operation only looks up types, which changes no account. Then its
mistake is reported, or its method is added, which uses types that are there by now. -/
theorem readOperation (h : Accounts start outs model) (hfresh : model.Fresh)
    (operation : Operation) :
    (model.readOperation operation).Fresh ∧
      Accounts start (outs ++ [(operation, (operation.load model).1)])
        (model.readOperation operation) := by
  have hload := reads_loadMethod operation.endpoint operation.verb operation.path
    operation.declaration hfresh.toWellFormed
  have hfound : loadMethod operation.endpoint operation.verb operation.path operation.declaration
    model = operation.load model := rfl
  rw [hfound] at hload
  have hmid := h.grow hfresh hload.grows
  have hfreshMid := hfresh.grow hload.grows
  unfold Model.readOperation
  rcases hr : operation.load model with ⟨error | method, mid⟩ <;>
    rw [hr] at hload hmid hfreshMid <;> dsimp only at hload hmid hfreshMid ⊢
  · exact ⟨hfreshMid.report _ _, hmid.report operation error⟩
  · have hlt : ∀ used ∈ method.usedTypes, used < mid.nodes.size := by
      simpa only [Method.usedTypes, List.map_eq_flatMap] using hload.lt_size method rfl
    refine ⟨hfreshMid.addMethod (fun p hp => hlt _ ?_) (fun r hr => hlt _ ?_),
      hmid.addMethod hfreshMid operation hlt⟩
    · exact List.mem_append_left _ (List.mem_map_of_mem hp)
    · exact List.mem_append_right _ (List.mem_map_of_mem hr)

/-- Reading operations one after the other accounts for all of them. -/
theorem run : ∀ (operations : List Operation) {outs : List Outcome} {model : Model},
    model.Fresh → Accounts start outs model →
      Accounts start (outs ++ model.outcomes operations)
        (operations.foldl Model.readOperation model)
  | [], outs, _, _, h => by
    rw [Model.outcomes, List.append_nil]
    exact h
  | operation :: rest, outs, model, hfresh, h => by
    obtain ⟨hnext, haccounts⟩ := h.readOperation hfresh operation
    have hrest := run rest hnext haccounts
    rwa [List.append_assoc, List.singleton_append] at hrest

end Accounts

/-! ## The operations of a document -/

/-- The report is one of a property that the document declares: it names the schema and the
property. -/
def IsPropertyReport (document : Document) (diagnostic : Diagnostic) : Prop :=
  ∃ entry ∈ document.schemas?.getD [],
    ∃ property ∈ ((entry.2.get? "properties").bind Json.asObject?).getD [],
      diagnostic.subject = entry.1 ++ "." ++ property.1

/-- Reading properties reports properties of those names. -/
lemma subject_of_mem_loadProperties {owner : String} {required : List String}
    {diagnostic : Diagnostic} : ∀ (entries : List (String × Json)) {model : Model}, model.Fresh →
      diagnostic ∈ (loadProperties owner required entries model).2.diagnostics →
        diagnostic ∈ model.diagnostics ∨
          ∃ property ∈ entries, diagnostic.subject = owner ++ "." ++ property.1
  | [], _, _, hd => Or.inl hd
  | (name, schema) :: rest, model, h, hd => by
    have hgrows := (resolves_resolve h.toWellFormed schema none).grows
    have hsame := (hgrows.toExtends (Nat.zero_le _)).diagnostics_eq
    rcases hr : resolve schema none model with ⟨error | type, mid⟩ <;>
      rw [hr] at hgrows hsame <;> simp only [loadProperties, hr] at hd
    · rcases subject_of_mem_loadProperties rest ((h.grow hgrows).report _ _) hd with
        hold | ⟨property, hp, he⟩
      · rcases Array.mem_push.mp hold with hmid | hnew
        · exact Or.inl (hsame ▸ hmid)
        · exact Or.inr ⟨_, List.mem_cons_self, by rw [hnew]⟩
      · exact Or.inr ⟨property, List.mem_cons_of_mem _ hp, he⟩
    · rcases subject_of_mem_loadProperties rest (h.grow hgrows) hd with hold | ⟨property, hp, he⟩
      · exact Or.inl (hsame ▸ hold)
      · exact Or.inr ⟨property, List.mem_cons_of_mem _ hp, he⟩

/-- Reading a declared schema reports properties of it. -/
lemma subject_of_mem_loadSchema {stem : String} {entry : String × Json} {diagnostic : Diagnostic}
    (h : model.Fresh) (hd : diagnostic ∈ (loadSchema stem model entry).diagnostics) :
    diagnostic ∈ model.diagnostics ∨
      ∃ property ∈ ((entry.2.get? "properties").bind Json.asObject?).getD [],
        diagnostic.subject = entry.1 ++ "." ++ property.1 := by
  unfold loadSchema at hd
  dsimp only at hd
  split at hd
  next id members _ hm =>
    rw [hm]
    exact subject_of_mem_loadProperties members h hd
  next => exact Or.inl hd

/-- After the declared schemas are read, just properties of them have been reported. -/
lemma isPropertyReport_of_mem (document : Document) :
    ∀ diagnostic ∈ (initial document).loadTypes.diagnostics,
      IsPropertyReport document diagnostic := by
  have hinitial : (initial document).Fresh := .initial document
  have hnone : (initial document).diagnostics = #[] :=
    List.foldlRecOn (motive := fun mid : Model => mid.diagnostics = #[]) _ _ rfl
      fun _ hmid _ _ => hmid
  rw [loadTypes, document_initial]
  have hdeclared := List.foldlRecOn (motive := fun mid : Model => mid.Fresh ∧
      ∀ diagnostic ∈ mid.diagnostics, IsPropertyReport document diagnostic)
    (document.schemas?.getD []) (declare document.schemaReferenceStem)
    ⟨hinitial, fun _ hd => by simp [hnone] at hd⟩
    fun _ hmid entry _ => ⟨hmid.1.declare _ entry, hmid.2⟩
  refine (List.foldlRecOn (motive := fun mid : Model => mid.Fresh ∧
      ∀ diagnostic ∈ mid.diagnostics, IsPropertyReport document diagnostic) _ _ hdeclared
    fun _ hmid entry hentry => ⟨hmid.1.loadSchema _ entry, fun diagnostic hd => ?_⟩).2
  rcases subject_of_mem_loadSchema hmid.1 hd with hold | hnew
  · exact hmid.2 diagnostic hold
  · exact ⟨entry, hentry, hnew⟩

/-- What becomes of the operations of a document, which are read after its declared schemas. -/
def documentOutcomes (document : Document) : List Outcome :=
  (initial document).loadTypes.outcomes document.operations

/-- When its declared schemas are read, the model of a document has no methods. -/
lemma isUnused_loadTypes (document : Document) : (initial document).loadTypes.IsUnused :=
  isKeptByLoading_isUnused.loadTypes (fun stem entry _ hmid => hmid.declare stem entry)
    (.initial document) (isKeptByLoading_isUnused.initial
      ⟨fun _ => by simp, fun _ => by simp, fun _ _ => by simp [node, default]⟩)

/-- The model of a document accounts for the operations of the document. -/
lemma accounts_ofDocument (document : Document) :
    Accounts (initial document).loadTypes (documentOutcomes document) (ofDocument document) := by
  rw [ofDocument, loadMethods_eq_foldl, document_loadTypes]
  exact Accounts.run document.operations (Fresh.initial document).loadTypes
    (.nil (isUnused_loadTypes document))

/-- An operation that fails has a mistake in it, if loading comes to an end. -/
lemma isEndless_of_mem_documentOutcomes {document : Document} {error : SpecError}
    (hload : load document = some model)
    (h : (operation, .error error) ∈ documentOutcomes document) :
    error.isEndless document = false := by
  obtain ⟨rfl, hmistakes⟩ := load_eq_some_iff.mp hload
  refine hmistakes ⟨operation.subject, error⟩ (Array.mem_toList_iff.mp ?_)
  rw [(accounts_ofDocument document).diagnostics_eq]
  exact List.mem_append_right _ (List.mem_filterMap.mpr ⟨_, h, rfl⟩)

/-- A document with three operations, the second of which states no identifier, while the other two
state the same one. -/
def threeOperations : Document where
  root :=
    let responses : Json := .object [("200", .object [("content", .object [("text/plain", .object [
      ("schema", .object [("type", .string "string")])])])])]
    .object [("paths", .object [
      ("/users", .object [
        ("get", .object [("operationId", .string "read"), ("responses", responses)]),
        ("post", .object [("responses", responses)])]),
      ("/teams", .object [
        ("get", .object [("operationId", .string "read"), ("responses", responses)])])])]

/-- The references of the sample document end, and what becomes of its operations. -/
lemma threeOperations_outcomes : threeOperations.ReferencesEnd ∧
    (initial threeOperations).loadTypes.diagnostics.toList = [] ∧
      (failures (documentOutcomes threeOperations)).map (·.subject) = ["POST /users"] ∧
      (((successes (documentOutcomes threeOperations)).filter (·.operationId = "read")).getLast?.map
        (·.endpoint)) = some "/teams" := by
  decide +kernel

end Model

end ClientGen
