import ClientGen.Proofs.MethodViews
import ClientGen.Proofs.Parameters.Merging

/-!
# Parameters of one name and location

A parameter of a method is known by its name and its location. A declaration in a path and one in an
operation are merged if they state the same of both. But what they state is compared as it stands,
and read afterwards: the case of a location does not matter then, a missing name is an empty one,
and a request body becomes a parameter with a fixed name. So different declarations can become
parameters of one name and location.

## Main definitions

* `ClientGen.Parameter.key` — the name and the location of a parameter.
* `ClientGen.declaredKey?` — those of the parameter that a declaration describes.
* `ClientGen.Parameter.IsReadFrom` — that a parameter is what a declaration describes.
* `ClientGen.IsPlainlyDeclared` — declarations whose name and location are read as they stand.

## Main results

* `ClientGen.LastWins.nodup_keys_iff` — when the parameters of merged declarations differ in name or
  location.
* `ClientGen.Model.parameters_of_load` — the parameters of a method are read from the merged
  declarations of its operation, and from the request body.
* `ClientGen.Model.parameters_identified` — when those of a method of a document differ in name or
  location, and that the declaration in the operation is what counts.
-/

set_option autoImplicit false

namespace ClientGen

variable {document : Document} {parameters merged shared own : List Json}
  {first second item : Json} {parameter : Parameter}

/-! ## Names and locations -/

/-- The name and the location of a parameter. -/
def Parameter.key (parameter : Parameter) : String × Location :=
  (parameter.name, parameter.location)

/-- The name and the location of the parameter that a declaration describes, if it states one of the
locations. -/
def declaredKey? (declared : Json) : Option (String × Location) :=
  (Location.ofName? (declared.text "in")).map fun location => (declared.text "name", location)

/-- The name and the location of the parameter for the request body of an operation, if there is
one. -/
def bodyKeys (operation : Json) : List (String × Location) :=
  if (operation.get? "requestBody").isSome then [("body", .body)] else []

/-- The parameter is what the declaration describes, for some type. -/
structure Parameter.IsReadFrom (parameter : Parameter) (declared : Json) : Prop where
  location_eq : Location.ofName? (declared.text "in") = some parameter.location
  parameter_eq : parameter =
    .ofSchema declared parameter.type parameter.location (declaredStyle? declared)

/-- A parameter has the name and the location of its declaration. -/
lemma Parameter.IsReadFrom.key_eq (h : parameter.IsReadFrom item) :
    declaredKey? item = some parameter.key := by
  rw [declaredKey?, h.location_eq, key, h.parameter_eq]
  rfl

/-- The text of a member that is one. -/
lemma text_of_get? {name text : String} (h : item.get? name = some (.string text)) :
    item.text name = text := by
  rw [Json.text, Json.getString?, h]
  rfl

/-- Members that are the same have the same text. -/
lemma text_eq_of_same {name : String}
    (h : sameParameter.same (first.get? name) (second.get? name) = true) :
    first.text name = second.text name := by
  rw [Json.text, Json.getString?, Json.text, Json.getString?]
  generalize first.get? name = a at h ⊢
  generalize second.get? name = b at h ⊢
  cases a with
  | none =>
    cases b with
    | none => rfl
    | some _ => exact absurd h Bool.noConfusion
  | some a =>
    cases b with
    | none => exact absurd h Bool.noConfusion
    | some b => rw [Option.bind_some, Option.bind_some, Json.asString?_eq_of_equiv h]

/-- Declarations of the same parameter describe parameters of one name and location. -/
lemma declaredKey?_eq_of_same (h : sameParameter first second = true) :
    declaredKey? first = declaredKey? second := by
  obtain ⟨hname, hplace⟩ := Bool.and_eq_true_iff.mp h
  rw [declaredKey?, declaredKey?, text_eq_of_same hname, text_eq_of_same hplace]

/-- The declaration states its name and its location as texts, the location as it is written in
lower case. -/
def IsPlainlyDeclared (declared : Json) : Prop :=
  ∃ (name : String) (location : Location),
    declared.get? "name" = some (.string name) ∧ declared.get? "in" = some (.string location.name)

namespace IsPlainlyDeclared

/-- The name and the location that a plain declaration states are those of the parameter. -/
lemma declaredKey?_eq {name : String} {location : Location}
    (hname : item.get? "name" = some (.string name))
    (hplace : item.get? "in" = some (.string location.name)) :
    declaredKey? item = some (name, location) := by
  have hfound : Location.ofName? location.name = some location := by
    cases location <;> decide
  rw [declaredKey?, text_of_get? hplace, text_of_get? hname, hfound]
  rfl

/-- Plain declarations of parameters of one name and location are of the same parameter. -/
lemma same (hfirst : IsPlainlyDeclared first) (hsecond : IsPlainlyDeclared second)
    (h : declaredKey? first = declaredKey? second) : sameParameter first second = true := by
  obtain ⟨name, location, hname, hplace⟩ := hfirst
  obtain ⟨other, place, hother, hinside⟩ := hsecond
  rw [declaredKey?_eq hname hplace, declaredKey?_eq hother hinside] at h
  obtain ⟨rfl, rfl⟩ := Prod.mk.inj (Option.some.inj h)
  rw [sameParameter, hname, hplace, hother, hinside]
  exact Bool.and_eq_true_iff.mpr
    ⟨Json.string_equiv_iff.mpr rfl, Json.string_equiv_iff.mpr rfl⟩

end IsPlainlyDeclared

/-! ## Merged declarations -/

namespace LastWins

/-- The entry for a declaration is the last declaration of the same parameter. -/
lemma getLast?_filter (h : LastWins parameters merged)
    (hparameters : ∀ parameter ∈ parameters, parameter.HasDistinctNames) (hitem : item ∈ parameters)
    {last : Json} (hlast : last ∈ merged) (hsame : sameParameter item last = true) :
    (parameters.filter (sameParameter item)).getLast? = some last := by
  obtain ⟨first, -, hmem, he⟩ := exists_of_mem_right h.lasts hlast
  have hfirst : sameParameter first last = true :=
    (List.mem_filter.mp (List.mem_of_getLast? he)).2
  have hl := hparameters last (h.mem hlast)
  rw [← he]
  refine congrArg List.getLast? (List.filter_congr fun other _ => ?_)
  rw [sameParameter_congr (hparameters item hitem) hl hsame,
    sameParameter_congr (hparameters first hmem) hl hfirst]

/-- Of a parameter that an operation declares, the last declaration in the operation is an entry,
whatever the path declares. -/
lemma exists_own (h : LastWins (shared ++ own) merged)
    (hdistinct : ∀ parameter ∈ shared ++ own, parameter.HasDistinctNames) (hitem : item ∈ own) :
    ∃ last ∈ merged, (own.filter (sameParameter item)).getLast? = some last := by
  have hmem : item ∈ shared ++ own := List.mem_append_right _ hitem
  obtain ⟨last, hlast, hsame⟩ := h.complete item hmem
  refine ⟨last, hlast, ?_⟩
  have hne : own.filter (sameParameter item) ≠ [] :=
    List.ne_nil_of_mem (List.mem_filter.mpr ⟨hitem, sameParameter_refl (hdistinct item hmem)⟩)
  rw [← h.getLast?_filter hdistinct hmem hlast hsame, List.filter_append,
    List.getLast?_append_of_ne_nil _ hne]

/-- The entries describe parameters that differ in name or location exactly if the declarations of
parameters that do not are of the same one. -/
theorem nodup_keys_iff (h : LastWins parameters merged)
    (hdistinct : ∀ parameter ∈ parameters, parameter.HasDistinctNames) :
    (merged.map declaredKey?).Nodup ↔ ∀ first ∈ parameters, ∀ second ∈ parameters,
      declaredKey? first = declaredKey? second → sameParameter first second = true := by
  constructor
  · intro hnodup first hfirst second hsecond hkey
    obtain ⟨last, hlast, hsame⟩ := h.complete first hfirst
    obtain ⟨other, hother, hsame'⟩ := h.complete second hsecond
    have hkeys : declaredKey? last = declaredKey? other := by
      rw [← declaredKey?_eq_of_same hsame, hkey, declaredKey?_eq_of_same hsame']
    obtain rfl := List.inj_on_of_nodup_map hnodup hlast hother hkeys
    exact sameParameter_trans (hdistinct first hfirst) hsame
      (sameParameter_symm (hdistinct second hsecond) (hdistinct last (h.mem hlast)) hsame')
  · intro hall
    rw [List.Nodup, List.pairwise_map]
    refine h.distinct.imp_of_mem fun {first second} hfirst hsecond hnot hkey => ?_
    rw [hall first (h.mem hfirst) second (h.mem hsecond) hkey] at hnot
    exact Bool.noConfusion hnot

/-- No entry describes a parameter of a name and location that no declaration describes. -/
lemma mem_keys_iff (h : LastWins parameters merged) {key : Option (String × Location)} :
    key ∈ merged.map declaredKey? ↔ ∃ parameter ∈ parameters, declaredKey? parameter = key := by
  rw [List.mem_map]
  constructor
  · rintro ⟨last, hlast, rfl⟩
    exact ⟨last, h.mem hlast, rfl⟩
  · rintro ⟨parameter, hp, rfl⟩
    obtain ⟨last, hlast, hsame⟩ := h.complete parameter hp
    exact ⟨last, hlast, (declaredKey?_eq_of_same hsame).symm⟩

end LastWins

namespace Model

variable {model : Model} {path operation : Json} {read : List Parameter} {method : Method}

/-! ## Reading parameters -/

/-- Items that are read one after the other are related to what is read from them, if each of them
is in every model. -/
lemma forall₂_loadEach {α β : Type} (load : α → Model → Loaded β) {R : α → β → Prop}
    (hload : ∀ item (model : Model) value, (load item model).1 = .ok value → R item value) :
    ∀ {items : List α} {model : Model} {values : List β},
      (loadEach load items model).1 = .ok values → List.Forall₂ R items values
  | [], _, values, h => by
    obtain rfl := Except.ok.inj h
    exact .nil
  | item :: rest, model, values, h => by
    rw [loadEach] at h
    rcases hf : load item model with ⟨error | first, mid⟩ <;> rw [hf] at h
    · exact absurd h (by simp)
    · dsimp only at h
      rcases hr : loadEach load rest mid with ⟨error | others, final⟩ <;> rw [hr] at h
      · exact absurd h (by simp)
      · obtain rfl := Except.ok.inj h
        exact .cons (hload item model first (congrArg Prod.fst hf))
          (forall₂_loadEach load hload (congrArg Prod.fst hr))

/-- A parameter is read from its declaration. -/
lemma isReadFrom_loadParameter (h : (loadParameter item model).1 = .ok parameter) :
    parameter.IsReadFrom item := by
  unfold loadParameter at h
  dsimp only at h
  split at h
  · exact absurd h (by simp)
  · next location hlocation =>
    split at h
    · exact absurd h (by simp)
    · obtain rfl := Except.ok.inj h
      exact ⟨hlocation, rfl⟩

/-- A request body becomes a parameter of the body with the name of its location. -/
lemma key_loadBody {body : Json} (h : (loadBody body model).1 = .ok parameter) :
    parameter.key = ("body", .body) := by
  unfold loadBody at h
  split at h
  split at h
  · exact absurd h (by simp)
  · obtain rfl := Except.ok.inj h
    rfl

/-- The parameters of an operation are read from the merged declarations, and then from the request
body, if there is one. -/
lemma parameters_of_loadParameters (h : (loadParameters path operation model).1 = .ok read) :
    ∃ merged first body, mergedParameters model.document path operation = .ok merged ∧
      List.Forall₂ (fun item parameter => parameter.IsReadFrom item) merged first ∧
      body.map (·.key) = bodyKeys operation ∧ read = first ++ body := by
  unfold loadParameters at h
  split at h
  · exact absurd h (by simp)
  · next merged hmerged =>
    rcases hr : loadEach loadParameter merged model with ⟨error | first, mid⟩ <;> rw [hr] at h
    · exact absurd h (by simp)
    · have hok : (loadEach loadParameter merged model).1 = .ok first := by rw [hr]
      have hread : List.Forall₂ (fun item parameter => parameter.IsReadFrom item) merged first :=
        forall₂_loadEach loadParameter (fun _ _ _ hv => isReadFrom_loadParameter hv) hok
      dsimp only at h
      cases hbody : operation.get? "requestBody" with
      | none =>
        rw [hbody] at h
        refine ⟨merged, first, [], hmerged, hread, ?_, ?_⟩
        · simp [bodyKeys, hbody]
        · rw [List.append_nil]
          exact (Except.ok.inj h).symm
      | some body =>
        rw [hbody] at h
        dsimp only at h
        rcases hb : loadBody body mid with ⟨error | parameter, final⟩ <;> rw [hb] at h
        · exact absurd h (by simp)
        · refine ⟨merged, first, [parameter], hmerged, hread, ?_, (Except.ok.inj h).symm⟩
          simp [bodyKeys, hbody, key_loadBody (congrArg Prod.fst hb)]

/-- The parameters of a method are those of its operation. -/
lemma loadParameters_of_load {operation : Operation} (h : (operation.load model).1 = .ok method) :
    (loadParameters operation.path operation.declaration model).1 = .ok method.parameters := by
  unfold Operation.load loadMethod at h
  split at h
  · exact absurd h (by simp)
  · split at h
    · exact absurd h (by simp)
    · next hread =>
      split at h
      · exact absurd h (by simp)
      · obtain ⟨_, rfl⟩ := parts_of_ofParts h
        rw [hread]

/-! ## The operations of a document -/

/-- Reading an operation leaves a model fresh, and one of the same document. -/
lemma Fresh.readOperation (h : model.Fresh) (operation : Operation) :
    (model.readOperation operation).Fresh ∧
      (model.readOperation operation).document = model.document := by
  have hread : model.ReadsTo (model.readOperation operation) :=
    h.toWellFormed.readsTo operation.endpoint operation.verb operation.path operation.declaration
      operation.subject
  exact ⟨h.read hread, (isKeptByReading_document model.document).read h rfl hread⟩

/-- What becomes of an operation is what it is read as in some model of the same document. -/
lemma exists_load_of_mem_outcomes {operation : Operation} {outcome : Except SpecError Method} :
    ∀ {operations : List Operation} {model : Model}, model.Fresh →
      (operation, outcome) ∈ model.outcomes operations →
        ∃ mid : Model, mid.document = model.document ∧ (operation.load mid).1 = outcome
  | [], _, _, h => absurd h List.not_mem_nil
  | first :: rest, model, hfresh, h => by
    rcases List.mem_cons.mp h with he | hrest
    · obtain ⟨rfl, rfl⟩ := Prod.mk.inj he
      exact ⟨model, rfl, rfl⟩
    · obtain ⟨hnext, hdocument⟩ := hfresh.readOperation first
      obtain ⟨mid, hmid, hload⟩ := exists_load_of_mem_outcomes hnext hrest
      exact ⟨mid, hmid.trans hdocument, hload⟩

/-- The declarations of an operation and its path have members of different names, if the document
has. -/
lemma hasDistinctNames_of_mem_operations {operation : Operation}
    (h : document.root.HasDistinctNames) (ho : operation ∈ document.operations) :
    operation.path.HasDistinctNames ∧ operation.declaration.HasDistinctNames := by
  obtain ⟨⟨endpoint, path⟩, hentry, hmem⟩ := List.mem_flatMap.mp ho
  obtain ⟨verb, -, hverb⟩ := List.mem_filterMap.mp hmem
  obtain ⟨declaration, hget, rfl⟩ := Option.map_eq_some_iff.mp hverb
  have hpath : path.HasDistinctNames := by
    cases hpaths : document.root.get? "paths" with
    | none => simp [Document.paths?, hpaths] at hentry
    | some paths =>
      have hdistinct := h.get? hpaths
      cases paths with
      | object members =>
        rw [Document.paths?, hpaths] at hentry
        exact (Json.hasDistinctNames_object_iff.mp hdistinct).2 (endpoint, path) hentry
      | _ => simp [Document.paths?, hpaths, Json.asObject?] at hentry
  exact ⟨hpath, hpath.get? hget⟩

/-- A method of the model of a document belongs to an operation of the document. -/
lemma exists_operation_of_methods {operationId : String}
    (h : (ofDocument document).methods[operationId]? = some method) :
    ∃ operation, operation ∈ document.operations ∧
      (operation, Except.ok method) ∈ documentOutcomes document := by
  obtain ⟨hread, -⟩ := (accounts_ofDocument document).mem_of_stored h
  obtain ⟨operation, ho⟩ := mem_successes.mp hread
  refine ⟨operation, ?_, ho⟩
  rw [← map_fst_outcomes document.operations (initial document).loadTypes]
  exact List.mem_map_of_mem ho

/-! ## The parameters of a method -/

/-- The parameters of the method of an operation are read from the merged declarations of its path
and of itself, and then from its request body, if there is one. -/
lemma parameters_of_mem_outcomes {operation : Operation} (h : document.root.HasDistinctNames)
    (ho : operation ∈ document.operations)
    (hm : (operation, Except.ok method) ∈ documentOutcomes document) :
    ∃ shared own merged first body,
      List.Forall₂ (fun item parameter => document.deref? item = some parameter)
        (declaredParameters operation.path) shared ∧
      List.Forall₂ (fun item parameter => document.deref? item = some parameter)
        (declaredParameters operation.declaration) own ∧
      (∀ parameter ∈ shared ++ own, parameter.HasDistinctNames) ∧
      LastWins (shared ++ own) merged ∧
      List.Forall₂ (fun item parameter => parameter.IsReadFrom item) merged first ∧
      body.map (·.key) = bodyKeys operation.declaration ∧ method.parameters = first ++ body := by
  obtain ⟨mid, hmid, hload⟩ := exists_load_of_mem_outcomes (Fresh.initial document).loadTypes hm
  rw [document_loadTypes] at hmid
  obtain ⟨merged, first, body, hmerged, hfirst, hbody, hread⟩ :=
    parameters_of_loadParameters (loadParameters_of_load hload)
  rw [hmid] at hmerged
  obtain ⟨parameters, hall, rfl⟩ := mergedParameters_eq_ok_iff.mp hmerged
  obtain ⟨hpath, hdeclaration⟩ := hasDistinctNames_of_mem_operations h ho
  have hdistinct := hasDistinctNames_of_deref h hpath hdeclaration hall
  have hshared := (List.forall₂_take_append _ _ _ hall.flip).flip
  have hown := (List.forall₂_drop_append _ _ _ hall.flip).flip
  have hsplit := List.take_append_drop (declaredParameters operation.path).length parameters
  rw [← hsplit] at hdistinct hfirst
  exact ⟨_, _, _, first, body, hshared, hown, hdistinct, lastWins_mergeAll _ hdistinct, hfirst,
    hbody, hread⟩

/-- What is read from the entries for some declarations has the names and locations that they
describe. -/
lemma map_key_eq (h : List.Forall₂ (fun item parameter => parameter.IsReadFrom item) merged read) :
    merged.map declaredKey? = (read.map (·.key)).map some := by
  rw [List.map_map, ← List.forall₂_eq_eq_eq, List.forall₂_map_left_iff, List.forall₂_map_right_iff]
  exact h.imp fun _ _ hread => hread.key_eq

/-- No two parameters that are read from declarations and from a request body have one name and
location exactly if declarations of one name and location are of the same parameter, and none is
of the name and location of the body. -/
theorem nodup_parameters_iff (hwins : LastWins parameters merged)
    (hdistinct : ∀ parameter ∈ parameters, parameter.HasDistinctNames)
    (hread : List.Forall₂ (fun item parameter => parameter.IsReadFrom item) merged read) :
    (read.map (·.key) ++ bodyKeys operation).Nodup ↔
      (∀ first ∈ parameters, ∀ second ∈ parameters,
        declaredKey? first = declaredKey? second → sameParameter first second = true) ∧
      ((operation.get? "requestBody").isSome = true →
        ∀ item ∈ parameters, declaredKey? item ≠ some ("body", .body)) := by
  have hsome : Function.Injective (some : String × Location → _) := fun _ _ => Option.some.inj
  have hnodup : (read.map (·.key)).Nodup ↔ (merged.map declaredKey?).Nodup := by
    rw [map_key_eq hread, List.nodup_map_iff hsome]
  have hbody : ("body", Location.body) ∈ read.map (·.key) ↔
      ∃ item ∈ parameters, declaredKey? item = some ("body", .body) := by
    rw [← hwins.mem_keys_iff, map_key_eq hread, List.mem_map_of_injective hsome]
  rw [← hwins.nodup_keys_iff hdistinct, ← hnodup, bodyKeys]
  cases (operation.get? "requestBody").isSome with
  | false => simp
  | true =>
    rw [if_pos rfl, List.nodup_append_comm, List.singleton_append, List.nodup_cons, hbody]
    simp [and_comm]

/-- In a document in which the members of each object have different names, each method belongs to
an operation. The parameters of the method are those that the merged declarations of the operation
and its path describe, and one for the request body. No two of them have one name and location
exactly if

* declarations of parameters of one name and location state the same of both, and
* none describes a body of the name that the parameter for the request body has, if there is one.

That is so if the names are texts, and the locations are texts in lower case, and if no declaration
describes such a body. In any case, of the parameters that the operation declares it is the last
declaration there that counts, whatever the path declares. -/
theorem parameters_identified {operationId : String} (h : document.root.HasDistinctNames)
    (hmethod : (ofDocument document).methods[operationId]? = some method) :
    ∃ operation shared own,
      (operation, Except.ok method) ∈ documentOutcomes document ∧
      List.Forall₂ (fun item parameter => document.deref? item = some parameter)
        (declaredParameters operation.path) shared ∧
      List.Forall₂ (fun item parameter => document.deref? item = some parameter)
        (declaredParameters operation.declaration) own ∧
      (∀ parameter ∈ method.parameters, (∃ item ∈ shared ++ own, parameter.IsReadFrom item) ∨
        parameter.key ∈ bodyKeys operation.declaration) ∧
      ((method.parameters.map (·.key)).Nodup ↔
        (∀ first ∈ shared ++ own, ∀ second ∈ shared ++ own,
          declaredKey? first = declaredKey? second → sameParameter first second = true) ∧
        ((operation.declaration.get? "requestBody").isSome = true →
          ∀ item ∈ shared ++ own, declaredKey? item ≠ some ("body", .body))) ∧
      ((∀ item ∈ shared ++ own, IsPlainlyDeclared item ∧
          declaredKey? item ≠ some ("body", .body)) →
        (method.parameters.map (·.key)).Nodup) ∧
      ∀ item ∈ own, ∃ last parameter, (own.filter (sameParameter item)).getLast? = some last ∧
        parameter ∈ method.parameters ∧ parameter.IsReadFrom last ∧
        declaredKey? item = some parameter.key ∧
        ((method.parameters.map (·.key)).Nodup →
          ∀ other ∈ method.parameters, declaredKey? item = some other.key → other = parameter) := by
  obtain ⟨operation, ho, hmem⟩ := exists_operation_of_methods hmethod
  obtain ⟨shared, own, merged, first, body, hshared, hown, hdistinct, hwins, hfirst, hbody,
    hread⟩ := parameters_of_mem_outcomes h ho hmem
  have hkeys : method.parameters.map (·.key) =
      first.map (·.key) ++ bodyKeys operation.declaration := by
    rw [hread, List.map_append, hbody]
  have hiff : (first.map (·.key) ++ bodyKeys operation.declaration).Nodup ↔ _ :=
    nodup_parameters_iff hwins hdistinct hfirst
  rw [← hkeys] at hiff
  refine ⟨operation, shared, own, hmem, hshared, hown, fun parameter hp => ?_, hiff,
    fun hplain => ?_, fun item hitem => ?_⟩
  · rw [hread] at hp
    rcases List.mem_append.mp hp with hp | hp
    · obtain ⟨item, hitem, hfrom⟩ := exists_of_mem_right hfirst hp
      exact .inl ⟨item, hwins.mem hitem, hfrom⟩
    · exact .inr (hbody ▸ List.mem_map_of_mem hp)
  · refine hiff.mpr ⟨fun first hf second hs hkey => ?_, fun _ item hitem => (hplain item hitem).2⟩
    exact (hplain first hf).1.same (hplain second hs).1 hkey
  · obtain ⟨last, hlast, he⟩ := hwins.exists_own hdistinct hitem
    obtain ⟨parameter, hp, hfrom⟩ := exists_of_mem_left hfirst hlast
    have hmem : parameter ∈ method.parameters := hread ▸ List.mem_append_left _ hp
    have hsame : sameParameter item last = true :=
      (List.mem_filter.mp (List.mem_of_getLast? he)).2
    have hkey : declaredKey? item = some parameter.key :=
      (declaredKey?_eq_of_same hsame).trans hfrom.key_eq
    refine ⟨last, parameter, he, hmem, hfrom, hkey, fun hnodup other hother hsameKey => ?_⟩
    exact List.inj_on_of_nodup_map hnodup hother hmem
      (Option.some.inj (hsameKey.symm.trans hkey))

/-! ### A sample -/

/-- The declaration of a parameter of the query, with its location in another case. -/
def pagingShared : Json :=
  .object [("name", .string "page"), ("in", .string "Query"),
    ("schema", .object [("type", .string "string")])]

/-- The declaration of a parameter of that name and location. -/
def pagingOwn : Json :=
  .object [("name", .string "page"), ("in", .string "query"),
    ("schema", .object [("type", .string "integer")])]

/-- An operation that declares the parameter. -/
def pagingOperation : Json :=
  .object [("operationId", .string "find"), ("parameters", .array [pagingOwn]),
    ("responses", .object [("200", .object [("content", .object [("application/json",
      .object [("schema", .object [("type", .string "string")])])])])])]

/-- A path that declares the parameter as well. -/
def pagingPath : Json :=
  .object [("parameters", .array [pagingShared]), ("get", pagingOperation)]

/-- A document with that path. -/
def pagingDocument : Document where
  root := .object [("paths", .object [("/users", pagingPath)])]

/-- The method of the sample has two parameters of one name and location, since the declarations
state its location in different ways. One of them is that of the operation. -/
theorem parameters_identified_paging :
    ∃ method, (ofDocument pagingDocument).methods["find"]? = some method ∧
      method.parameters.map (·.key) = [("page", .query), ("page", .query)] ∧
      sameParameter pagingShared pagingOwn = false ∧
      ∃ parameter ∈ method.parameters, parameter.IsReadFrom pagingOwn := by
  have hroot : pagingDocument.root.HasDistinctNames := by
    simp [pagingDocument, pagingPath, pagingOperation, pagingShared, pagingOwn]
  have hkeys : (ofDocument pagingDocument).methods["find"]?.map (fun method =>
      method.parameters.map (·.key)) = some [("page", .query), ("page", .query)] := by
    decide
  obtain ⟨method, hmethod, hkey⟩ := Option.map_eq_some_iff.mp hkeys
  obtain ⟨operation, shared, own, hmem, hshared, hown, -, -, -, hcounts⟩ :=
    parameters_identified hroot hmethod
  obtain rfl : operation = ⟨"/users", pagingPath, .get, pagingOperation⟩ := by
    have hread := List.mem_map_of_mem (f := Prod.fst) hmem
    rw [documentOutcomes, map_fst_outcomes] at hread
    exact List.mem_singleton.mp hread
  obtain rfl : shared = [pagingShared] := by
    obtain ⟨first, rest, hfirst, hrest, rfl⟩ := List.forall₂_cons_left_iff.mp hshared
    obtain rfl : pagingShared = first := Option.some.inj hfirst
    obtain rfl := List.forall₂_nil_left_iff.mp hrest
    rfl
  obtain rfl : own = [pagingOwn] := by
    obtain ⟨first, rest, hfirst, hrest, rfl⟩ := List.forall₂_cons_left_iff.mp hown
    obtain rfl : pagingOwn = first := Option.some.inj hfirst
    obtain rfl := List.forall₂_nil_left_iff.mp hrest
    rfl
  obtain ⟨last, parameter, hlast, hp, hread, -, -⟩ := hcounts pagingOwn List.mem_cons_self
  obtain rfl : pagingOwn = last := Option.some.inj hlast
  exact ⟨method, hmethod, hkey, by decide, parameter, hp, hread⟩

end Model

end ClientGen
