import ClientGen.Proofs.Components

/-!
# When a scalar schema keeps its type

A schema that is neither a reference nor a container stands for a built-in type, which is looked up
by its `type` and `format` among all names. Other schemas add built-in types of their own, and
declared schemas may have the name of one. So the type of such a schema depends on what has been
done to the model, unless each name that is looked up leads to a type already: then it is the same
for good, and only then.

## Main definitions

* `ClientGen.Model.demanded?` — the built-in type that is added if it is not there.
* `ClientGen.Model.consulted` — the names of the built-in types that are tried otherwise.
* `ClientGen.Model.IsFixed` — that the names that are looked up lead to types.

## Main results

* `ClientGen.Model.IsFixed.resolveScalar_eq` — then the type of the schema is the same in all models
  with the same types.
* `ClientGen.Model.exists_resolveScalar_ne` — otherwise looking up one more built-in type changes
  it.
* `ClientGen.Model.scalar_types` — what that means for later models, and for the order in which
  declared schemas are read.
-/

set_option autoImplicit false

namespace ClientGen.Model

variable {model old new later : Model} {type format : Option String} {fragment schema : Json}
  {name : String}

/-! ## What is looked up -/

/-- The built-in type that a type and a format stand for even if it is not there yet. -/
def demanded? : Option String → Option String → Option String
  | some "integer", some "int64" => some "int64"
  | some "number", some name => some name
  | _, some "date-time" => some "datetime"
  | _, _ => none

/-- The names of the built-in types that are tried for a type and a format otherwise, in order. -/
def consulted (type format : Option String) : List String := [format, type].filterMap id

/-- A schema that is neither a reference nor a container stands for the built-in type that is
demanded, or else for the first one there is. -/
lemma resolveScalar_eq (type format : Option String) (fragment : Json) (model : Model) :
    resolveScalar type format fragment model =
      match demanded? type format with
      | some name => (.ok (model.intrinsic name).1, (model.intrinsic name).2)
      | none =>
        match (consulted type format).findSome? model.intrinsic? with
        | some id => (.ok id, model)
        | none => (.error (.unresolvable fragment), model) := by
  unfold resolveScalar
  dsimp only
  split
  · rfl
  · rfl
  · rw [show demanded? type (some "date-time") = some "datetime" by simp [demanded?]]
  · rw [show demanded? type format = none by simp [demanded?]]
    rfl

/-- A type and a format that demand no type leave the model as it is. -/
lemma snd_resolveScalar_of_not_demanded (hd : demanded? type format = none) :
    (resolveScalar type format fragment model).2 = model := by
  rw [resolveScalar_eq, hd]
  dsimp only
  split <;> rfl

/-- Each of the names leads to a type, up to the first one that leads to a built-in type. -/
def LeadsOn (model : Model) : List String → Prop
  | [] => True
  | name :: rest =>
    (model.intrinsic? name).isSome = true ∨ name ∈ model.names ∧ model.LeadsOn rest

/-- The names that are looked up for a type and a format lead to types: the one that is demanded to
a built-in type, and otherwise those that are tried to any types. -/
def IsFixed (model : Model) (type format : Option String) : Prop :=
  match demanded? type format with
  | some name => (model.intrinsic? name).isSome = true
  | none => model.LeadsOn (consulted type format)

/-! ## Looking up a name in later models -/

/-- A built-in type that is found has a name that is taken. -/
lemma mem_names_of_intrinsic? (h : (model.intrinsic? name).isSome = true) :
    name ∈ model.names := by
  obtain ⟨id, hid⟩ := Option.isSome_iff_exists.mp h
  rw [Std.TreeMap.mem_iff_isSome_getElem?, (intrinsic?_eq_some hid).1]
  rfl

/-- The built-in type with a name that is taken stays, and if there is none there will be none. -/
lemma KeepsTypes.intrinsic?_eq (h : old.KeepsTypes new) (hold : old.WellFormed)
    (hn : name ∈ old.names) : new.intrinsic? name = old.intrinsic? name := by
  obtain ⟨id, hid⟩ := Option.isSome_iff_exists.mp (Std.TreeMap.mem_iff_isSome_getElem?.mp hn)
  have hkind := h.kind_eq (hold.lt_of_names hid)
  rw [intrinsic?, intrinsic?, h.names_le name id hid, hid, Option.filter_some, Option.filter_some,
    TypeNode.isIntrinsic, TypeNode.isIntrinsic, hkind]

/-- A built-in type that is found is what looking it up gives. -/
lemma fst_intrinsic_of_some {found : TypeId} (h : model.intrinsic? name = some found) :
    (model.intrinsic name).1 = found := by
  rw [intrinsic, h]

/-- A built-in type that is not found is added. -/
lemma intrinsic_of_none (h : model.intrinsic? name = none) :
    model.intrinsic name = model.add name .intrinsic .null := by
  rw [intrinsic, h]

/-- A name that is free leads to no built-in type. -/
lemma intrinsic?_of_not_mem (h : name ∉ model.names) : model.intrinsic? name = none := by
  rw [intrinsic?, Std.TreeMap.getElem?_eq_none h]
  rfl

/-- A built-in type whose name was free is found once it has been looked up. -/
lemma intrinsic?_intrinsic_of_not_mem (h : name ∉ model.names) :
    (model.intrinsic name).2.intrinsic? name = some model.nodes.size := by
  rw [intrinsic_of_none (intrinsic?_of_not_mem h), intrinsic?, getElem?_names_add,
    uniqueName_of_not_mem h, if_pos rfl, Option.filter_some, node_add_self]
  rfl

/-- Looking up a built-in type keeps all types. -/
lemma KeepsTypes.intrinsic (model : Model) (name : String) :
    model.KeepsTypes (model.intrinsic name).2 :=
  .grow (GrowsTo.refl.intrinsic name)

/-! ## Fixed types -/

/-- The first built-in type with one of the names stays if the names lead to types. -/
lemma LeadsOn.findSome?_eq (hk : old.KeepsTypes new) (hold : old.WellFormed) :
    ∀ {names : List String}, old.LeadsOn names →
      names.findSome? new.intrinsic? = names.findSome? old.intrinsic?
  | [], _ => rfl
  | name :: rest, h => by
    rw [List.findSome?_cons, List.findSome?_cons]
    rcases h with hfound | ⟨hn, hrest⟩
    · rw [hk.intrinsic?_eq hold (mem_names_of_intrinsic? hfound)]
      obtain ⟨id, hid⟩ := Option.isSome_iff_exists.mp hfound
      rw [hid]
    · rw [hk.intrinsic?_eq hold hn, findSome?_eq hk hold hrest]

/-- If some name leads to no type before one leads to a built-in type, then looking up the built-in
type of that name makes it the first one. -/
lemma exists_findSome?_of_not_leadsOn (hwf : model.WellFormed) :
    ∀ {names : List String}, ¬model.LeadsOn names → ∃ name, ∀ later : Model,
      (model.intrinsic name).2.KeepsTypes later →
        names.findSome? later.intrinsic? = some model.nodes.size
  | [], h => absurd trivial h
  | name :: rest, h => by
    rw [LeadsOn, not_or, Bool.not_eq_true, Option.isSome_eq_false_iff, Option.isNone_iff_eq_none]
      at h
    obtain ⟨hnone, hrest⟩ := h
    by_cases hn : name ∈ model.names
    · obtain ⟨other, hother⟩ := exists_findSome?_of_not_leadsOn hwf fun hc => hrest ⟨hn, hc⟩
      refine ⟨other, fun later hk => ?_⟩
      rw [List.findSome?_cons, ((KeepsTypes.intrinsic model other).trans hk).intrinsic?_eq hwf hn,
        hnone]
      exact hother later hk
    · refine ⟨name, fun later hk => ?_⟩
      have hfound := intrinsic?_intrinsic_of_not_mem hn
      rw [List.findSome?_cons, hk.intrinsic?_eq (hwf.intrinsic name)
        (mem_names_of_intrinsic? (by rw [hfound]; rfl)), hfound]

/-- A schema whose names lead to types stands for the same type in all models with the same
types. -/
theorem IsFixed.resolveScalar_eq (h : model.IsFixed type format) (hwf : model.WellFormed)
    (hk : model.KeepsTypes later) :
    (resolveScalar type format fragment later).1 =
      (resolveScalar type format fragment model).1 := by
  rw [Model.resolveScalar_eq, Model.resolveScalar_eq]
  unfold IsFixed at h
  cases hd : demanded? type format with
  | some name =>
    rw [hd] at h
    obtain ⟨id, hid⟩ := Option.isSome_iff_exists.mp h
    have hlater := hk.intrinsic?_eq hwf (mem_names_of_intrinsic? h)
    dsimp only
    rw [fst_intrinsic_of_some hid, fst_intrinsic_of_some (hlater.trans hid)]
  | none =>
    rw [hd] at h
    dsimp only at h ⊢
    rw [h.findSome?_eq hk hwf]
    split <;> rfl

/-- A schema one of whose names leads to no type stands for another type, once some other built-in
type has been looked up.

**Proof sketch.** If a type is demanded that is not there, its number depends on how many types
there are, so any other new type will do. Otherwise it is the type with the name that leads to no
type, which is then tried first. -/
theorem exists_resolveScalar_ne (hwf : model.WellFormed) (h : ¬model.IsFixed type format)
    (fragment : Json) : ∃ name, ∀ later : Model, later.WellFormed →
      (model.intrinsic name).2.KeepsTypes later →
        (resolveScalar type format fragment later).1 ≠
          (resolveScalar type format fragment model).1 := by
  simp only [resolveScalar_eq]
  unfold IsFixed at h
  cases hd : demanded? type format with
  | some name =>
    rw [hd] at h
    have hnone : model.intrinsic? name = none := by simpa using h
    have hfree := getElem?_names_uniqueName model (name ++ "x")
    obtain ⟨suffix, hother⟩ := exists_uniqueName_eq model (name ++ "x")
    generalize model.uniqueName (name ++ "x") = other at hfree hother
    have hnot : other ∉ model.names := by
      rw [Std.TreeMap.mem_iff_isSome_getElem?, hfree]
      exact Bool.noConfusion
    refine ⟨other, fun later hlater hk hsame => ?_⟩
    have hids : (later.intrinsic name).1 = model.nodes.size := by
      rw [Except.ok.inj hsame, intrinsic_of_none hnone, fst_add]
    rw [intrinsic_of_none (intrinsic?_of_not_mem hnot)] at hk
    have hlt : model.nodes.size < (model.add other .intrinsic .null).2.nodes.size := by
      rw [size_nodes_add]
      exact Nat.lt_succ_self _
    cases hfound : later.intrinsic? name with
    | none =>
      -- The type is added after the other one.
      rw [intrinsic_of_none hfound, fst_add] at hids
      exact absurd hk.size_le (Nat.not_le_of_lt (hids ▸ hlt))
    | some found =>
      -- The type that is found has another name.
      rw [fst_intrinsic_of_some hfound] at hids
      have hname := ((hlater.names_iff name found).mp (intrinsic?_eq_some hfound).1).2
      rw [hids, hk.nameOf_eq hlt, nameOf, node_add_self, uniqueName_of_not_mem hnot, hother,
        String.append_assoc] at hname
      have hlength := congrArg String.length hname
      simp at hlength
  | none =>
    rw [hd] at h
    obtain ⟨name, hname⟩ := exists_findSome?_of_not_leadsOn hwf h
    refine ⟨name, fun later _ hk => ?_⟩
    rw [hname later hk]
    dsimp only
    split
    next id hid =>
      obtain ⟨found, -, hfound⟩ := List.exists_of_findSome?_eq_some hid
      intro hsame
      exact absurd (hwf.lt_of_names (intrinsic?_eq_some hfound).1)
        (Except.ok.inj hsame ▸ Nat.lt_irrefl _)
    next => simp

/-! ## Schemas -/

/-- A schema that is neither a reference nor a container is resolved by its type and format. -/
lemma resolve_of_scalar (hs : Schema.ofJson schema = .scalar type format fragment)
    (style : Option Style) (model : Model) :
    model.resolve schema style = resolveScalar type format fragment model := by
  rw [resolve, hs, resolveForm]

/-- The schema of a number of some format. -/
def numberSchema (format : String) : Json :=
  .object [("type", .string "number"), ("format", .string format)]

/-- A number of some format stands for the built-in type with the name of the format. -/
lemma resolve_numberSchema (format : String) (style : Option Style) (model : Model) :
    model.resolve (numberSchema format) style =
      (.ok (model.intrinsic format).1, (model.intrinsic format).2) :=
  have hs : Schema.ofJson (numberSchema format) =
    .scalar (some "number") (some format) (numberSchema format) := rfl
  resolve_of_scalar hs style model

/-- A schema keeps its type whatever is done to a model exactly if its names lead to types. -/
theorem Reachable.resolve_scalar_iff (h : model.Reachable)
    (hs : Schema.ofJson schema = .scalar type format fragment) (style : Option Style) :
    (∀ later : Model, model.Continues later →
      (later.resolve schema style).1 = (model.resolve schema style).1) ↔
        model.IsFixed type format := by
  have hwf := h.settled.toWellFormed
  simp only [resolve_of_scalar hs]
  refine ⟨fun hall => ?_, fun hfixed later hlater =>
    hfixed.resolveScalar_eq hwf (hlater.keepsTypes h)⟩
  by_contra hnot
  obtain ⟨name, hne⟩ := exists_resolveScalar_ne hwf hnot fragment
  have hlater : model.Continues (model.resolve (numberSchema name) none).2 := .resolve _ _ .refl
  rw [resolve_numberSchema] at hlater
  exact hne _ (hwf.intrinsic name) (.refl _) (hall _ hlater)

/-- A schema keeps its type once it has been resolved exactly if its names lead to types, or a type
is demanded whose name was free.

**Proof sketch.** In the latter case the type is added with that name, which leads to it from then
on. If the name that is demanded leads to a type of another kind, each lookup adds a type. -/
theorem Reachable.resolve_scalar_again_iff (h : model.Reachable)
    (hs : Schema.ofJson schema = .scalar type format fragment) (style : Option Style) :
    (∀ later : Model, (model.resolve schema style).2.Continues later →
      (later.resolve schema style).1 = (model.resolve schema style).1) ↔
        model.IsFixed type format ∨
          ∃ name, demanded? type format = some name ∧ name ∉ model.names := by
  have hwf := h.settled.toWellFormed
  have hreach := h.resolve schema style
  have hkept : model.KeepsTypes (model.resolve schema style).2 :=
    .grow (resolves_resolve hwf schema style).grows
  constructor
  · intro hall
    by_contra hnot
    obtain ⟨hnot, hdemanded⟩ := not_or.mp hnot
    cases hd : demanded? type format with
    | none =>
      have hsame : (model.resolve schema style).2 = model := by
        rw [resolve_of_scalar hs, snd_resolveScalar_of_not_demanded hd]
      rw [hsame] at hall
      exact hnot ((h.resolve_scalar_iff hs style).mp hall)
    | some name =>
      have hn : name ∈ model.names := by
        by_contra hfree
        exact hdemanded ⟨name, hd, hfree⟩
      have hnone : model.intrinsic? name = none := by simpa [IsFixed, hd] using hnot
      have hagain := hall _ .refl
      have hlater := (KeepsTypes.intrinsic model name).intrinsic?_eq hwf hn
      simp only [resolve_of_scalar hs, resolveScalar_eq, hd] at hagain
      have hids := Except.ok.inj hagain
      rw [intrinsic_of_none (hlater.trans hnone), intrinsic_of_none hnone, fst_add, fst_add,
        size_nodes_add] at hids
      exact absurd hids (Nat.succ_ne_self _)
  · rintro (hfixed | ⟨name, hd, hfree⟩) later hlater
    · rw [resolve_of_scalar hs, resolve_of_scalar hs]
      exact hfixed.resolveScalar_eq hwf (hkept.trans (hlater.keepsTypes hreach))
    · have hfound := intrinsic?_intrinsic_of_not_mem hfree
      have hkeeps := hlater.keepsTypes hreach
      simp only [resolve_of_scalar hs, resolveScalar_eq, hd] at hkeeps ⊢
      have hlaterFound := hkeeps.intrinsic?_eq (hwf.intrinsic name)
        (mem_names_of_intrinsic? (by rw [hfound]; rfl))
      rw [fst_intrinsic_of_some (hlaterFound.trans hfound),
        intrinsic_of_none (intrinsic?_of_not_mem hfree), fst_add]

/-! ## Names of built-in types -/

/-- The names of the built-in types that a model starts with lead to built-in types. -/
def HasBuiltIns (model : Model) : Prop :=
  ∀ name ∈ intrinsicNames, (model.intrinsic? name).isSome = true

/-- A model with the same types has the same built-in types. -/
lemma HasBuiltIns.keepsTypes (h : old.HasBuiltIns) (hold : old.WellFormed)
    (hk : old.KeepsTypes new) : new.HasBuiltIns := fun name hn => by
  rw [hk.intrinsic?_eq hold (mem_names_of_intrinsic? (h name hn))]
  exact h name hn

/-- Adding a type leaves the built-in types there. -/
lemma HasBuiltIns.add (h : model.HasBuiltIns) (hwf : model.WellFormed) (base : String)
    (kind : TypeKind) (schema : Json) : (model.add base kind schema).2.HasBuiltIns :=
  h.keepsTypes hwf (.add model base kind schema)

/-- Each step of reading a document leaves the built-in types there. -/
lemma isKeptByReading_hasBuiltIns : IsKeptByReading HasBuiltIns where
  intrinsic _ h hmodel := hmodel.add h.toWellFormed _ _ _
  container _ _ h _ _ hmodel := hmodel.add h.toWellFormed _ _ _
  fill h _ hmodel := hmodel.keepsTypes h.toWellFormed (.modify fun _ => rfl)
  report _ _ _ _ hmodel := hmodel
  use _ _ h hmodel := hmodel.keepsTypes h.toWellFormed (.modify fun _ => rfl)
  tag _ _ _ hmodel := hmodel
  method _ hmodel := hmodel

/-- In the model of the built-in types all types are built in. -/
lemma isIntrinsic_initial (document : Document) (id : TypeId) :
    ((Model.initial document).node id).isIntrinsic = true := by
  have hall := List.foldlRecOn
    (motive := fun mid : Model => ∀ id : TypeId, (mid.node id).isIntrinsic = true)
    intrinsicNames (fun model name => (model.add name .intrinsic .null).2)
    (show ∀ id : TypeId, (({ document } : Model).node id).isIntrinsic = true from fun _ => rfl)
    fun mid hmid name _ id => by
      rw [node_add]
      split_ifs
      · rfl
      · exact hmid id
  exact hall id

/-- The model of the built-in types has them. -/
lemma hasBuiltIns_initial (document : Document) : (Model.initial document).HasBuiltIns := by
  intro name hn
  obtain ⟨id, hid⟩ := Option.isSome_iff_exists.mp
    (Std.TreeMap.mem_iff_isSome_getElem?.mp ((mem_names_initial_iff document).mpr hn))
  rw [intrinsic?, hid, Option.filter_some, if_pos (isIntrinsic_initial document id)]
  rfl

/-- Models that can be reached have the built-in types. -/
theorem isInvariant_hasBuiltIns : IsInvariant fun _ model => model.HasBuiltIns where
  container _ _ h _ _ hmodel := hmodel.add h.toWellFormed _ _ _
  register h _ hmodel := hmodel.add h.toWellFormed _ _ _
  fill h _ _ _ _ hmodel := hmodel.keepsTypes h.toWellFormed <| by
    unfold fillWrite refer
    exact .trans (.modify fun _ => by rfl) (.modify fun _ => by rfl)
  registerRequest _ h hmodel := hmodel.add h.toWellFormed _ _ _
  fillRequest _ h _ hmodel := hmodel.keepsTypes h.toWellFormed (.modify fun _ => rfl)
  initial document := hasBuiltIns_initial document
  ofDocument document := isKeptByReading_hasBuiltIns.ofDocument
    (fun _ entry h hmodel => hmodel.add h.toWellFormed entry.1 .component entry.2)
    (hasBuiltIns_initial document)
  intrinsic _ h hmodel := hmodel.add h.toWellFormed _ _ _
  retain _ _ _ hmodel := hmodel

/-- The names that are looked up for a type and a format lead to types if the first one is that of a
built-in type that every model starts with. -/
lemma Reachable.isFixed_of_intrinsicNames (h : model.Reachable)
    (hn : ∀ name, (demanded? type format).or (consulted type format).head? = some name →
      name ∈ intrinsicNames) : model.IsFixed type format := by
  have hbuilt : model.HasBuiltIns := isInvariant_hasBuiltIns.of_reachable h
  unfold IsFixed
  cases hd : demanded? type format with
  | some name => exact hbuilt name (hn name (by rw [hd]; rfl))
  | none =>
    dsimp only
    cases hc : consulted type format with
    | nil => exact trivial
    | cons name rest => exact Or.inl (hbuilt name (hn name (by rw [hd, hc]; rfl)))

/-! ## The order of declared schemas -/

/-- A property whose schema has the same type in all models with the same types gets that type,
after whatever properties it is read. -/
lemma KeepsTypes.ofSchema_mem_loadProperties {owner property : String} {required : List String}
    {id : TypeId} {rest : List (String × Json)}
    (hsame : ∀ later : Model, model.KeepsTypes later → (later.resolve schema none).1 = .ok id) :
    ∀ (earlier : List (String × Json)) {mid : Model}, mid.Fresh → model.KeepsTypes mid →
      Property.ofSchema property id schema (required.contains property) ∈
        (loadProperties owner required (earlier ++ (property, schema) :: rest) mid).1
  | [], mid, _, hk => by
    have hfound := hsame mid hk
    rcases hr : resolve schema none mid with ⟨error | found, after⟩ <;> rw [hr] at hfound
    · exact absurd hfound (by simp)
    · obtain rfl := Except.ok.inj hfound
      simp only [List.nil_append, loadProperties, hr]
      exact List.mem_cons_self
  | (other, form) :: earlier, mid, h, hk => by
    have hgrows := (resolves_resolve h.toWellFormed form none).grows
    rcases hr : resolve form none mid with ⟨error | found, after⟩ <;> rw [hr] at hgrows <;>
      simp only [List.cons_append, loadProperties, hr]
    · exact ofSchema_mem_loadProperties hsame earlier ((h.grow hgrows).report _ _)
        ((hk.trans (.grow hgrows)).trans (.of_eq rfl rfl rfl rfl))
    · exact List.mem_cons_of_mem _
        (ofSchema_mem_loadProperties hsame earlier (h.grow hgrows) (hk.trans (.grow hgrows)))

/-- A schema with one property, a number of some format. -/
def amountSchema (format : String) : Json :=
  .object [("properties", .object [("amount", numberSchema format)])]

/-- Reading a declared schema with a number of some format looks up the built-in type with the name
of the format. -/
lemma keepsTypes_loadSchema_amountSchema {stem declaration : String} {id : TypeId}
    (href : model.refs[stem ++ declaration]? = some id) (format : String) :
    (model.intrinsic format).2.KeepsTypes
      (loadSchema stem model (declaration, amountSchema format)) := by
  have hmembers : ((amountSchema format).get? "properties").bind Json.asObject? =
    some [("amount", numberSchema format)] := rfl
  unfold loadSchema
  dsimp only
  rw [href, hmembers]
  simp only [loadProperties, resolve_numberSchema]
  exact .modify fun _ => rfl

/-- The type of a schema does not depend on which declared schemas have been read exactly if its
names lead to types when all schemas are declared. -/
lemma resolve_scalar_declared_iff (hs : Schema.ofJson schema = .scalar type format fragment)
    {document : Document} {entry : String × Json} (hentry : entry ∈ document.schemas?.getD []) :
    (∀ before : List (String × Json),
      ((before.foldl (loadSchema document.schemaReferenceStem) (declared document)).resolve
        schema none).1 = ((declared document).resolve schema none).1) ↔
      (declared document).IsFixed type format := by
  have hwf := (fresh_declared document).toWellFormed
  simp only [resolve_of_scalar hs]
  refine ⟨fun hall => ?_, fun hfixed before =>
    hfixed.resolveScalar_eq hwf (keepsTypes_loadSchemas document before).2⟩
  by_contra hnot
  obtain ⟨name, hne⟩ := exists_resolveScalar_ne hwf hnot fragment
  obtain ⟨id, hid⟩ := Declares.foldl_declare document.schemaReferenceStem
    (document.schemas?.getD []) (Model.initial document) entry hentry
  exact hne _ (keepsTypes_loadSchemas document [(entry.1, amountSchema name)]).1.toWellFormed
    (keepsTypes_loadSchema_amountSchema hid.refs_eq name) (hall [(entry.1, amountSchema name)])

/-- A schema that is neither a reference nor a container keeps its type, whatever is done to a
model, exactly if its names lead to types; and once it has been resolved, also if it demands a type
whose name was free. The names lead to types if the first one is that of a built-in type that
every model starts with. Which declared schemas have been read before makes no difference for the
type of a property exactly if the names lead to types when all schemas are declared. -/
theorem scalar_types (hs : Schema.ofJson schema = .scalar type format fragment) :
    (∀ (model : Model) (style : Option Style), model.Reachable →
      ((∀ later : Model, model.Continues later →
        (later.resolve schema style).1 = (model.resolve schema style).1) ↔
          model.IsFixed type format) ∧
      ((∀ later : Model, (model.resolve schema style).2.Continues later →
        (later.resolve schema style).1 = (model.resolve schema style).1) ↔
          model.IsFixed type format ∨
            ∃ name, demanded? type format = some name ∧ name ∉ model.names) ∧
      ((∀ name, (demanded? type format).or (consulted type format).head? = some name →
        name ∈ intrinsicNames) → model.IsFixed type format)) ∧
    ∀ (document : Document), ∀ entry ∈ document.schemas?.getD [],
      ((∀ before : List (String × Json),
        ((before.foldl (loadSchema document.schemaReferenceStem) (declared document)).resolve
          schema none).1 = ((declared document).resolve schema none).1) ↔
            (declared document).IsFixed type format) ∧
      ((declared document).IsFixed type format →
        ∀ id, ((declared document).resolve schema none).1 = .ok id →
          ∀ (before earlier rest : List (String × Json)) (owner property : String)
            (required : List String),
            Property.ofSchema property id schema (required.contains property) ∈
              (loadProperties owner required (earlier ++ (property, schema) :: rest)
                (before.foldl (loadSchema document.schemaReferenceStem)
                  (declared document))).1) := by
  refine ⟨fun model style h => ⟨h.resolve_scalar_iff hs style, h.resolve_scalar_again_iff hs style,
    h.isFixed_of_intrinsicNames⟩, fun document entry hentry =>
      ⟨resolve_scalar_declared_iff hs hentry, fun hfixed id hid before earlier rest owner property
        required => ?_⟩⟩
  obtain ⟨hread, hkept⟩ := keepsTypes_loadSchemas document before
  refine KeepsTypes.ofSchema_mem_loadProperties (fun later hk => ?_) earlier hread hkept
  rw [← hid, resolve_of_scalar hs, resolve_of_scalar hs]
  exact hfixed.resolveScalar_eq (fresh_declared document).toWellFormed hk

/-! ## A sample -/

/-- A document that declares a type with a name that numbers use as a format. -/
def decimalDocument : Document where
  root := .object [("components", .object [("schemas", .object [("decimal", .object [])])])]

/-- The schema of a text of some format. -/
def textSchema (format : String) : Json :=
  .object [("type", .string "string"), ("format", .string format)]

/-- In the sample document an identifier keeps its type. A decimal number gets another one when it
is resolved again, and the type of an amount of money depends on the schemas that are read
before. -/
theorem scalar_types_decimal :
    (∀ later : Model, (ofDocument decimalDocument).Continues later →
      (later.resolve (textSchema "uuid") none).1 =
        ((ofDocument decimalDocument).resolve (textSchema "uuid") none).1) ∧
    ¬(∀ later : Model,
      ((ofDocument decimalDocument).resolve (numberSchema "decimal") none).2.Continues later →
        (later.resolve (numberSchema "decimal") none).1 =
          ((ofDocument decimalDocument).resolve (numberSchema "decimal") none).1) ∧
    ¬(∀ before : List (String × Json),
      ((before.foldl (loadSchema decimalDocument.schemaReferenceStem)
        (declared decimalDocument)).resolve (textSchema "money") none).1 =
          ((declared decimalDocument).resolve (textSchema "money") none).1) := by
  have hreach : (ofDocument decimalDocument).Reachable := .ofDocument decimalDocument
  have huuid : Schema.ofJson (textSchema "uuid") =
    .scalar (some "string") (some "uuid") (textSchema "uuid") := rfl
  have hdecimal : Schema.ofJson (numberSchema "decimal") =
    .scalar (some "number") (some "decimal") (numberSchema "decimal") := rfl
  have hmoney : Schema.ofJson (textSchema "money") =
    .scalar (some "string") (some "money") (textSchema "money") := rfl
  have hnames : "decimal" ∈ (ofDocument decimalDocument).names ∧
      (ofDocument decimalDocument).intrinsic? "decimal" = none ∧
      "money" ∉ (declared decimalDocument).names := by
    decide
  obtain ⟨hmem, hnone, hfree⟩ := hnames
  refine ⟨?_, ?_, ?_⟩
  · obtain ⟨hiff, -, hfixed⟩ := (scalar_types huuid).1 _ none hreach
    exact hiff.mpr (hfixed fun name hn => by obtain rfl := Option.some.inj hn; decide)
  · rw [((scalar_types hdecimal).1 _ none hreach).2.1]
    rintro (hfixed | ⟨name, hd, hn⟩)
    · have hfound : ((ofDocument decimalDocument).intrinsic? "decimal").isSome = true := hfixed
      rw [hnone] at hfound
      exact Bool.noConfusion hfound
    · obtain rfl := Option.some.inj hd
      exact hn hmem
  · rw [((scalar_types hmoney).2 decimalDocument ("decimal", .object [])
      (List.mem_singleton.mpr rfl)).1]
    rintro (hfound | ⟨hn, -⟩)
    · exact hfree (mem_names_of_intrinsic? hfound)
    · exact hfree hn

end ClientGen.Model
