import ClientGen.Proofs.Continuation
import ClientGen.Proofs.Graph.References

/-!
# Declared types

The schemas that a document declares are made types one after the other, each under a reference
and with a name that was free. After that the rest of the document is read, which touches neither
of the two.

## Main definitions

* `ClientGen.Model.Declares` — that a reference leads to the declared type with a name.
* `ClientGen.Model.declared` — the model of a document when its schemas have just been declared.

## Main results

* `ClientGen.Model.declares_ofDocument` — the model of a document declares its schemas.
* `ClientGen.Model.nameOf_ofDocument` — schemas with different free names get these names.
-/

set_option autoImplicit false

namespace ClientGen.Model

variable {model old new : Model} {stem name base : String} {id : Nat}

/-! ## Names of new types -/

/-- A name that is tried is the name that a type is made with, perhaps with a number after it. -/
lemma freeName_cases (model : Model) (base : String) :
    ∀ tries number, model.freeName base tries number = base ∨
      ∃ n : Nat, model.freeName base tries number = base ++ toString n
  | 0, _ => Or.inl rfl
  | tries + 1, number => by
    rw [freeName]
    split
    · exact freeName_cases model base tries (number + 1)
    · exact Or.inr ⟨number, rfl⟩

/-- A type that is made with a free name gets that name. -/
lemma uniqueName_of_not_mem (h : base ∉ model.names) : model.uniqueName base = base := by
  rw [uniqueName, if_neg fun hc => h (Std.TreeMap.mem_iff_contains.mpr hc)]

/-- A type that is made with a name that is taken gets that name with a number after it. -/
lemma exists_uniqueName_eq_of_mem (h : base ∈ model.names) :
    ∃ n : Nat, model.uniqueName base = base ++ toString n := by
  have hfree := getElem?_names_uniqueName model base
  rw [uniqueName, if_pos (Std.TreeMap.mem_iff_contains.mp h)] at hfree ⊢
  refine (freeName_cases model base _ _).resolve_left fun he => ?_
  rw [he] at hfree
  rw [Std.TreeMap.mem_iff_isSome_getElem?, hfree] at h
  exact Bool.noConfusion h

/-- The name that a new type gets begins with the name that it is made with. -/
lemma exists_uniqueName_eq (model : Model) (base : String) :
    ∃ suffix, model.uniqueName base = base ++ suffix := by
  by_cases h : base ∈ model.names
  · obtain ⟨n, hn⟩ := exists_uniqueName_eq_of_mem h
    exact ⟨toString n, hn⟩
  · exact ⟨"", by rw [uniqueName_of_not_mem h, String.append_empty]⟩

/-- After a type is added with a free name, that is the one new name. -/
lemma mem_names_add_iff {kind : TypeKind} {schema : Json} (h : base ∉ model.names) :
    name ∈ (model.add base kind schema).2.names ↔ name ∈ model.names ∨ name = base := by
  rw [Std.TreeMap.mem_iff_isSome_getElem?, getElem?_names_add, uniqueName_of_not_mem h,
    Std.TreeMap.mem_iff_isSome_getElem?]
  by_cases he : name = base
  · rw [if_pos he]
    simp [he]
  · rw [if_neg he]
    simp [he]

/-- After a type is added, the name that it was made with is that of some type. -/
lemma mem_names_add_base (model : Model) (base : String) (kind : TypeKind) (schema : Json) :
    base ∈ (model.add base kind schema).2.names := by
  by_cases h : base ∈ model.names
  · exact mem_names_add h
  · exact (mem_names_add_iff h).mpr (Or.inr rfl)

/-! ## Declared types -/

/-- The reference leads to the declared type with a name. The type has that name, perhaps with a
number at its end, and then another type has it. -/
structure Declares (model : Model) (stem name : String) (id : TypeId) : Prop where
  refs_eq : model.refs[stem ++ name]? = some id
  lt_size : id < model.nodes.size
  kind_eq : (model.node id).kind = .component
  name_eq : ∃ suffix, model.nameOf id = name ++ suffix
  mem_names : name ∈ model.names

/-- A declared type gets a name that was free. -/
lemma nameOf_declare_self (model : Model) (stem : String) (entry : String × Json) :
    (Model.declare stem model entry).nameOf model.nodes.size = model.uniqueName entry.1 := by
  show ((model.add entry.1 .component entry.2).2.node model.nodes.size).name = _
  rw [node_add_self]

namespace Declares

/-- A model with the same types declares what was declared. -/
lemma keepsTypes (h : old.Declares stem name id) (hk : old.KeepsTypes new) :
    new.Declares stem name id where
  refs_eq := by rw [hk.refs_eq, h.refs_eq]
  lt_size := Nat.lt_of_lt_of_le h.lt_size hk.size_le
  kind_eq := by rw [hk.kind_eq h.lt_size, h.kind_eq]
  name_eq := by rw [hk.nameOf_eq h.lt_size]; exact h.name_eq
  mem_names := by
    have hmem := h.mem_names
    rw [Std.TreeMap.mem_iff_isSome_getElem?, Option.isSome_iff_exists] at hmem ⊢
    obtain ⟨other, hother⟩ := hmem
    exact ⟨other, hk.names_le name other hother⟩

/-- Declaring a schema declares it. -/
lemma declare_self (model : Model) (stem : String) (entry : String × Json) :
    (Model.declare stem model entry).Declares stem entry.1 model.nodes.size where
  refs_eq := by
    simp only [Model.declare, fst_add]
    exact Std.TreeMap.getElem?_insert_self
  lt_size := by
    simp only [Model.declare, size_nodes_add]
    exact Nat.lt_succ_self _
  kind_eq := by
    show ((model.add entry.1 .component entry.2).2.node model.nodes.size).kind = _
    rw [node_add_self]
  name_eq := by
    rw [nameOf_declare_self]
    exact exists_uniqueName_eq model entry.1
  mem_names := mem_names_add_base model entry.1 .component entry.2

/-- Declaring a schema leaves those of other names declared. -/
lemma declare_of_ne (h : model.Declares stem name id) {entry : String × Json}
    (he : entry.1 ≠ name) : (Model.declare stem model entry).Declares stem name id := by
  obtain ⟨-, hlt, hkind, hname, hmem⟩ :=
    h.keepsTypes (KeepsTypes.add model entry.1 .component entry.2)
  refine ⟨?_, hlt, hkind, hname, hmem⟩
  simp only [Model.declare, Std.TreeMap.getElem?_insert, Std.LawfulEqCmp.compare_eq_iff_eq,
    String.append_right_inj, if_neg he, refs_add]
  exact h.refs_eq

/-- A reference leads to one type. -/
lemma unique {other : Nat} (h₁ : model.Declares stem name id)
    (h₂ : model.Declares stem name other) : id = other :=
  Option.some.inj (h₁.refs_eq.symm.trans h₂.refs_eq)

/-- Declaring schemas declares all of them.

**Proof sketch.** Induction on the schemas. One that is declared stays declared when others are,
if only as the last one of its name. -/
lemma foldl_declare (stem : String) :
    ∀ (schemas : List (String × Json)) (model : Model), ∀ entry ∈ schemas,
      ∃ type, (schemas.foldl (Model.declare stem) model).Declares stem entry.1 type := by
  intro schemas
  induction schemas using List.reverseRecOn with
  | nil => exact fun _ _ h => absurd h List.not_mem_nil
  | append_singleton schemas last ih =>
    intro model entry hentry
    rw [List.foldl_append, List.foldl_cons, List.foldl_nil]
    by_cases he : last.1 = entry.1
    · exact ⟨_, he ▸ declare_self _ stem last⟩
    · have hold : entry ∈ schemas := (List.mem_append.mp hentry).resolve_right fun h =>
        he (congrArg Prod.fst (List.mem_singleton.mp h)).symm
      obtain ⟨type, htype⟩ := ih model entry hold
      exact ⟨type, htype.declare_of_ne he⟩

end Declares

/-! ## The model of a document -/

/-- The model of the built-in types and the declared schemas of a document, without the contents of
the latter. -/
def declared (document : Document) : Model :=
  (document.schemas?.getD []).foldl (declare document.schemaReferenceStem) (initial document)

/-- When its schemas have just been declared, the model of a document is fresh. -/
lemma fresh_declared (document : Document) : (declared document).Fresh :=
  List.foldlRecOn (motive := Fresh) _ _ (.initial document) fun _ hm entry _ => hm.declare _ entry

/-- Reading some of the declared schemas keeps all types. -/
lemma keepsTypes_loadSchemas (document : Document) (entries : List (String × Json)) :
    (entries.foldl (loadSchema document.schemaReferenceStem) (declared document)).Fresh ∧
      (declared document).KeepsTypes
        (entries.foldl (loadSchema document.schemaReferenceStem) (declared document)) :=
  (KeepsTypes.isKeptByReading (declared document)).loadSchemas (fresh_declared document) _ entries
    (.refl _)

/-- Once the schemas of a document are declared, the rest of it is read without touching a type
that is there. -/
theorem keepsTypes_declared (document : Document) :
    (declared document).KeepsTypes (Model.ofDocument document) := by
  obtain ⟨hfresh, hschemas⟩ := keepsTypes_loadSchemas document (document.schemas?.getD [])
  rw [Model.ofDocument, Model.loadTypes, document_initial]
  exact ((KeepsTypes.isKeptByReading (declared document)).loadMethods hfresh hschemas).2

/-- The model of a document declares the schemas of the document. -/
theorem declares_ofDocument (document : Document) {entry : String × Json}
    (hentry : entry ∈ document.schemas?.getD []) :
    ∃ type, (Model.ofDocument document).Declares document.schemaReferenceStem entry.1 type := by
  obtain ⟨type, htype⟩ := Declares.foldl_declare document.schemaReferenceStem
    (document.schemas?.getD []) (Model.initial document) entry hentry
  exact ⟨type, htype.keepsTypes (keepsTypes_declared document)⟩

/-! ## Different free names -/

/-- After types are added with different free names, those are the new names. -/
lemma mem_names_foldl_add_iff {α : Type} (key : α → String) (step : Model → α → Model)
    (hstep : ∀ model item, ∃ kind schema,
      (step model item).names = (model.add (key item) kind schema).2.names) :
    ∀ (items : List α) (model : Model), (items.map key).Nodup →
      (∀ item ∈ items, key item ∉ model.names) → ∀ name : String,
        name ∈ (items.foldl step model).names ↔ name ∈ model.names ∨ name ∈ items.map key := by
  intro items
  induction items with
  | nil => simp
  | cons item rest ih =>
    intro model hnodup hfree name
    obtain ⟨hnew, hrest⟩ := List.nodup_cons.mp hnodup
    obtain ⟨kind, schema, hnames⟩ := hstep model item
    have hmem : ∀ name : String,
        name ∈ (step model item).names ↔ name ∈ model.names ∨ name = key item := fun name => by
      rw [hnames]
      exact mem_names_add_iff (hfree item List.mem_cons_self)
    rw [List.foldl_cons, ih (step model item) hrest fun other hother hc => ?_, hmem, List.map_cons,
      List.mem_cons, or_assoc]
    rcases (hmem _).mp hc with hold | he
    · exact hfree other (List.mem_cons_of_mem _ hother) hold
    · exact hnew (he ▸ List.mem_map_of_mem hother)

/-- The names of the built-in types. -/
lemma mem_names_initial_iff (document : Document) :
    name ∈ (Model.initial document).names ↔ name ∈ intrinsicNames := by
  have hiff := mem_names_foldl_add_iff id
    (fun model name => (model.add name .intrinsic .null).2) (fun model name => ⟨_, _, rfl⟩)
    intrinsicNames { document } (by decide) (fun name _ => by simp) name
  rw [List.map_id] at hiff
  exact hiff.trans (by simp)

/-- Schemas that are declared with different free names get these names.

**Proof sketch.** Induction on the schemas. The last one finds its name free, since the names that
are taken by then are those from before and those of the other schemas, and it leaves the names of
the others as they are. -/
lemma nameOf_foldl_declare (stem : String) :
    ∀ (schemas : List (String × Json)) (model : Model), (schemas.map (·.1)).Nodup →
      (∀ entry ∈ schemas, entry.1 ∉ model.names) → ∀ entry ∈ schemas, ∀ id : TypeId,
        (schemas.foldl (Model.declare stem) model).Declares stem entry.1 id →
          (schemas.foldl (Model.declare stem) model).nameOf id = entry.1 := by
  intro schemas
  induction schemas using List.reverseRecOn with
  | nil => exact fun _ _ _ _ h => absurd h List.not_mem_nil
  | append_singleton schemas last ih =>
    intro model hnodup hfree entry hentry id
    rw [List.map_append, List.nodup_append'] at hnodup
    obtain ⟨hold, -, hdisjoint⟩ := hnodup
    have hfreeOld : ∀ entry ∈ schemas, entry.1 ∉ model.names :=
      fun entry h => hfree entry (List.mem_append_left _ h)
    rw [List.foldl_append, List.foldl_cons, List.foldl_nil]
    have hmem := mem_names_foldl_add_iff (·.1) (Model.declare stem)
      (fun _ entry => ⟨.component, entry.2, rfl⟩) schemas model hold hfreeOld last.1
    generalize hmid : schemas.foldl (Model.declare stem) model = mid at hmem
    intro hdeclares
    by_cases he : last.1 = entry.1
    · obtain rfl := (Declares.declare_self mid stem last).unique (he.symm ▸ hdeclares)
      have hnew : last.1 ∉ mid.names := by
        rw [hmem]
        rintro (hc | hc)
        · exact hfree last (List.mem_append_right _ List.mem_cons_self) hc
        · exact hdisjoint hc List.mem_cons_self
      rw [nameOf_declare_self, uniqueName_of_not_mem hnew, he]
    · have hin : entry ∈ schemas := (List.mem_append.mp hentry).resolve_right fun h =>
        he (congrArg Prod.fst (List.mem_singleton.mp h)).symm
      obtain ⟨type, htype⟩ := Declares.foldl_declare stem schemas model entry hin
      rw [hmid] at htype
      obtain rfl := (htype.declare_of_ne he).unique hdeclares
      have hname := ih model hold hfreeOld entry hin type (hmid ▸ htype)
      rw [hmid] at hname
      exact ((KeepsTypes.add mid _ _ _).nameOf_eq htype.lt_size).trans hname

/-- The schemas of a document get their own names, if these are different and none of them is that
of a built-in type. -/
theorem nameOf_ofDocument {document : Document} {entry : String × Json}
    (hnodup : ((document.schemas?.getD []).map (·.1)).Nodup)
    (hfree : ∀ entry ∈ document.schemas?.getD [], entry.1 ∉ intrinsicNames)
    (hentry : entry ∈ document.schemas?.getD [])
    (h : (Model.ofDocument document).Declares document.schemaReferenceStem entry.1 id) :
    (Model.ofDocument document).nameOf id = entry.1 := by
  obtain ⟨type, htype⟩ := Declares.foldl_declare document.schemaReferenceStem
    (document.schemas?.getD []) (Model.initial document) entry hentry
  have hkeeps := keepsTypes_declared document
  obtain rfl := (htype.keepsTypes hkeeps).unique h
  rw [hkeeps.nameOf_eq htype.lt_size]
  exact nameOf_foldl_declare _ _ _ hnodup
    (fun entry h => by rw [mem_names_initial_iff]; exact hfree entry h) entry hentry type htype

end ClientGen.Model
