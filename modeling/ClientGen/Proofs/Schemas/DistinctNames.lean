import Mathlib.Data.List.Nodup
import ClientGen.Document.Loading

/-!
# Members have different names

A text may repeat the name of a member. Whoever reads it keeps one member of that name, whether the
text is JSON or YAML. So the members of each object of a document have different names, and the
declared schemas in particular.

## Main definitions

* `ClientGen.Json.HasDistinctNames` — values in which members of an object have different names.
* `ClientGen.Json.ReadsDistinctNames` — what the reader of JSON makes within a number of steps.

## Main results

* `ClientGen.Json.HasDistinctNames.ofMembers` — members that are read in order have different names.
* `ClientGen.Json.hasDistinctNames_of_parse?`, `ClientGen.Yaml.hasDistinctNames_of_json?` — so do
  those of all objects of a text.
* `ClientGen.Document.nodup_schemas_of_ofText?` — the declared schemas of a document that has been
  read have different names.
-/

set_option autoImplicit false

namespace ClientGen

namespace Json

/-- At all depths of the value, members of an object have different names. -/
inductive HasDistinctNames : Json → Prop
  | null : HasDistinctNames .null
  | bool (value : Bool) : HasDistinctNames (.bool value)
  | number (value : Number) : HasDistinctNames (.number value)
  | string (value : String) : HasDistinctNames (.string value)
  | array {items : List Json} (hitems : ∀ item ∈ items, HasDistinctNames item) :
      HasDistinctNames (.array items)
  | object {members : List (String × Json)} (hnames : (members.map (·.1)).Nodup)
      (hmembers : ∀ member ∈ members, HasDistinctNames member.2) :
      HasDistinctNames (.object members)

variable {value : Json} {name : String} {members : List (String × Json)}

@[simp] lemma hasDistinctNames_string {text : String} : HasDistinctNames (.string text) :=
  .string text

@[simp] lemma hasDistinctNames_array_iff {items : List Json} :
    HasDistinctNames (.array items) ↔ ∀ item ∈ items, HasDistinctNames item :=
  ⟨fun | .array h => h, .array⟩

@[simp] lemma hasDistinctNames_object_iff : HasDistinctNames (.object members) ↔
    (members.map (·.1)).Nodup ∧ ∀ member ∈ members, HasDistinctNames member.2 :=
  ⟨fun | .object hnames hmembers => ⟨hnames, hmembers⟩, fun h => .object h.1 h.2⟩

/-! ## Members that are read in order -/

/-- The names after a member is written. -/
lemma mem_map_insertMember {other : String} :
    other ∈ (insertMember name value members).map (·.1) ↔
      other ∈ members.map (·.1) ∨ other = name := by
  induction members with
  | nil => simp [insertMember]
  | cons member rest ih =>
    obtain ⟨key, old⟩ := member
    by_cases h : key = name
    · subst h
      simp only [insertMember, if_true, List.map_cons, List.mem_cons]
      exact ⟨Or.inl, fun hc => hc.elim id Or.inl⟩
    · simp only [insertMember, h, if_false, List.map_cons, List.mem_cons, ih, or_assoc]

/-- Writing a member keeps the names different. -/
lemma nodup_insertMember (h : (members.map (·.1)).Nodup) :
    ((insertMember name value members).map (·.1)).Nodup := by
  induction members with
  | nil => simp [insertMember]
  | cons member rest ih =>
    obtain ⟨key, old⟩ := member
    obtain ⟨hnew, hrest⟩ := List.nodup_cons.mp h
    by_cases hk : key = name
    · simpa [insertMember, hk] using h
    · rw [insertMember, if_neg hk, List.map_cons, List.nodup_cons, mem_map_insertMember]
      exact ⟨fun hc => hc.elim hnew hk, ih hrest⟩

/-- The values after a member is written. -/
lemma mem_insertMember {member : String × Json} (h : member ∈ insertMember name value members) :
    member ∈ members ∨ member.2 = value := by
  induction members with
  | nil => simp_all [insertMember]
  | cons first rest ih =>
    obtain ⟨key, old⟩ := first
    by_cases hk : key = name
    · rw [insertMember, if_pos hk] at h
      rcases List.mem_cons.mp h with rfl | hrest
      · exact Or.inr rfl
      · exact Or.inl (List.mem_cons_of_mem _ hrest)
    · rw [insertMember, if_neg hk] at h
      rcases List.mem_cons.mp h with rfl | hrest
      · exact Or.inl List.mem_cons_self
      · exact (ih hrest).imp_left (List.mem_cons_of_mem _)

/-- Members that are read in order make an object whose members have different names. -/
theorem HasDistinctNames.ofMembers (h : ∀ member ∈ members, member.2.HasDistinctNames) :
    (Json.ofMembers members).HasDistinctNames := by
  have hnone : (([] : List (String × Json)).map (·.1)).Nodup ∧
      ∀ member ∈ ([] : List (String × Json)), member.2.HasDistinctNames := by simp
  have hall := List.foldlRecOn
    (motive := fun done : List (String × Json) =>
      (done.map (·.1)).Nodup ∧ ∀ member ∈ done, member.2.HasDistinctNames)
    members (fun done member => insertMember member.1 member.2 done) hnone
    fun done hdone member hmember => ⟨nodup_insertMember hdone.1, fun other ho =>
      (mem_insertMember ho).elim (hdone.2 other) fun he => he ▸ h member hmember⟩
  exact .object hall.1 hall.2

/-! ## Reading JSON -/

/-- A value that is neither array nor object. -/
lemma hasDistinctNames_of_scalar? {text rest : List Char} (h : scalar? text = some (value, rest)) :
    value.HasDistinctNames := by
  unfold scalar? at h
  split at h <;> obtain ⟨found, -, he⟩ := Option.map_eq_some_iff.mp h <;>
    obtain ⟨rfl, -⟩ := Prod.mk.inj he
  · exact .string _
  · exact .null
  · exact .bool _
  · exact .bool _
  · exact .number _

/-- What is read within a number of steps has members of different names, if what has been read
before it has. -/
structure ReadsDistinctNames (fuel : Nat) : Prop where
  value {depth : Nat} {text rest : List Char} {value : Json}
    (h : value? fuel depth text = some (value, rest)) : value.HasDistinctNames
  items {depth : Nat} {done items : List Json} {text rest : List Char}
    (hdone : ∀ item ∈ done, item.HasDistinctNames)
    (h : items? fuel depth done text = some (items, rest)) : ∀ item ∈ items, item.HasDistinctNames
  members {depth : Nat} {done members : List (String × Json)} {text rest : List Char}
    (hdone : ∀ member ∈ done, member.2.HasDistinctNames)
    (h : members? fuel depth done text = some (members, rest)) :
    ∀ member ∈ members, member.2.HasDistinctNames

namespace ReadsDistinctNames

variable {fuel depth : Nat} {text rest : List Char}

/-- A value that is read with one more step. -/
lemma value_succ (ih : ReadsDistinctNames fuel)
    (h : value? (fuel + 1) depth text = some (value, rest)) : value.HasDistinctNames := by
  rw [value?] at h
  split at h
  · cases depth with
    | zero => exact absurd h nofun
    | succ depth =>
      dsimp only at h
      split at h
      · obtain ⟨rfl, -⟩ := Prod.mk.inj (Option.some.inj h)
        exact .array fun _ hm => absurd hm List.not_mem_nil
      · obtain ⟨⟨items, after⟩, hread, he⟩ := Option.map_eq_some_iff.mp h
        obtain ⟨rfl, -⟩ := Prod.mk.inj he
        exact .array (ih.items (fun _ hm => absurd hm List.not_mem_nil) hread)
  · cases depth with
    | zero => exact absurd h nofun
    | succ depth =>
      dsimp only at h
      split at h
      · obtain ⟨rfl, -⟩ := Prod.mk.inj (Option.some.inj h)
        exact .object List.nodup_nil fun _ hm => absurd hm List.not_mem_nil
      · obtain ⟨⟨members, after⟩, hread, he⟩ := Option.map_eq_some_iff.mp h
        obtain ⟨rfl, -⟩ := Prod.mk.inj he
        exact .ofMembers (ih.members (fun _ hm => absurd hm List.not_mem_nil) hread)
  · exact hasDistinctNames_of_scalar? h

/-- Items that are read with one more step. -/
lemma items_succ {done items : List Json} (ih : ReadsDistinctNames fuel)
    (hdone : ∀ item ∈ done, item.HasDistinctNames)
    (h : items? (fuel + 1) depth done text = some (items, rest)) :
    ∀ item ∈ items, item.HasDistinctNames := by
  rw [items?] at h
  split at h
  · exact absurd h nofun
  · next item after hread =>
    have hnext : ∀ other ∈ item :: done, other.HasDistinctNames :=
      List.forall_mem_cons.mpr ⟨ih.value hread, hdone⟩
    split at h
    · exact ih.items hnext h
    · obtain ⟨rfl, -⟩ := Prod.mk.inj (Option.some.inj h)
      exact fun other ho => hnext other (List.mem_reverse.mp ho)
    · exact absurd h nofun

/-- Members that are read with one more step. -/
lemma members_succ {done members : List (String × Json)} (ih : ReadsDistinctNames fuel)
    (hdone : ∀ member ∈ done, member.2.HasDistinctNames)
    (h : members? (fuel + 1) depth done text = some (members, rest)) :
    ∀ member ∈ members, member.2.HasDistinctNames := by
  rw [members?] at h
  split at h
  · exact absurd h nofun
  · next name _ _ =>
    split at h
    · exact absurd h nofun
    · next value after hread =>
      have hnext : ∀ other ∈ (name, value) :: done, other.2.HasDistinctNames :=
        List.forall_mem_cons.mpr ⟨ih.value hread, hdone⟩
      split at h
      · exact ih.members hnext h
      · obtain ⟨rfl, -⟩ := Prod.mk.inj (Option.some.inj h)
        exact fun other ho => hnext other (List.mem_reverse.mp ho)
      · exact absurd h nofun

end ReadsDistinctNames

/-- Reading makes members of different names.

**Proof sketch.** Induction on the number of steps: each step that reads another value leaves less
steps for it, and only values that have been read become part of others. -/
theorem readsDistinctNames (fuel : Nat) : ReadsDistinctNames fuel := by
  induction fuel with
  | zero => exact ⟨nofun, fun _ => nofun, fun _ => nofun⟩
  | succ fuel ih => exact ⟨ih.value_succ, ih.items_succ, ih.members_succ⟩

/-- The objects of a JSON text have members of different names. -/
theorem hasDistinctNames_of_parse? {depth : Nat} {text : String}
    (h : parse? depth text = some value) : value.HasDistinctNames := by
  obtain ⟨⟨found, rest⟩, hread, hend⟩ := Option.bind_eq_some_iff.mp h
  obtain ⟨-, he⟩ := Option.ite_none_right_eq_some.mp hend
  obtain rfl := Option.some.inj he
  exact (readsDistinctNames _).value hread

end Json

/-! ## Reading YAML -/

namespace Yaml

/-- The value of a scalar has no members. -/
lemma hasDistinctNames_json (value : ScalarValue) : value.json.HasDistinctNames := by
  cases value <;> constructor

mutual

/-- The objects that a tree stands for have members of different names. -/
theorem Tree.hasDistinctNames_of_json? : ∀ (tree : Tree) {value : Json},
    tree.json? = some value → value.HasDistinctNames
  | .scalar tag text isPlain, value, h => by
    obtain ⟨found, -, rfl⟩ := Option.map_eq_some_iff.mp h
    exact hasDistinctNames_json found
  | .sequence tag items, value, h => by
    rw [Tree.json?] at h
    obtain ⟨-, h⟩ := Option.ite_none_left_eq_some.mp h
    obtain ⟨values, hread, rfl⟩ := Option.map_eq_some_iff.mp h
    exact .array (Tree.hasDistinctNames_of_jsonItems? items hread)
  | .mapping tag entries, value, h => by
    rw [Tree.json?] at h
    obtain ⟨-, h⟩ := Option.ite_none_left_eq_some.mp h
    obtain ⟨members, hread, rfl⟩ := Option.map_eq_some_iff.mp h
    exact .ofMembers (Tree.hasDistinctNames_of_jsonMembers? entries hread)

/-- So do those that some trees stand for. -/
theorem Tree.hasDistinctNames_of_jsonItems? : ∀ (items : List Tree) {values : List Json},
    Tree.jsonItems? items = some values → ∀ value ∈ values, value.HasDistinctNames
  | [], values, h => by
    obtain rfl := Option.some.inj h
    exact fun _ hm => absurd hm List.not_mem_nil
  | item :: rest, values, h => by
    rw [Tree.jsonItems?] at h
    obtain ⟨first, hfirst, h⟩ := Option.bind_eq_some_iff.mp h
    obtain ⟨others, hothers, h⟩ := Option.bind_eq_some_iff.mp h
    obtain rfl := Option.some.inj h
    exact List.forall_mem_cons.mpr ⟨Tree.hasDistinctNames_of_json? item hfirst,
      Tree.hasDistinctNames_of_jsonItems? rest hothers⟩

/-- So do the members that some keys and values stand for. -/
theorem Tree.hasDistinctNames_of_jsonMembers? :
    ∀ (entries : List (Tree × Tree)) {members : List (String × Json)},
      Tree.jsonMembers? entries = some members → ∀ member ∈ members, member.2.HasDistinctNames
  | [], members, h => by
    obtain rfl := Option.some.inj h
    exact fun _ hm => absurd hm List.not_mem_nil
  | (key, value) :: rest, members, h => by
    rw [Tree.jsonMembers?] at h
    obtain ⟨name, -, h⟩ := Option.bind_eq_some_iff.mp h
    obtain ⟨first, hfirst, h⟩ := Option.bind_eq_some_iff.mp h
    obtain ⟨others, hothers, h⟩ := Option.bind_eq_some_iff.mp h
    obtain rfl := Option.some.inj h
    exact List.forall_mem_cons.mpr ⟨Tree.hasDistinctNames_of_json? value hfirst,
      Tree.hasDistinctNames_of_jsonMembers? rest hothers⟩

end

/-- The objects of a YAML text have members of different names. -/
theorem hasDistinctNames_of_json? {text : String} {value : Json} (h : json? text = some value) :
    value.HasDistinctNames := by
  rw [json?, Stream.json?] at h
  obtain ⟨-, h⟩ := Option.ite_none_left_eq_some.mp h
  split at h
  · obtain rfl := Option.some.inj h
    exact .null
  · obtain ⟨tree, -, htree⟩ := Option.bind_eq_some_iff.mp h
    exact tree.hasDistinctNames_of_json? htree

end Yaml

/-! ## Documents -/

/-- In a member of a value, members have different names if they do in the value. -/
lemma Json.HasDistinctNames.get? {value inner : Json} {name : String}
    (h : value.HasDistinctNames) (hget : value.get? name = some inner) :
    inner.HasDistinctNames := by
  cases h with
  | object _ hmembers =>
    obtain ⟨before, after, rfl, -⟩ := List.lookup_eq_some_iff.mp hget
    exact hmembers (name, inner) (by simp)
  | _ => exact absurd hget nofun

/-- The members of a value have different names, if it has any. -/
lemma Json.HasDistinctNames.nodup_members {value : Json} (h : value.HasDistinctNames) :
    ((value.asObject?.getD []).map (·.1)).Nodup := by
  cases h with
  | object hnames _ => exact hnames
  | _ => exact List.nodup_nil

namespace Document

variable {document : Document}

/-- The declared schemas of a document have different names, if all members do. -/
lemma nodup_schemas (h : document.root.HasDistinctNames) :
    ((document.schemas?.getD []).map (·.1)).Nodup := by
  cases hschemas : document.schemas? with
  | none => exact List.nodup_nil
  | some schemas =>
    obtain ⟨value, hvalue, hobject⟩ := Option.bind_eq_some_iff.mp hschemas
    have hdistinct : value.HasDistinctNames := by
      rcases Option.or_eq_some_iff.mp hvalue with hcomponents | ⟨-, hdefinitions⟩
      · obtain ⟨components, hcomponents, hinner⟩ := Option.bind_eq_some_iff.mp hcomponents
        exact (h.get? hcomponents).get? hinner
      · exact h.get? hdefinitions
    cases hdistinct with
    | object hnames _ =>
      obtain rfl := Option.some.inj hobject
      exact hnames
    | _ => exact absurd hobject nofun

/-- The declared schemas of a document that has been read have different names. -/
theorem nodup_schemas_of_ofText? {text : String} (h : ofText? text = some document) :
    ((document.schemas?.getD []).map (·.1)).Nodup := by
  obtain ⟨root, hroot, rfl⟩ := Option.map_eq_some_iff.mp h
  rcases Option.or_eq_some_iff.mp hroot with hjson | ⟨-, hyaml⟩
  · exact nodup_schemas (Json.hasDistinctNames_of_parse? hjson)
  · exact nodup_schemas (Yaml.hasDistinctNames_of_json? hyaml)

end Document

end ClientGen
