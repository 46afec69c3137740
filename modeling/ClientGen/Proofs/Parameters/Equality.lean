import Mathlib.Data.List.Perm.Subperm
import ClientGen.Proofs.Schemas.DistinctNames
import ClientGen.Model.Loading

/-!
# Equality of values

Two values are equal if they differ in the order of members only. Where the members of each object
have different names, as they have in all values that are read from a text, this is an equivalence.
So the declarations of parameters fall into classes: those of one class have the same name and the
same place.

## Main results

* `ClientGen.Json.HasDistinctNames.equiv_refl`, `ClientGen.Json.HasDistinctNames.equiv_symm`,
  `ClientGen.Json.HasDistinctNames.equiv_trans` — equality of values is an equivalence.
* `ClientGen.Json.HasDistinctNames.deref?` — following references leaves the members of each object
  with different names.
* `ClientGen.sameParameter_refl`, `ClientGen.sameParameter_symm`,
  `ClientGen.sameParameter_trans` — so is being the same parameter.

## Implementation notes

An object with two members of one name need not equal itself, since only the first of them is found.
-/

set_option autoImplicit false

namespace ClientGen

/-! ## Numbers -/

namespace Binary64

variable {x y z : Binary64}

/-- Numbers have the same value exactly if both are zero or they are the same. -/
lemma sameValue_iff : x.sameValue y = true ↔ x.isZero = true ∧ y.isZero = true ∨ x = y := by
  simp [sameValue]

/-- A number has the same value as another that has the same value as it. -/
lemma sameValue_symm (h : x.sameValue y = true) : y.sameValue x = true := by
  rw [sameValue_iff] at h ⊢
  exact h.imp And.symm Eq.symm

/-- The value of a number is the one of another. -/
lemma sameValue_trans (h₁ : x.sameValue y = true) (h₂ : y.sameValue z = true) :
    x.sameValue z = true := by
  rw [sameValue_iff] at h₁ h₂ ⊢
  rcases h₁ with ⟨hx, hy⟩ | rfl
  · rcases h₂ with ⟨-, hz⟩ | rfl
    · exact .inl ⟨hx, hz⟩
    · exact .inl ⟨hx, hy⟩
  · exact h₂

end Binary64

namespace Json

attribute [local simp] equiv equivItems equivMembers Number.equiv

namespace Number

variable {x y z : Number}

/-- A number equals itself. -/
lemma equiv_refl (x : Number) : x.equiv x = true := by
  cases x <;> simp [Binary64.sameValue]

/-- Equality of numbers is symmetric. -/
lemma equiv_symm (h : x.equiv y = true) : y.equiv x = true := by
  cases x with
  | integer a =>
    cases y with
    | integer b => simpa [eq_comm] using h
    | real b => exact absurd h Bool.noConfusion
  | real a =>
    cases y with
    | integer b => exact absurd h Bool.noConfusion
    | real b => exact Binary64.sameValue_symm h

/-- Equality of numbers is transitive. -/
lemma equiv_trans (h₁ : x.equiv y = true) (h₂ : y.equiv z = true) : x.equiv z = true := by
  cases y with
  | integer b =>
    obtain ⟨a, rfl⟩ : ∃ a, x = .integer a := by cases x <;> simp_all
    obtain rfl : a = b := by simpa using h₁
    exact h₂
  | real b =>
    obtain ⟨a, rfl⟩ : ∃ a, x = .real a := by cases x <;> simp_all
    obtain ⟨c, rfl⟩ : ∃ c, z = .real c := by cases z <;> simp_all
    exact Binary64.sameValue_trans h₁ h₂

end Number

/-! ## Values -/

variable {a b c : Json} {name : String} {members others : List (String × Json)}

/-- Items are equal if they are so one by one. -/
lemma equivItems_iff : ∀ {first second : List Json},
    equivItems first second = true ↔ List.Forall₂ (fun a b => a.equiv b = true) first second
  | [], [] => by simp
  | [], b :: second => by simp
  | a :: first, [] => by simp
  | a :: first, b :: second => by
    rw [equivItems, Bool.and_eq_true, equivItems_iff, List.forall₂_cons]

/-- Each member has an equal one of its name. -/
lemma equivMembers_iff : equivMembers members others = true ↔
    ∀ member ∈ members, ∃ b, others.lookup member.1 = some b ∧ member.2.equiv b = true := by
  induction members with
  | nil => simp
  | cons member rest ih =>
    obtain ⟨name, a⟩ := member
    rw [equivMembers, Bool.and_eq_true, ih, List.forall_mem_cons]
    refine and_congr_left' ?_
    cases others.lookup name <;> simp

/-- What equals `null` is `null`. -/
lemma null_equiv_iff : null.equiv b = true ↔ b = .null := by
  cases b <;> simp

/-- What equals a truth value is that truth value. -/
lemma bool_equiv_iff {value : Bool} : (bool value).equiv b = true ↔ b = .bool value := by
  cases b <;> simp [eq_comm]

/-- What equals a string is that string. -/
lemma string_equiv_iff {value : String} : (string value).equiv b = true ↔ b = .string value := by
  cases b <;> simp [eq_comm]

/-- Equal values are the same strings, if they are strings. -/
lemma asString?_eq_of_equiv (h : a.equiv b = true) : a.asString? = b.asString? := by
  cases a with
  | string value => rw [string_equiv_iff.mp h]
  | _ => cases b <;> first | rfl | exact absurd h Bool.noConfusion

/-- What equals an array is an array. -/
lemma exists_array_of_equiv {items : List Json} (h : (array items).equiv b = true) :
    ∃ others, b = .array others ∧ List.Forall₂ (fun a b => a.equiv b = true) items others := by
  cases b with
  | array others => exact ⟨others, rfl, equivItems_iff.mp h⟩
  | _ => exact absurd h Bool.noConfusion

/-- What equals an object is an object with as many members. -/
lemma exists_object_of_equiv (h : (object members).equiv b = true) :
    ∃ others, b = .object others ∧ members.length = others.length ∧
      ∀ member ∈ members, ∃ b, others.lookup member.1 = some b ∧ member.2.equiv b = true := by
  cases b with
  | object others =>
    obtain ⟨hlength, hmembers⟩ := Bool.and_eq_true_iff.mp h
    exact ⟨others, rfl, of_decide_eq_true hlength, equivMembers_iff.mp hmembers⟩
  | _ => exact absurd h Bool.noConfusion

/-- Objects are equal if they have as many members, and each one of the first has an equal one of
its name in the second. -/
lemma equiv_object (hlength : members.length = others.length)
    (h : ∀ member ∈ members, ∃ b, others.lookup member.1 = some b ∧ member.2.equiv b = true) :
    (object members).equiv (object others) = true := by
  rw [equiv, Bool.and_eq_true]
  exact ⟨decide_eq_true hlength, equivMembers_iff.mpr h⟩

/-- A member is found by its name, if the names are different. -/
lemma lookup_of_mem (hnames : (members.map (·.1)).Nodup) {member : String × Json}
    (h : member ∈ members) : members.lookup member.1 = some member.2 := by
  induction members with
  | nil => exact absurd h List.not_mem_nil
  | cons first rest ih =>
    obtain ⟨key, value⟩ := first
    obtain ⟨hkey, hrest⟩ := List.nodup_cons.mp hnames
    rcases List.mem_cons.mp h with rfl | hm
    · exact List.lookup_cons_self
    · have hne : member.1 ≠ key := by
        rintro rfl
        exact hkey (List.mem_map.mpr ⟨member, hm, rfl⟩)
      rw [List.lookup_cons, beq_false_of_ne hne]
      exact ih hrest hm

/-- A member that is found is one of the members. -/
lemma mem_of_lookup (h : members.lookup name = some a) : (name, a) ∈ members := by
  obtain ⟨before, after, rfl, -⟩ := List.lookup_eq_some_iff.mp h
  simp

namespace HasDistinctNames

/-- A value equals itself. -/
theorem equiv_refl (h : a.HasDistinctNames) : a.equiv a = true := by
  induction h with
  | null => exact null_equiv_iff.mpr rfl
  | bool value => exact bool_equiv_iff.mpr rfl
  | number value => exact value.equiv_refl
  | string value => exact string_equiv_iff.mpr rfl
  | @array items _ ih => exact equivItems_iff.mpr (List.forall₂_same.mpr ih)
  | @object members hnames _ ih =>
    exact equiv_object rfl fun member hm => ⟨member.2, lookup_of_mem hnames hm, ih member hm⟩

/-- Equality of values is symmetric.

**Proof sketch.** Objects have as many members, with different names, so the names of the first are
all names of the second. The member of a name in the second is the one that the member of that name
in the first has been compared with. -/
theorem equiv_symm (ha : a.HasDistinctNames) :
    ∀ {b : Json}, b.HasDistinctNames → a.equiv b = true → b.equiv a = true := by
  induction ha with
  | null =>
    intro b _ h
    obtain rfl := null_equiv_iff.mp h
    exact h
  | bool value =>
    intro b _ h
    obtain rfl := bool_equiv_iff.mp h
    exact h
  | number value =>
    intro b _ h
    cases b with
    | number other => exact Number.equiv_symm h
    | _ => exact absurd h Bool.noConfusion
  | string value =>
    intro b _ h
    obtain rfl := string_equiv_iff.mp h
    exact h
  | @array items _ ih =>
    intro b hb h
    obtain ⟨others, rfl, hall⟩ := exists_array_of_equiv h
    refine equivItems_iff.mpr (List.Forall₂.flip ?_)
    rw [List.forall₂_iff_zip] at hall ⊢
    refine ⟨hall.1, fun {first second} hmem => ?_⟩
    obtain ⟨hfirst, hsecond⟩ := List.of_mem_zip hmem
    exact ih first hfirst (hasDistinctNames_array_iff.mp hb second hsecond) (hall.2 hmem)
  | @object members hnames _ ih =>
    intro b hb h
    obtain ⟨others, rfl, hlength, hall⟩ := exists_object_of_equiv h
    obtain ⟨hothers, hinner⟩ := hasDistinctNames_object_iff.mp hb
    have hsubset : members.map (·.1) ⊆ others.map (·.1) := by
      intro name hname
      obtain ⟨member, hm, rfl⟩ := List.mem_map.mp hname
      obtain ⟨b, hb, -⟩ := hall member hm
      exact List.mem_map.mpr ⟨_, mem_of_lookup hb, rfl⟩
    have hperm : (members.map (·.1)).Perm (others.map (·.1)) :=
      (hnames.subperm hsubset).perm_of_length_le (by simp [hlength])
    refine equiv_object hlength.symm fun other hother => ?_
    obtain ⟨member, hm, hname⟩ := List.mem_map.mp (hperm.mem_iff.mpr (List.mem_map_of_mem hother))
    obtain ⟨b, hb, he⟩ := hall member hm
    rw [hname, lookup_of_mem hothers hother] at hb
    obtain rfl := Option.some.inj hb
    exact ⟨member.2, hname ▸ lookup_of_mem hnames hm, ih member hm (hinner other hother) he⟩

/-- Equality of values is transitive. -/
theorem equiv_trans (ha : a.HasDistinctNames) :
    ∀ {b c : Json}, a.equiv b = true → b.equiv c = true → a.equiv c = true := by
  induction ha with
  | null =>
    intro b c h₁ h₂
    rwa [null_equiv_iff.mp h₁] at h₂
  | bool value =>
    intro b c h₁ h₂
    rwa [bool_equiv_iff.mp h₁] at h₂
  | number value =>
    intro b c h₁ h₂
    cases b with
    | number other =>
      cases c with
      | number last => exact Number.equiv_trans h₁ h₂
      | _ => exact absurd h₂ Bool.noConfusion
    | _ => exact absurd h₁ Bool.noConfusion
  | string value =>
    intro b c h₁ h₂
    rwa [string_equiv_iff.mp h₁] at h₂
  | @array items _ ih =>
    intro b c h₁ h₂
    obtain ⟨others, rfl, hfirst⟩ := exists_array_of_equiv h₁
    obtain ⟨last, rfl, hsecond⟩ := exists_array_of_equiv h₂
    rw [equiv, equivItems_iff, List.forall₂_iff_get]
    rw [List.forall₂_iff_get] at hfirst hsecond
    refine ⟨hfirst.1.trans hsecond.1, fun i hi hlast => ?_⟩
    have hothers : i < others.length := hfirst.1 ▸ hi
    exact ih _ (List.get_mem items ⟨i, hi⟩) (hfirst.2 i hi hothers) (hsecond.2 i hothers hlast)
  | @object members hnames _ ih =>
    intro b c h₁ h₂
    obtain ⟨others, rfl, hlength, hfirst⟩ := exists_object_of_equiv h₁
    obtain ⟨last, rfl, hlast, hsecond⟩ := exists_object_of_equiv h₂
    refine equiv_object (hlength.trans hlast) fun member hm => ?_
    obtain ⟨b, hb, he⟩ := hfirst member hm
    obtain ⟨c, hc, he'⟩ := hsecond _ (mem_of_lookup hb)
    exact ⟨c, hc, ih member hm he he'⟩

/-! ### References -/

/-- The value that a step leads to has members of different names. -/
lemma child? {value inner : Json} {step : String} (h : value.HasDistinctNames)
    (hchild : value.child? step = some inner) : inner.HasDistinctNames := by
  cases value with
  | object members => exact h.get? hchild
  | array items =>
    obtain ⟨index, -, hitem⟩ := Option.bind_eq_some_iff.mp hchild
    exact hasDistinctNames_array_iff.mp h inner (List.mem_of_getElem? hitem)
  | _ => exact absurd hchild nofun

/-- So does the value that some steps lead to. -/
lemma at? : ∀ {steps : List String} {value inner : Json}, value.HasDistinctNames →
    value.at? steps = some inner → inner.HasDistinctNames
  | [], value, inner, h, hat => Option.some.inj hat ▸ h
  | step :: rest, value, inner, h, hat => by
    obtain ⟨next, hnext, hrest⟩ := Option.bind_eq_some_iff.mp hat
    exact (h.child? hnext).at? hrest

/-- So does the value that a reference points to. -/
lemma resolve? {document : Document} {reference : String} {inner : Json}
    (h : document.root.HasDistinctNames) (hr : document.resolve? reference = some inner) :
    inner.HasDistinctNames := by
  obtain ⟨steps, -, hat⟩ := Option.bind_eq_some_iff.mp hr
  exact h.at? hat

/-- So does the value at the end of a chain of references of some length. -/
lemma derefWithin {document : Document} (h : document.root.HasDistinctNames) :
    ∀ (limit : Nat) {value inner : Json}, value.HasDistinctNames →
      document.derefWithin limit value = some inner → inner.HasDistinctNames
  | 0, _, _, _, hd => absurd hd nofun
  | limit + 1, value, inner, hv, hd => by
    rw [Document.derefWithin] at hd
    split at hd
    · exact Option.some.inj hd ▸ hv
    · obtain ⟨next, hnext, hrest⟩ := Option.bind_eq_some_iff.mp hd
      exact h.derefWithin limit (h.resolve? hnext) hrest

/-- So does the value at the end of a chain of references. -/
theorem deref? {document : Document} (h : document.root.HasDistinctNames) {value inner : Json}
    (hv : value.HasDistinctNames) (hd : document.deref? value = some inner) :
    inner.HasDistinctNames :=
  h.derefWithin _ hv hd

end HasDistinctNames

end Json

/-! ## Parameters -/

variable {first second third : Json} {a b c : Option Json}

namespace sameParameter

/-- A member is the same as itself. -/
lemma same_refl (h : ∀ value, a = some value → value.HasDistinctNames) : same a a = true := by
  cases a with
  | none => rfl
  | some value => exact (h value rfl).equiv_refl

/-- A member is the same as another that is the same as it. -/
lemma same_symm (ha : ∀ value, a = some value → value.HasDistinctNames)
    (hb : ∀ value, b = some value → value.HasDistinctNames) (h : same a b = true) :
    same b a = true := by
  cases a with
  | none => cases b with
    | none => rfl
    | some other => exact absurd h Bool.noConfusion
  | some value => cases b with
    | none => exact absurd h Bool.noConfusion
    | some other => exact (ha value rfl).equiv_symm (hb other rfl) h

/-- Members that are the same as a third one are the same. -/
lemma same_trans (ha : ∀ value, a = some value → value.HasDistinctNames)
    (h₁ : same a b = true) (h₂ : same b c = true) : same a c = true := by
  cases b with
  | none =>
    obtain rfl : a = none := by cases a <;> simp_all [same]
    exact h₂
  | some other =>
    obtain ⟨value, rfl⟩ : ∃ value, a = some value := by cases a <;> simp_all [same]
    obtain ⟨last, rfl⟩ : ∃ last, c = some last := by cases c <;> simp_all [same]
    exact (ha value rfl).equiv_trans h₁ h₂

end sameParameter

/-- A declared parameter is the same as itself. -/
theorem sameParameter_refl (h : first.HasDistinctNames) : sameParameter first first = true :=
  Bool.and_eq_true_iff.mpr ⟨sameParameter.same_refl fun _ hv => h.get? hv,
    sameParameter.same_refl fun _ hv => h.get? hv⟩

/-- Being the same parameter is symmetric. -/
theorem sameParameter_symm (h₁ : first.HasDistinctNames) (h₂ : second.HasDistinctNames)
    (h : sameParameter first second = true) : sameParameter second first = true := by
  obtain ⟨hname, hplace⟩ := Bool.and_eq_true_iff.mp h
  exact Bool.and_eq_true_iff.mpr
    ⟨sameParameter.same_symm (fun _ hv => h₁.get? hv) (fun _ hv => h₂.get? hv) hname,
      sameParameter.same_symm (fun _ hv => h₁.get? hv) (fun _ hv => h₂.get? hv) hplace⟩

/-- Being the same parameter is transitive. -/
theorem sameParameter_trans (h : first.HasDistinctNames) (h₁ : sameParameter first second = true)
    (h₂ : sameParameter second third = true) : sameParameter first third = true := by
  obtain ⟨hname, hplace⟩ := Bool.and_eq_true_iff.mp h₁
  obtain ⟨hname', hplace'⟩ := Bool.and_eq_true_iff.mp h₂
  exact Bool.and_eq_true_iff.mpr ⟨sameParameter.same_trans (fun _ hv => h.get? hv) hname hname',
    sameParameter.same_trans (fun _ hv => h.get? hv) hplace hplace'⟩

/-- It does not matter which of two declared parameters is compared with the other. -/
lemma sameParameter_comm (h₁ : first.HasDistinctNames) (h₂ : second.HasDistinctNames) :
    sameParameter first second = sameParameter second first := by
  rw [Bool.eq_iff_iff]
  exact ⟨sameParameter_symm h₁ h₂, sameParameter_symm h₂ h₁⟩

/-- Declarations of the same parameter are the same as the same others. -/
lemma sameParameter_congr (h₁ : first.HasDistinctNames) (h₂ : second.HasDistinctNames)
    (h : sameParameter first second = true) (third : Json) :
    sameParameter first third = sameParameter second third := by
  rw [Bool.eq_iff_iff]
  exact ⟨sameParameter_trans h₂ (sameParameter_symm h₁ h₂ h), sameParameter_trans h₁ h⟩

end ClientGen
