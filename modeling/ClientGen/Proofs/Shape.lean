import Mathlib.Tactic.Lemma
import Mathlib.Tactic.SplitIfs
import ClientGen.Model.Shape

/-!
# What a shape tells

The text of a shape joins the parts of a property with colons, and the properties with semicolons.
Nothing is escaped, so a name may make a shape ambiguous. Where no name has a separator in it, the
shape tells all the parts of all the properties.

## Main definitions

* `ClientGen.IsPlain` — texts without a separator.
* `ClientGen.Model.HasPlainNames` — properties without a separator in a name, of types likewise.

## Main results

* `ClientGen.Model.shapeParts_eq_of_shape_eq` — properties with plain names are told apart by
  their shape.
* `ClientGen.Model.shape_eq_iff_map_shapeParts` — such properties have the same shape just if they
  have the same parts.
-/

set_option autoImplicit false

namespace ClientGen

/-! ## Joined texts -/

/-- A character of a joined text is one of the separator or of a piece. -/
lemma mem_toList_intercalate {separator : String} {c : Char} :
    ∀ {pieces : List String}, c ∈ (separator.intercalate pieces).toList →
      c ∈ separator.toList ∨ ∃ piece ∈ pieces, c ∈ piece.toList
  | [], h => by simp at h
  | [piece], h => by
    rw [String.intercalate_singleton] at h
    exact Or.inr ⟨piece, List.mem_cons_self, h⟩
  | piece :: next :: rest, h => by
    rw [String.intercalate_cons_cons, String.toList_append, String.toList_append, List.mem_append,
      List.mem_append] at h
    rcases h with (hpiece | hsep) | hrest
    · exact Or.inr ⟨piece, List.mem_cons_self, hpiece⟩
    · exact Or.inl hsep
    · rcases mem_toList_intercalate hrest with hsep | ⟨other, hmem, hc⟩
      · exact Or.inl hsep
      · exact Or.inr ⟨other, List.mem_cons_of_mem _ hmem, hc⟩

/-! ## Plain names -/

/-- A text without a colon or a semicolon. -/
def IsPlain (text : String) : Prop := ':' ∉ text.toList ∧ ';' ∉ text.toList

instance (text : String) : Decidable (IsPlain text) := inferInstanceAs (Decidable (_ ∧ _))

/-- Truth values are written without a separator. -/
lemma isPlain_flagText (flag : Bool) : IsPlain (Model.flagText flag) := by
  cases flag <;> exact ⟨by decide, by decide⟩

namespace Model

variable {model : Model} {first second : List Property}

/-- Properties whose names and whose types' names are without a separator. -/
def HasPlainNames (model : Model) (properties : List Property) : Prop :=
  ∀ p ∈ properties, IsPlain p.name ∧ IsPlain (model.nameOf p.type)

instance (model : Model) (properties : List Property) :
    Decidable (model.HasPlainNames properties) :=
  inferInstanceAs (Decidable (∀ p ∈ properties, _))

/-- The parts of a property with plain names are without a separator. -/
lemma isPlain_of_mem_shapeParts {p : Property} (hname : IsPlain p.name)
    (htype : IsPlain (model.nameOf p.type)) {part : String} (hpart : part ∈ model.shapeParts p) :
    IsPlain part := by
  simp only [shapeParts, List.mem_cons, List.not_mem_nil, or_false] at hpart
  rcases hpart with rfl | rfl | rfl | rfl | rfl | rfl
  · exact hname
  · exact htype
  all_goals exact isPlain_flagText _

/-- The shape of a property is not empty. -/
lemma propertyShape_ne_empty (model : Model) (p : Property) : model.propertyShape p ≠ "" := by
  intro h
  have hmem : ':' ∈ (model.propertyShape p).toList := by
    rw [propertyShape, shapeParts, String.intercalate_cons_cons]
    simp
  rw [h] at hmem
  simp at hmem

/-- The pieces of the shape of a property with plain names are the parts of the property. -/
lemma split_propertyShape {p : Property} (hname : IsPlain p.name)
    (htype : IsPlain (model.nameOf p.type)) :
    ((model.propertyShape p).split ':').toList.map (·.copy) = model.shapeParts p := by
  have h := String.toList_split_intercalate fun part hpart =>
    (isPlain_of_mem_shapeParts hname htype hpart).1
  rwa [if_neg (by simp [shapeParts])] at h

/-- The pieces of the shape of some properties with plain names are the shapes of the
properties. -/
lemma split_shape {properties : List Property} (h : model.HasPlainNames properties) :
    ((model.shape properties).split ';').toList.map (·.copy) =
      if properties = [] then [""] else properties.map model.propertyShape := by
  have hpieces : ∀ piece ∈ properties.map model.propertyShape, ';' ∉ piece.toList := by
    intro piece hp hc
    obtain ⟨p, hmem, rfl⟩ := List.mem_map.mp hp
    rcases mem_toList_intercalate hc with hsep | ⟨part, hpart, hin⟩
    · exact absurd hsep (by decide)
    · exact (isPlain_of_mem_shapeParts (h p hmem).1 (h p hmem).2 hpart).2 hin
  refine (String.toList_split_intercalate hpieces).trans ?_
  simp only [List.map_eq_nil_iff]

/-- Properties with plain names that have the same shape agree on all parts that count.

**Proof sketch.** The text of the shape gives the shapes of the properties back, since no
semicolon is in any of them, and each of these gives the parts of the property back, since no
colon is in them. -/
theorem shapeParts_eq_of_shape_eq (hfirst : model.HasPlainNames first)
    (hsecond : model.HasPlainNames second) (h : model.shape first = model.shape second) :
    first.map model.shapeParts = second.map model.shapeParts := by
  have hnil : ∀ {properties : List Property},
      properties.map model.propertyShape ≠ [""] := by
    intro properties hp
    obtain ⟨p, -, he⟩ := List.mem_map.mp (hp ▸ List.mem_cons_self : "" ∈ properties.map _)
    exact model.propertyShape_ne_empty p he
  have hshapes : first.map model.propertyShape = second.map model.propertyShape := by
    have hsplit := split_shape hfirst
    rw [h, split_shape hsecond] at hsplit
    split_ifs at hsplit with h₁ h₂ h₂
    · rw [h₁, h₂]
    · exact absurd hsplit.symm hnil
    · exact absurd hsplit hnil
    · exact hsplit.symm
  have hparts : ∀ {properties : List Property}, model.HasPlainNames properties →
      properties.map model.shapeParts = (properties.map model.propertyShape).map
        fun text => (text.split ':').toList.map (·.copy) := by
    intro properties hplain
    rw [List.map_map]
    exact List.map_congr_left fun p hp =>
      (split_propertyShape (hplain p hp).1 (hplain p hp).2).symm
  rw [hparts hfirst, hshapes, hparts hsecond]

/-- Properties with plain names have the same shape just if they agree on all parts that count. -/
theorem shape_eq_iff_map_shapeParts (hfirst : model.HasPlainNames first)
    (hsecond : model.HasPlainNames second) :
    model.shape first = model.shape second ↔
      first.map model.shapeParts = second.map model.shapeParts := by
  have hshape : ∀ properties : List Property, model.shape properties =
      ";".intercalate ((properties.map model.shapeParts).map ":".intercalate) := by
    intro properties
    rw [List.map_map]
    rfl
  refine ⟨shapeParts_eq_of_shape_eq hfirst hsecond, fun h => ?_⟩
  rw [hshape, h, ← hshape]

end Model

end ClientGen
