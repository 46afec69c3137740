import ClientGen.Proofs.Reachable
import ClientGen.Proofs.Shape

/-!
# Shapes that agree

No two types of a model share a name, so the name of a type in the text of a shape stands for the
type itself. Where no name has a separator in it, the text of a shape therefore tells the name, the
type and the flags of each property, and shapes of properties are equal just if the properties agree
one by one.

## Main definitions

* `ClientGen.Property.AgreesWith` — properties that agree on what counts for a shape.

## Main results

* `ClientGen.Model.WellFormed.shapeParts_eq_iff` — the parts of a property tell what counts.
* `ClientGen.Model.Reachable.shape_eq_iff` — shapes are equal just if the properties agree.
-/

set_option autoImplicit false

namespace ClientGen

/-- Two properties agree on what counts for a shape: the name, the type and four of the flags. -/
structure Property.AgreesWith (first second : Property) : Prop where
  name : first.name = second.name
  type : first.type = second.type
  nullable : first.nullable = second.nullable
  readOnly : first.readOnly = second.readOnly
  required : first.required = second.required
  writeOnly : first.writeOnly = second.writeOnly

namespace Model

variable {model : Model} {first second : List Property}

/-- The two truth values are written differently. -/
lemma flagText_inj {first second : Bool} : flagText first = flagText second ↔ first = second := by
  cases first <;> cases second <;> decide

/-- The parts of two properties are equal just if the properties agree, since types have names of
their own. -/
theorem WellFormed.shapeParts_eq_iff (h : model.WellFormed) {first second : Property}
    (hfirst : first.type < model.nodes.size) (hsecond : second.type < model.nodes.size) :
    model.shapeParts first = model.shapeParts second ↔ first.AgreesWith second := by
  have htype : model.nameOf first.type = model.nameOf second.type ↔ first.type = second.type :=
    ⟨h.nameOf_injOn hfirst hsecond, congrArg model.nameOf⟩
  simp only [shapeParts, List.cons.injEq, and_true, htype, flagText_inj]
  constructor
  · rintro ⟨hname, htype, hnullable, hreadOnly, hrequired, hwriteOnly⟩
    exact ⟨hname, htype, hnullable, hreadOnly, hrequired, hwriteOnly⟩
  · intro ha
    exact ⟨ha.name, ha.type, ha.nullable, ha.readOnly, ha.required, ha.writeOnly⟩

/-- The parts of some properties are equal just if the properties agree one by one. -/
lemma WellFormed.map_shapeParts_eq_iff (h : model.WellFormed)
    (hfirst : ∀ p ∈ first, p.type < model.nodes.size)
    (hsecond : ∀ p ∈ second, p.type < model.nodes.size) :
    first.map model.shapeParts = second.map model.shapeParts ↔
      List.Forall₂ Property.AgreesWith first second := by
  rw [← List.forall₂_eq_eq_eq, List.forall₂_map_left_iff, List.forall₂_map_right_iff,
    List.forall₂_iff_get, List.forall₂_iff_get]
  refine and_congr_right fun _ => forall_congr' fun i => forall₂_congr fun h₁ h₂ => ?_
  exact h.shapeParts_eq_iff (hfirst _ (List.get_mem _ _)) (hsecond _ (List.get_mem _ _))

/-- In a model that can be reached, two lists of properties of its types, without separators in
names of properties or types, have the same shape just if they are of the same length and agree one
by one: in name, in type, and in what may be null, is read-only, is required and is write-only. -/
theorem Reachable.shape_eq_iff (h : model.Reachable)
    (hlt₁ : ∀ p ∈ first, p.type < model.nodes.size)
    (hlt₂ : ∀ p ∈ second, p.type < model.nodes.size)
    (hplain₁ : model.HasPlainNames first) (hplain₂ : model.HasPlainNames second) :
    model.shape first = model.shape second ↔ List.Forall₂ Property.AgreesWith first second := by
  rw [shape_eq_iff_map_shapeParts hplain₁ hplain₂,
    h.settled.toWellFormed.map_shapeParts_eq_iff hlt₁ hlt₂]

/-- The model of the sample document, before any type is derived. -/
def declaredModel : Model := Model.ofDocument Reachable.sampleDocument

/-- The properties of users in the sample document have another shape in the opposite order. -/
theorem Reachable.shape_eq_iff_reversed :
    (∀ p ∈ (declaredModel.node 23).properties, p.type < declaredModel.nodes.size) ∧
      declaredModel.HasPlainNames (declaredModel.node 23).properties ∧
      (declaredModel.node 23).properties.map (·.name) = ["id", "team"] ∧
      declaredModel.shape (declaredModel.node 23).properties ≠
        declaredModel.shape (declaredModel.node 23).properties.reverse := by
  have hfacts : (∀ p ∈ (declaredModel.node 23).properties, p.type < declaredModel.nodes.size) ∧
      declaredModel.HasPlainNames (declaredModel.node 23).properties ∧
      (declaredModel.node 23).properties.map (·.name) = ["id", "team"] := by
    decide +kernel
  obtain ⟨hlt, hplain, hnames⟩ := hfacts
  refine ⟨hlt, hplain, hnames, fun hsame => ?_⟩
  have hagree := (Reachable.shape_eq_iff (.ofDocument Reachable.sampleDocument) hlt
    (fun p hp => hlt p (List.mem_reverse.mp hp)) hplain
    fun p hp => hplain p (List.mem_reverse.mp hp)).mp hsame
  -- The names would be the same in both orders.
  have hnames' : (declaredModel.node 23).properties.map (·.name) =
      (declaredModel.node 23).properties.reverse.map (·.name) := by
    rw [← List.forall₂_eq_eq_eq, List.forall₂_map_left_iff, List.forall₂_map_right_iff]
    exact hagree.imp fun _ _ ha => ha.name
  rw [List.map_reverse, hnames] at hnames'
  exact absurd hnames' (by decide)

end Model

end ClientGen
