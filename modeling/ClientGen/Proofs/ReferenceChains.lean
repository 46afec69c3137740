import Mathlib.Logic.Basic
import ClientGen.Document

/-!
# Chains of references

A reference leads to the value that it points to, which may be a reference in turn. Each value leads
to at most one other, so from a value there is one chain. It ends at a value that is no reference,
it breaks off at a reference that points nowhere, or it goes on for ever, in a document that is
finite round a circle. A chain is followed for a limited number of steps. Where it ends within the
limit its last value is found, and in all other cases nothing is.

## Main definitions

* `ClientGen.Json.IsConcrete` — that a value is no reference.
* `ClientGen.Document.RefersTo`, `ClientGen.Document.Dangles` — where a reference leads.
* `ClientGen.Document.Leads` — a chain of references with the number of its steps.

## Main results

* `ClientGen.Document.Leads.le_of_isConcrete` — no chain goes on beyond its end.
* `ClientGen.Document.derefWithin_eq_some_iff` — what is found within a number of looks.
* `ClientGen.Document.dereference_exact` — what is found at the end of a chain, and when nothing is.
-/

set_option autoImplicit false

namespace ClientGen

/-- The value is no reference. -/
def Json.IsConcrete (value : Json) : Prop := value.getString? "$ref" = none

namespace Document

variable {document : Document} {steps fewer more : Nat} {value target last broken : Json}

/-! ## Chains -/

/-- The value is a reference that points to `target`. -/
def RefersTo (document : Document) (value target : Json) : Prop :=
  ∃ reference, value.getString? "$ref" = some reference ∧
    document.resolve? reference = some target

/-- The value is a reference that points nowhere. -/
def Dangles (document : Document) (value : Json) : Prop :=
  ∃ reference, value.getString? "$ref" = some reference ∧ document.resolve? reference = none

/-- The chain of references from the first value comes to the second one in a number of steps. -/
inductive Leads (document : Document) : Nat → Json → Json → Prop
  /-- No step has been taken. -/
  | refl (value : Json) : Leads document 0 value value
  /-- The first step is to the value that a reference points to. -/
  | step {steps : Nat} {value target last : Json} : document.RefersTo value target →
      Leads document steps target last → Leads document (steps + 1) value last

/-- A reference leads to one value only. -/
lemma RefersTo.unique {other : Json} (h : document.RefersTo value target)
    (h' : document.RefersTo value other) : target = other := by
  obtain ⟨reference, href, htarget⟩ := h
  obtain ⟨reference', href', hother⟩ := h'
  obtain rfl := Option.some.inj (href.symm.trans href')
  exact Option.some.inj (htarget.symm.trans hother)

/-- What leads somewhere is a reference. -/
lemma RefersTo.not_isConcrete (h : document.RefersTo value target) : ¬value.IsConcrete := by
  obtain ⟨reference, href, -⟩ := h
  rw [Json.IsConcrete, href]
  exact Option.some_ne_none reference

/-- What leads somewhere does not lead nowhere. -/
lemma RefersTo.not_dangles (h : document.RefersTo value target) : ¬document.Dangles value := by
  rintro ⟨reference', href', hnone⟩
  obtain ⟨reference, href, htarget⟩ := h
  obtain rfl := Option.some.inj (href.symm.trans href')
  exact Option.some_ne_none target (htarget.symm.trans hnone)

/-- What dangles is a reference. -/
lemma Dangles.not_isConcrete (h : document.Dangles value) : ¬value.IsConcrete := by
  obtain ⟨reference, href, -⟩ := h
  rw [Json.IsConcrete, href]
  exact Option.some_ne_none reference

/-- A value is no reference, or a reference that points nowhere, or one that leads somewhere. -/
lemma isConcrete_or_dangles_or_refersTo (document : Document) (value : Json) :
    value.IsConcrete ∨ document.Dangles value ∨ ∃ target, document.RefersTo value target := by
  cases href : value.getString? "$ref" with
  | none => exact Or.inl href
  | some reference =>
    cases htarget : document.resolve? reference with
    | none => exact Or.inr (Or.inl ⟨reference, href, htarget⟩)
    | some target => exact Or.inr (Or.inr ⟨target, reference, href, htarget⟩)

namespace Leads

/-- Chains one after the other. -/
lemma trans (h : document.Leads fewer value target) (h' : document.Leads more target last) :
    document.Leads (fewer + more) value last := by
  induction h with
  | refl => rwa [Nat.zero_add]
  | step hrefers _ ih =>
    rw [Nat.add_right_comm]
    exact .step hrefers (ih h')

/-- A chain from a value is the beginning of each longer one. -/
lemma exists_rest (h : document.Leads fewer value target) (h' : document.Leads steps value last)
    (hle : fewer ≤ steps) : ∃ rest, fewer + rest = steps ∧ document.Leads rest target last := by
  induction h generalizing steps with
  | refl => exact ⟨steps, Nat.zero_add steps, h'⟩
  | step hrefers _ ih =>
    cases h' with
    | refl => exact absurd hle (Nat.not_succ_le_zero _)
    | step hrefers' hrest =>
      obtain rfl := hrefers.unique hrefers'
      obtain ⟨rest, heq, hleads⟩ := ih hrest (Nat.le_of_succ_le_succ hle)
      exact ⟨rest, by omega, hleads⟩

/-- A chain does not go on after a value that is no reference. -/
theorem le_of_isConcrete (h : document.Leads steps value last) (hlast : last.IsConcrete)
    (h' : document.Leads more value target) : more ≤ steps := by
  rcases Nat.le_total more steps with hle | hle
  · exact hle
  · obtain ⟨rest, heq, hrest⟩ := h.exists_rest h' hle
    cases hrest with
    | refl => omega
    | step hrefers _ => exact absurd hlast hrefers.not_isConcrete

/-- A chain that comes back to its beginning can be followed for any number of rounds. -/
lemma rounds (h : document.Leads steps value value) (count : Nat) :
    document.Leads (count * steps) value value := by
  induction count with
  | zero =>
    rw [Nat.zero_mul]
    exact .refl value
  | succ count ih =>
    rw [Nat.succ_mul]
    exact ih.trans h

/-- No chain ends at a value that is no reference if it runs into a circle. -/
lemma not_isConcrete_of_circle (h : document.Leads fewer value target)
    (hcircle : document.Leads (more + 1) target target)
    (hlast : document.Leads steps value last) : ¬last.IsConcrete := by
  intro hconcrete
  have hle := hlast.le_of_isConcrete hconcrete (h.trans (hcircle.rounds (steps + 1)))
  have hrounds : steps + 1 ≤ (steps + 1) * (more + 1) := Nat.le_mul_of_pos_right _ (by omega)
  omega

/-- No chain ends at a value that is no reference if it breaks off. -/
lemma not_isConcrete_of_dangles (h : document.Leads fewer value broken)
    (hbroken : document.Dangles broken) (hlast : document.Leads steps value last) :
    ¬last.IsConcrete := by
  intro hconcrete
  obtain ⟨rest, -, hrest⟩ := h.exists_rest hlast (hlast.le_of_isConcrete hconcrete h)
  cases hrest with
  | refl => exact hbroken.not_isConcrete hconcrete
  | step hrefers _ => exact hrefers.not_dangles hbroken

end Leads

/-! ## What is found -/

/-- Looking at a number of values finds the last value of a chain of fewer steps. -/
theorem derefWithin_eq_some_iff {looks : Nat} : document.derefWithin looks value = some last ↔
    ∃ steps < looks, document.Leads steps value last ∧ last.IsConcrete := by
  induction looks generalizing value with
  | zero => simp [derefWithin]
  | succ looks ih =>
    rw [derefWithin]
    cases href : value.getString? "$ref" with
    | none =>
      constructor
      · intro h
        obtain rfl := Option.some.inj h
        exact ⟨0, Nat.succ_pos looks, .refl value, href⟩
      · rintro ⟨steps, -, hleads, -⟩
        cases hleads with
        | refl => rfl
        | step hrefers _ => exact absurd href hrefers.not_isConcrete
    | some reference =>
      show (document.resolve? reference).bind (document.derefWithin looks) = some last ↔ _
      rw [Option.bind_eq_some_iff]
      constructor
      · rintro ⟨target, htarget, hfound⟩
        obtain ⟨steps, hlt, hleads, hlast⟩ := ih.mp hfound
        exact ⟨steps + 1, Nat.succ_lt_succ hlt, .step ⟨reference, href, htarget⟩ hleads, hlast⟩
      · rintro ⟨steps, hlt, hleads, hlast⟩
        cases hleads with
        | refl => exact absurd (href.symm.trans hlast) (Option.some_ne_none reference)
        | step hrefers hrest =>
          obtain ⟨reference', href', htarget⟩ := hrefers
          obtain rfl := Option.some.inj (href.symm.trans href')
          exact ⟨_, htarget, ih.mpr ⟨_, Nat.lt_of_succ_lt_succ hlt, hrest, hlast⟩⟩

/-- A chain that has not come to a value that is no reference breaks off or can be followed. -/
lemma exists_dangles_or_leads (document : Document) (value : Json) (steps : Nat)
    (h : ∀ fewer ≤ steps, ∀ last, document.Leads fewer value last → ¬last.IsConcrete) :
    (∃ fewer ≤ steps, ∃ broken, document.Leads fewer value broken ∧ document.Dangles broken) ∨
      ∃ last, document.Leads (steps + 1) value last := by
  induction steps generalizing value with
  | zero =>
    rcases document.isConcrete_or_dangles_or_refersTo value with hvalue | hvalue | ⟨target, hvalue⟩
    · exact absurd hvalue (h 0 (Nat.le_refl 0) value (.refl value))
    · exact Or.inl ⟨0, Nat.le_refl 0, value, .refl value, hvalue⟩
    · exact Or.inr ⟨target, .step hvalue (.refl target)⟩
  | succ steps ih =>
    rcases document.isConcrete_or_dangles_or_refersTo value with hvalue | hvalue | ⟨target, hvalue⟩
    · exact absurd hvalue (h 0 (Nat.zero_le _) value (.refl value))
    · exact Or.inl ⟨0, Nat.zero_le _, value, .refl value, hvalue⟩
    · have htarget : ∀ fewer ≤ steps, ∀ last, document.Leads fewer target last →
          ¬last.IsConcrete := fun fewer hle last hleads =>
        h (fewer + 1) (Nat.succ_le_succ hle) last (.step hvalue hleads)
      rcases ih target htarget with ⟨fewer, hle, broken, hleads, hbroken⟩ | ⟨last, hleads⟩
      · exact Or.inl ⟨fewer + 1, Nat.succ_le_succ hle, broken, .step hvalue hleads, hbroken⟩
      · exact Or.inr ⟨last, .step hvalue hleads⟩

/-- The value at the end of a chain of references is found if there are at most 31 steps to it.

* Nothing is found exactly if the chain breaks off within 31 steps, or goes on for 32 steps.
* So nothing is found if the chain breaks off anywhere, or runs into a circle of any length after
  any number of steps.
* What has been found is found again.

**Proof sketch.** A value leads to at most one other, so of two chains from a value one is the
beginning of the other. Hence a chain that breaks off, or comes back to one of its values, has no
value at which it ends. -/
theorem dereference_exact (document : Document) (value : Json) :
    (∀ last, document.deref? value = some last ↔
      ∃ steps ≤ 31, document.Leads steps value last ∧ last.IsConcrete) ∧
    (document.deref? value = none ↔
      (∃ steps ≤ 31, ∃ broken, document.Leads steps value broken ∧ document.Dangles broken) ∨
        ∃ last, document.Leads 32 value last) ∧
    (∀ steps broken, document.Leads steps value broken → document.Dangles broken →
      document.deref? value = none) ∧
    (∀ steps circle round, document.Leads steps value circle →
      document.Leads (round + 1) circle circle → document.deref? value = none) ∧
    ∀ last, document.deref? value = some last → document.deref? last = some last := by
  have hsome : ∀ value last, document.deref? value = some last ↔
      ∃ steps ≤ 31, document.Leads steps value last ∧ last.IsConcrete := fun value last => by
    rw [deref?, derefWithin_eq_some_iff]
    simp only [derefLimit, Nat.lt_succ_iff]
  have hnone : document.deref? value = none ↔
      ∀ steps ≤ 31, ∀ last, document.Leads steps value last → ¬last.IsConcrete := by
    simp only [Option.eq_none_iff_forall_not_mem, Option.mem_def, hsome]
    exact ⟨fun h steps hle last hleads hlast => h last ⟨steps, hle, hleads, hlast⟩,
      fun h last ⟨steps, hle, hleads, hlast⟩ => h steps hle last hleads hlast⟩
  refine ⟨hsome value, ?_, ?_, ?_, ?_⟩
  · rw [hnone]
    constructor
    · exact document.exists_dangles_or_leads value 31
    · rintro (⟨fewer, -, broken, hleads, hbroken⟩ | ⟨target, hleads⟩) steps hle last hlast
      · exact hleads.not_isConcrete_of_dangles hbroken hlast
      · intro hconcrete
        have := hlast.le_of_isConcrete hconcrete hleads
        omega
  · intro steps broken hleads hbroken
    exact hnone.mpr fun _ _ _ hlast => hleads.not_isConcrete_of_dangles hbroken hlast
  · intro steps circle round hleads hcircle
    exact hnone.mpr fun _ _ _ hlast => hleads.not_isConcrete_of_circle hcircle hlast
  · intro last hfound
    obtain ⟨_, -, -, hlast⟩ := (hsome value last).mp hfound
    exact (hsome last last).mpr ⟨0, Nat.zero_le _, .refl last, hlast⟩

/-- A reference to a member of a document. -/
def referenceTo (name : String) : Json := .object [("$ref", .string ("#/" ++ name))]

/-- A document in which 32 references lead from one to the next, and the last one to a text. Three
more lead into a circle of two of them, and one leads nowhere. -/
def chainedDocument : Document where
  root := .object (
    ((List.range 32).map fun i => (toString i, referenceTo (toString (i + 1)))) ++
      [("32", .string "found"), ("tail", referenceTo "left"), ("left", referenceTo "right"),
        ("right", referenceTo "left"), ("broken", referenceTo "nowhere")])

/-- In that document 31 steps lead to the text from one value, which finds it, and 32 steps from
another one, which does not. A chain that runs into the circle finds nothing, nor does one that
breaks off. -/
theorem dereference_exact_chained :
    chainedDocument.Leads 31 (referenceTo "2") (.string "found") ∧
    chainedDocument.deref? (referenceTo "2") = some (.string "found") ∧
    chainedDocument.Leads 32 (referenceTo "1") (.string "found") ∧
    chainedDocument.deref? (referenceTo "1") = none ∧
    chainedDocument.Leads 2 (referenceTo "left") (referenceTo "left") ∧
    chainedDocument.deref? (referenceTo "tail") = none ∧
    chainedDocument.Dangles (referenceTo "nowhere") ∧
    chainedDocument.deref? (referenceTo "broken") = none := by
  have hfound : chainedDocument.Leads 31 (referenceTo "2") (.string "found") := by
    iterate 31 refine .step ⟨_, rfl, rfl⟩ ?_
    exact .refl _
  have hlate : chainedDocument.Leads 32 (referenceTo "1") (.string "found") :=
    .step ⟨_, rfl, rfl⟩ hfound
  have hcircle : chainedDocument.Leads 2 (referenceTo "left") (referenceTo "left") :=
    .step ⟨_, rfl, rfl⟩ (.step ⟨_, rfl, rfl⟩ (.refl _))
  have hbroken : chainedDocument.Dangles (referenceTo "nowhere") := ⟨_, rfl, rfl⟩
  have htail : chainedDocument.Leads 1 (referenceTo "tail") (referenceTo "left") :=
    .step ⟨_, rfl, rfl⟩ (.refl _)
  have hlast : chainedDocument.Leads 1 (referenceTo "broken") (referenceTo "nowhere") :=
    .step ⟨_, rfl, rfl⟩ (.refl _)
  obtain ⟨hsome, -, -, -, -⟩ := chainedDocument.dereference_exact (referenceTo "2")
  obtain ⟨-, hnone, -, -, -⟩ := chainedDocument.dereference_exact (referenceTo "1")
  obtain ⟨-, -, -, hround, -⟩ := chainedDocument.dereference_exact (referenceTo "tail")
  obtain ⟨-, -, hdangles, -, -⟩ := chainedDocument.dereference_exact (referenceTo "broken")
  exact ⟨hfound, (hsome _).mpr ⟨31, Nat.le_refl _, hfound, rfl⟩, hlate,
    hnone.mpr (Or.inr ⟨_, hlate⟩), hcircle, hround 1 _ 1 htail hcircle, hbroken,
    hdangles 1 _ hlast hbroken⟩

end Document

end ClientGen
