import ClientGen.Proofs.Parameters.Equality
import ClientGen.Proofs.Traversal

/-!
# Parameters that are declared more than once

A path and each of its operations declare parameters, in place or by reference. Declarations of the
same name and place stand for one parameter. The list that comes of them is made by going through
the declarations, where each one takes the place of the one of its name and place that has been
seen before. So the parameters stand in the order in which they were declared first, and the last
declaration of each is what counts.

## Main definitions

* `ClientGen.mergeAll` — some parameters after more have been declared.
* `ClientGen.LastWins` — that a list has the last one of each parameter, in the order of the first
  ones.

## Main results

* `ClientGen.mergeAll_cons` — a parameter stays in its place, and more declarations of it do not get
  past it.
* `ClientGen.lastWins_mergeAll` — merging has the last one of each parameter.
* `ClientGen.mergedParameters_last_wins` — so do the parameters of an operation, which are there
  exactly if no reference of a declaration breaks off.

## Implementation notes

What is said of values assumes that the members of each object have different names. That is so in
all documents that are read from a text, see `ClientGen.Json.hasDistinctNames_of_parse?` and
`ClientGen.Yaml.hasDistinctNames_of_json?`.
-/

set_option autoImplicit false

namespace ClientGen

variable {document : Document} {parameters merged : List Json} {first : Json}

/-! ## Following the references -/

/-- A declaration stands for what is at the end of its chain of references. -/
lemma derefParameter_eq_ok_iff {item parameter : Json} :
    derefParameter document item = .ok parameter ↔ document.deref? item = some parameter := by
  rw [derefParameter]
  cases document.deref? item <;> simp

/-- A declaration whose chain of references leads nowhere is reported with its text. -/
lemma derefParameter_eq_error_iff {item : Json} {error : SpecError} :
    derefParameter document item = .error error ↔
      document.deref? item = none ∧ error = .unknownReference item.render := by
  rw [derefParameter]
  cases document.deref? item <;> simp [eq_comm]

/-! ## Merging -/

/-- Some parameters after more have been declared, one after the other. -/
def mergeAll (merged parameters : List Json) : List Json :=
  parameters.foldl (fun merged parameter => mergeParameter parameter merged) merged

/-- The first parameter stays the first one. The last declaration of it takes its place, and the
other parameters do not see any declaration of it.

**Proof sketch.** Induction on the declarations. One of the same parameter is what those that follow
are compared with, and they are the same as it just if they are the same as the first one. -/
theorem mergeAll_cons (hparameters : ∀ parameter ∈ parameters, parameter.HasDistinctNames)
    (hfirst : first.HasDistinctNames) (merged : List Json) :
    mergeAll (first :: merged) parameters =
      (parameters.filter (sameParameter first)).getLast?.getD first ::
        mergeAll merged (parameters.filter fun parameter => !sameParameter first parameter) := by
  induction parameters generalizing first merged with
  | nil => rfl
  | cons parameter rest ih =>
    obtain ⟨hparameter, hrest⟩ := List.forall_mem_cons.mp hparameters
    show mergeAll (mergeParameter parameter (first :: merged)) rest = _
    rw [mergeParameter]
    by_cases hsame : sameParameter first parameter = true
    · have hclass : sameParameter parameter = sameParameter first := by
        funext other
        exact (sameParameter_congr hfirst hparameter hsame other).symm
      rw [if_pos hsame, ih hrest hparameter, List.filter_cons_of_pos hsame,
        List.filter_cons_of_neg (by simp [hsame]), List.getLast?_cons, Option.getD_some, hclass]
    · rw [if_neg hsame, ih hrest hfirst, List.filter_cons_of_neg hsame,
        List.filter_cons_of_pos (by simp [hsame])]
      rfl

/-- The list has the last one of each parameter, in the order of the first ones. -/
structure LastWins (parameters merged : List Json) : Prop where
  /-- The first ones of all parameters, in order, have just the last ones in their places. -/
  lasts : List.Forall₂ (fun first last => first ∈ parameters ∧
      (parameters.filter (sameParameter first)).getLast? = some last)
    (parameters.eraseDupsBy sameParameter) merged
  /-- There is one of each parameter at most. -/
  distinct : merged.Pairwise fun first second => sameParameter first second = false
  /-- There is one of each parameter. -/
  complete : ∀ parameter ∈ parameters, ∃ last ∈ merged, sameParameter parameter last = true

namespace LastWins

/-- What is in the list is one of the parameters. -/
lemma mem (h : LastWins parameters merged) {last : Json} (hlast : last ∈ merged) :
    last ∈ parameters := by
  obtain ⟨first, -, -, he⟩ := exists_of_mem_right h.lasts hlast
  exact List.mem_of_mem_filter (List.mem_of_getLast? he)

/-- Among the parameters that are not the same as the first one, those that are the same as one of
them are the same as among all. -/
lemma filter_apart (hfirst : first.HasDistinctNames)
    (hrest : ∀ parameter ∈ parameters, parameter.HasDistinctNames) {other : Json}
    (hother : other ∈ parameters) (hapart : sameParameter first other = false) :
    (parameters.filter fun parameter => !sameParameter first parameter).filter
      (sameParameter other) = parameters.filter (sameParameter other) := by
  rw [List.filter_filter]
  refine List.filter_congr fun parameter hp => ?_
  cases hsame : sameParameter other parameter with
  | false => rfl
  | true =>
    rw [sameParameter_comm hfirst (hrest parameter hp),
      ← sameParameter_congr (hrest other hother) (hrest parameter hp) hsame,
      sameParameter_comm (hrest other hother) hfirst, hapart]
    rfl

/-- One more parameter, before all others, gets a place of its own for the last one of it.

**Proof sketch.** The others that are in the list are not the same as the first parameter, so none
of the parameters that are the same as one of them is. -/
lemma cons (hfirst : first.HasDistinctNames)
    (hrest : ∀ parameter ∈ parameters, parameter.HasDistinctNames)
    (h : LastWins (parameters.filter fun parameter => !sameParameter first parameter) merged) :
    LastWins (first :: parameters)
      ((parameters.filter (sameParameter first)).getLast?.getD first :: merged) := by
  have hself := sameParameter_refl hfirst
  have hmem : ∀ other ∈ parameters.filter fun parameter => !sameParameter first parameter,
      other ∈ parameters ∧ sameParameter first other = false := by
    simp
  have hlast : sameParameter first
      ((parameters.filter (sameParameter first)).getLast?.getD first) = true := by
    cases hl : (parameters.filter (sameParameter first)).getLast? with
    | none => exact hself
    | some last => exact (List.mem_filter.mp (List.mem_of_getLast? hl)).2
  constructor
  case lasts =>
    have hothers : (parameters.filter fun other => sameParameter other first = false) =
        parameters.filter fun parameter => !sameParameter first parameter :=
      List.filter_congr fun other ho => by
        rw [sameParameter_comm (hrest other ho) hfirst]
        cases sameParameter first other <;> rfl
    rw [List.eraseDupsBy_cons, hothers]
    refine .cons ⟨List.mem_cons_self, ?_⟩ (h.lasts.imp ?_)
    · rw [List.filter_cons_of_pos hself, List.getLast?_cons]
    · rintro other last ⟨ho, he⟩
      obtain ⟨hother, hapart⟩ := hmem other ho
      have hnot : sameParameter other first = false := by
        rw [sameParameter_comm (hrest other hother) hfirst, hapart]
      refine ⟨List.mem_cons_of_mem _ hother, ?_⟩
      rw [List.filter_cons_of_neg (by simp [hnot]), ← he, filter_apart hfirst hrest hother hapart]
  case distinct =>
    refine .cons (fun other ho => ?_) h.distinct
    obtain ⟨-, hapart⟩ := hmem other (h.mem ho)
    rw [Bool.eq_false_iff] at hapart ⊢
    exact fun hc => hapart (sameParameter_trans hfirst hlast hc)
  case complete =>
    refine List.forall_mem_cons.mpr ⟨⟨_, List.mem_cons_self, hlast⟩, fun parameter hp => ?_⟩
    cases hsame : sameParameter first parameter with
    | true =>
      refine ⟨_, List.mem_cons_self, ?_⟩
      rwa [← sameParameter_congr hfirst (hrest parameter hp) hsame]
    | false =>
      obtain ⟨last, hl, he⟩ := h.complete parameter (by simp [hp, hsame])
      exact ⟨last, List.mem_cons_of_mem _ hl, he⟩

end LastWins

/-- Merging has the last one of each parameter, in the order of the first ones.

**Proof sketch.** Strong induction on the number of declarations. The first one stays in its place.
What is left is to merge the declarations of other parameters, among which those of any parameter
are the same as among all. -/
theorem lastWins_mergeAll (parameters : List Json)
    (h : ∀ parameter ∈ parameters, parameter.HasDistinctNames) :
    LastWins parameters (mergeAll [] parameters) := by
  induction hn : parameters.length using Nat.strongRecOn generalizing parameters with
  | ind n ih =>
    cases parameters with
    | nil => exact ⟨.nil, .nil, fun _ hm => absurd hm List.not_mem_nil⟩
    | cons first rest =>
      obtain ⟨hfirst, hrest⟩ := List.forall_mem_cons.mp h
      have hinner := ih _ (by
        rw [← hn, List.length_cons]
        exact Nat.lt_succ_of_le (List.length_filter_le _ rest))
        (rest.filter fun parameter => !sameParameter first parameter)
        (fun parameter hm => hrest parameter (List.mem_of_mem_filter hm)) rfl
      have hmerge : mergeAll [] (first :: rest) = _ := mergeAll_cons hrest hfirst []
      rw [hmerge]
      exact hinner.cons hfirst hrest

/-- The declared parameters of a value have members of different names, if the value has. -/
lemma Json.HasDistinctNames.of_mem_declaredParameters {value item : Json}
    (h : value.HasDistinctNames) (hitem : item ∈ declaredParameters value) :
    item.HasDistinctNames := by
  rw [declaredParameters] at hitem
  cases hparameters : value.get? "parameters" with
  | none => simp [hparameters] at hitem
  | some inner =>
    rw [hparameters] at hitem
    cases inner with
    | array items => exact hasDistinctNames_array_iff.mp (h.get? hparameters) item hitem
    | _ => exact absurd hitem List.not_mem_nil

/-! ## The parameters of an operation -/

section

variable {path operation : Json}

/-- The parameters of an operation and its path are the declared ones, followed and merged. -/
lemma mergedParameters_eq (document : Document) (path operation : Json) :
    mergedParameters document path operation =
      mergeAll [] <$> (declaredParameters path ++ declaredParameters operation).mapM
        (derefParameter document) := rfl

/-- The parameters of an operation are there if all declarations can be followed. -/
lemma mergedParameters_eq_ok_iff : mergedParameters document path operation = .ok merged ↔
    ∃ parameters, List.Forall₂ (fun item parameter => document.deref? item = some parameter)
      (declaredParameters path ++ declaredParameters operation) parameters ∧
      merged = mergeAll [] parameters := by
  have hall : ∀ parameters,
      (declaredParameters path ++ declaredParameters operation).mapM (derefParameter document) =
          .ok parameters ↔
        List.Forall₂ (fun item parameter => document.deref? item = some parameter)
          (declaredParameters path ++ declaredParameters operation) parameters := by
    intro parameters
    simp only [mapM_eq_ok_iff, derefParameter_eq_ok_iff]
  simp only [← hall]
  rw [mergedParameters_eq]
  cases (declaredParameters path ++ declaredParameters operation).mapM (derefParameter document)
  · simp [Functor.map, Except.map]
  · simp [Functor.map, Except.map, eq_comm]

/-- The first declaration that cannot be followed is reported. -/
lemma mergedParameters_eq_error_iff {error : SpecError} :
    mergedParameters document path operation = .error error ↔
      ∃ before item after,
        declaredParameters path ++ declaredParameters operation = before ++ item :: after ∧
        (∀ other ∈ before, ∃ parameter, document.deref? other = some parameter) ∧
        document.deref? item = none ∧ error = .unknownReference item.render := by
  have hmap : mergedParameters document path operation = .error error ↔
      (declaredParameters path ++ declaredParameters operation).mapM (derefParameter document) =
        .error error := by
    rw [mergedParameters_eq]
    cases (declaredParameters path ++ declaredParameters operation).mapM (derefParameter document)
    · simp [Functor.map, Except.map]
    · simp [Functor.map, Except.map]
  rw [hmap, mapM_eq_error_iff]
  simp only [derefParameter_eq_ok_iff, derefParameter_eq_error_iff]

/-- What the declarations lead to has members of different names, if the document and the values
that declare them have. -/
lemma hasDistinctNames_of_deref (hroot : document.root.HasDistinctNames)
    (hpath : path.HasDistinctNames) (hoperation : operation.HasDistinctNames)
    (hall : List.Forall₂ (fun item parameter => document.deref? item = some parameter)
      (declaredParameters path ++ declaredParameters operation) parameters) :
    ∀ parameter ∈ parameters, parameter.HasDistinctNames := by
  intro parameter hp
  obtain ⟨item, hitem, hfound⟩ := exists_of_mem_right hall hp
  refine hroot.deref? ?_ hfound
  rcases List.mem_append.mp hitem with hshared | hown
  · exact hpath.of_mem_declaredParameters hshared
  · exact hoperation.of_mem_declaredParameters hown

/-- The parameters of an operation are there exactly if the chain of references of each declaration
leads somewhere, of those of the path and then those of the operation. The first one that does not
is reported. Where all do, the parameters are the last ones of each name and place, in the order of
the first ones. -/
theorem mergedParameters_last_wins (hroot : document.root.HasDistinctNames)
    (hpath : path.HasDistinctNames) (hoperation : operation.HasDistinctNames) :
    let declared := declaredParameters path ++ declaredParameters operation
    ((∃ error, mergedParameters document path operation = .error error) ↔
      ∃ item ∈ declared, document.deref? item = none) ∧
    (∀ error, mergedParameters document path operation = .error error ↔
      ∃ before item after, declared = before ++ item :: after ∧
        (∀ other ∈ before, ∃ parameter, document.deref? other = some parameter) ∧
        document.deref? item = none ∧ error = .unknownReference item.render) ∧
    ∀ merged, mergedParameters document path operation = .ok merged → ∃ parameters,
      List.Forall₂ (fun item parameter => document.deref? item = some parameter)
        declared parameters ∧
      LastWins parameters merged := by
  intro declared
  refine ⟨⟨?_, ?_⟩, fun error => mergedParameters_eq_error_iff, fun merged hmerged => ?_⟩
  · rintro ⟨error, h⟩
    obtain ⟨before, item, after, hsplit, -, hitem, -⟩ := mergedParameters_eq_error_iff.mp h
    exact ⟨item, by simp [declared, hsplit], hitem⟩
  · rintro ⟨item, hmem, hitem⟩
    cases h : mergedParameters document path operation with
    | error error => exact ⟨error, rfl⟩
    | ok merged =>
      obtain ⟨parameters, hall, -⟩ := mergedParameters_eq_ok_iff.mp h
      obtain ⟨parameter, -, hfound⟩ := exists_of_mem_left hall hmem
      exact absurd (hitem.symm.trans hfound) (by simp)
  · obtain ⟨parameters, hall, rfl⟩ := mergedParameters_eq_ok_iff.mp hmerged
    exact ⟨parameters, hall, lastWins_mergeAll parameters
      (hasDistinctNames_of_deref hroot hpath hoperation hall)⟩

end

/-! ### A sample -/

/-- A document that declares a parameter for others to refer to. -/
def pagesDocument : Document where
  root := .object [("components", .object [("parameters", .object [
    ("Page", .object [("name", .string "page"), ("in", .string "query"),
      ("required", .bool true)])])])]

/-- A path with two parameters. -/
def pagesPath : Json := .object [("parameters", .array [
  .object [("name", .string "page"), ("in", .string "query")],
  .object [("name", .string "id"), ("in", .string "path")]])]

/-- An operation that declares one of the parameters of the path by reference, and another one. -/
def pagesOperation : Json := .object [("parameters", .array [
  .object [("$ref", .string "#/components/parameters/Page")],
  .object [("in", .string "query"), ("name", .string "like")]])]

/-- What the parameters of the sample are: the one that is declared twice is required, as what the
reference leads to says. -/
def pagesParameters : List Json := [
  .object [("name", .string "page"), ("in", .string "query"), ("required", .bool true)],
  .object [("name", .string "id"), ("in", .string "path")],
  .object [("in", .string "query"), ("name", .string "like")]]

/-- In the sample the parameter that is declared twice keeps its place, and what the reference leads
to is what counts. -/
theorem mergedParameters_last_wins_sample :
    mergedParameters pagesDocument pagesPath pagesOperation = .ok pagesParameters ∧
      ∃ parameters, parameters.length = 4 ∧ LastWins parameters pagesParameters := by
  have hfound : mergedParameters pagesDocument pagesPath pagesOperation = .ok pagesParameters := by
    rfl
  have hroot : pagesDocument.root.HasDistinctNames := by
    simp [pagesDocument, Json.HasDistinctNames.bool]
  have hpath : pagesPath.HasDistinctNames := by simp [pagesPath]
  have hoperation : pagesOperation.HasDistinctNames := by simp [pagesOperation]
  obtain ⟨-, -, hmerged⟩ := mergedParameters_last_wins hroot hpath hoperation
  obtain ⟨parameters, hall, hwins⟩ := hmerged _ hfound
  exact ⟨hfound, parameters, hall.length_eq.symm, hwins⟩

end ClientGen
