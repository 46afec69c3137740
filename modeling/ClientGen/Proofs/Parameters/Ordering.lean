import ClientGen.Proofs.Generation.PythonNames

/-!
# The order of the parameters

A method lists its parameters with those first that must be given, then by location, and otherwise
as they are declared. The listing is a stable sort: nothing is lost or listed twice, and parameters
that agree in both respects stay in the order of their declaration. What must be given comes first,
so in a signature of Python no argument without a default value follows one that has one.

## Main definitions

* `ClientGen.grouped` — the items of a list, key by key.
* `ClientGen.IsListing` — that a list has the given parameters in the order of a listing.
* `ClientGen.Python.Formal` — an argument of a signature, with its default value.

## Main results

* `ClientGen.isListing_iff` — the parameters have one listing.
* `ClientGen.Method.allParameters_ordered` — what the parameters of a method and those of its
  locations are, and the arguments in the signatures of Python.
-/

set_option autoImplicit false

namespace ClientGen

/-! ## Grouping by a key -/

section Grouping

variable {α κ : Type} [DecidableEq κ] {key : α → κ} {k : κ} {keys : List κ} {items : List α}

/-- The items of each key, key by key. -/
def grouped (key : α → κ) (keys : List κ) (items : List α) : List α :=
  keys.flatMap fun k => items.filter (key · = k)

/-- The groups after the first one do without its items. -/
lemma grouped_cons (hk : k ∉ keys) : grouped key (k :: keys) items =
    items.filter (key · = k) ++ grouped key keys (items.filter fun a => !decide (key a = k)) := by
  refine congrArg _ (List.flatMap_congr fun other hother => ?_)
  rw [List.filter_filter]
  refine List.filter_congr fun a _ => ?_
  have hne : other ≠ k := fun h => hk (h ▸ hother)
  by_cases h : key a = other <;> simp [h, hne]

/-- What is not in the first group is in another one. -/
lemma mem_keys_of_mem_filter (hkeys : ∀ a ∈ items, key a ∈ k :: keys) :
    ∀ a ∈ items.filter fun a => !decide (key a = k), key a ≠ k ∧ key a ∈ keys := by
  intro a ha
  obtain ⟨hmem, hne⟩ := List.mem_filter.mp ha
  have hne : key a ≠ k := by simpa using hne
  exact ⟨hne, (List.mem_cons.mp (hkeys a hmem)).resolve_left hne⟩

/-- Grouping loses nothing and lists nothing twice. -/
lemma grouped_perm (hnodup : keys.Nodup) (hkeys : ∀ a ∈ items, key a ∈ keys) :
    (grouped key keys items).Perm items := by
  induction keys generalizing items with
  | nil =>
    rw [List.eq_nil_iff_forall_not_mem.mpr fun a ha => List.not_mem_nil (hkeys a ha)]
    exact .refl _
  | cons k keys ih =>
    obtain ⟨hk, hnodup⟩ := List.nodup_cons.mp hnodup
    rw [grouped_cons hk]
    have hrest := ih hnodup fun a ha => (mem_keys_of_mem_filter hkeys a ha).2
    exact (hrest.append_left _).trans (List.filter_append_perm _ items)

/-- Grouping puts the items in the order of their keys. -/
lemma pairwise_grouped (hnodup : keys.Nodup) :
    (grouped key keys items).Pairwise fun a b => keys.idxOf (key a) ≤ keys.idxOf (key b) := by
  have hkey : ∀ {k a}, a ∈ items.filter (key · = k) → key a = k :=
    fun ha => of_decide_eq_true (List.mem_filter.mp ha).2
  refine List.pairwise_flatMap.mpr ⟨fun k _ => ?_, ?_⟩
  · exact List.pairwise_of_forall_mem_list fun a ha b hb => by rw [hkey ha, hkey hb]
  · rw [List.pairwise_iff_getElem]
    intro i j hi hj hij a ha b hb
    rw [hkey ha, hkey hb, hnodup.idxOf_getElem, hnodup.idxOf_getElem]
    exact hij.le

/-- Grouping keeps the order within a group. -/
lemma filter_grouped (hnodup : keys.Nodup) (hk : k ∈ keys) :
    (grouped key keys items).filter (key · = k) = items.filter (key · = k) := by
  have hgroup : ∀ other, (items.filter (key · = other)).filter (key · = k) =
      if other = k then items.filter (key · = k) else [] := by
    intro other
    split_ifs with h
    · rw [h, List.filter_filter]
      simp
    · refine List.filter_eq_nil_iff.mpr fun a ha => ?_
      rw [of_decide_eq_true (List.mem_filter.mp ha).2]
      simpa using h
  obtain ⟨before, after, rfl⟩ := List.append_of_mem hk
  have hfree : k ∉ before ++ after := (List.nodup_middle.mp hnodup).notMem
  have hothers : ∀ others : List κ, others ⊆ before ++ after →
      (others.flatMap fun other => if other = k then items.filter (key · = k) else []) = [] :=
    fun others hsub => List.flatMap_eq_nil_iff.mpr fun other hother =>
      if_neg fun h : other = k => hfree (h ▸ hsub hother)
  rw [grouped, List.filter_flatMap]
  simp only [hgroup]
  rw [List.flatMap_append, List.flatMap_cons, if_pos rfl,
    hothers before (List.subset_append_left _ _), hothers after (List.subset_append_right _ _),
    List.nil_append, List.append_nil]

/-- In the order of their keys, the items of the first one come first. -/
lemma filter_append_filter (hsorted : items.Pairwise fun a b =>
      (k :: keys).idxOf (key a) ≤ (k :: keys).idxOf (key b)) :
    items.filter (key · = k) ++ items.filter (fun a => !decide (key a = k)) = items := by
  induction items with
  | nil => rfl
  | cons a items ih =>
    obtain ⟨hle, hsorted⟩ := List.pairwise_cons.mp hsorted
    by_cases ha : key a = k
    · simp [ha, ih hsorted]
    · -- No item after this one has the key, as that comes before all others.
      have hne : ∀ b ∈ a :: items, key b ≠ k := by
        rintro b hb rfl
        obtain rfl | hb := List.mem_cons.mp hb
        · exact ha rfl
        · have hzero := hle b hb
          rw [List.idxOf_cons_self, List.idxOf_cons_ne _ (Ne.symm ha)] at hzero
          omega
      rw [List.filter_eq_nil_iff.mpr fun b hb => by simpa using hne b hb, List.nil_append,
        List.filter_eq_self.mpr fun b hb => by simpa using hne b hb]

/-- What is in the order of its keys stays as it is. -/
lemma grouped_eq_self (hnodup : keys.Nodup) (hkeys : ∀ a ∈ items, key a ∈ keys)
    (hsorted : items.Pairwise fun a b => keys.idxOf (key a) ≤ keys.idxOf (key b)) :
    grouped key keys items = items := by
  induction keys generalizing items with
  | nil => rw [List.eq_nil_iff_forall_not_mem.mpr fun a ha => List.not_mem_nil (hkeys a ha)]; rfl
  | cons k keys ih =>
    obtain ⟨hk, hnodup⟩ := List.nodup_cons.mp hnodup
    have hrest := mem_keys_of_mem_filter hkeys
    rw [grouped_cons hk, ih hnodup (fun a ha => (hrest a ha).2), filter_append_filter hsorted]
    refine (hsorted.filter _).imp_of_mem fun {a b} ha hb hle => ?_
    rw [List.idxOf_cons_ne _ (hrest a ha).1.symm, List.idxOf_cons_ne _ (hrest b hb).1.symm] at hle
    exact Nat.le_of_succ_le_succ hle

end Grouping

/-! ## Listings -/

variable {parameters listing : List Parameter} {p q : Parameter}

/-- The list has the given parameters, first those that must be given, those and the others by
location, and those that agree in both respects in the order in which they are given. -/
structure IsListing (parameters listing : List Parameter) : Prop where
  perm : listing.Perm parameters
  required_first : listing.Pairwise fun p q => q.required = true → p.required = true
  location_le : listing.Pairwise fun p q => p.required = q.required →
    Location.all.idxOf p.location ≤ Location.all.idxOf q.location
  stable : ∀ (required : Bool) (location : Location),
    listing.filter (fun p => p.required = required && p.location = location) =
      parameters.filter (fun p => p.required = required && p.location = location)

/-- What a listing is sorted by. -/
structure Rank where
  /-- Whether a parameter must be given. -/
  required : Bool
  /-- Where it travels. -/
  location : Location
  deriving DecidableEq

/-- The rank of a parameter. -/
def Parameter.rank (parameter : Parameter) : Rank := ⟨parameter.required, parameter.location⟩

/-- The ranks in the order of a listing. -/
def Rank.all : List Rank := Location.all.map (⟨true, ·⟩) ++ Location.all.map (⟨false, ·⟩)

/-- No rank is listed twice. -/
lemma Rank.nodup_all : all.Nodup := by decide

/-- Every rank is listed. -/
lemma Rank.mem_all (rank : Rank) : rank ∈ all := by
  obtain ⟨_ | _, location⟩ := rank <;> simp [all, Location.mem_all]

/-- One rank is not after another one if it does not put an optional parameter before a required
one, and if it puts no location before an earlier one. -/
lemma Rank.idxOf_le_iff (a b : Rank) : all.idxOf a ≤ all.idxOf b ↔
    (b.required = true → a.required = true) ∧ (a.required = b.required →
      Location.all.idxOf a.location ≤ Location.all.idxOf b.location) := by
  have hall : ∀ a ∈ all, ∀ b ∈ all, all.idxOf a ≤ all.idxOf b ↔
      (b.required = true → a.required = true) ∧ (a.required = b.required →
        Location.all.idxOf a.location ≤ Location.all.idxOf b.location) := by
    decide
  exact hall a (mem_all a) b (mem_all b)

/-- The parameters of a rank are those that agree with it in both respects. -/
lemma filter_rank (rank : Rank) (parameters : List Parameter) :
    parameters.filter (·.rank = rank) =
      parameters.filter (fun p => p.required = rank.required && p.location = rank.location) := by
  obtain ⟨required, location⟩ := rank
  refine List.filter_congr fun p _ => ?_
  simp [Parameter.rank]

/-- The parameters have one listing: the parameters of each rank, rank by rank. -/
theorem isListing_iff : IsListing parameters listing ↔
    listing = grouped Parameter.rank Rank.all parameters := by
  have hrank : ∀ {parameters : List Parameter}, ∀ p ∈ parameters, p.rank ∈ Rank.all :=
    fun p _ => p.rank.mem_all
  constructor
  · rintro ⟨-, hrequired, hlocation, hstable⟩
    have hsorted : listing.Pairwise fun p q => Rank.all.idxOf p.rank ≤ Rank.all.idxOf q.rank :=
      hrequired.imp₂ (fun _ _ h h' => (Rank.idxOf_le_iff _ _).mpr ⟨h, h'⟩) hlocation
    rw [← grouped_eq_self Rank.nodup_all hrank hsorted]
    refine List.flatMap_congr fun rank _ => ?_
    rw [filter_rank, hstable, filter_rank]
  · rintro rfl
    have hsorted : (grouped Parameter.rank Rank.all parameters).Pairwise
        fun p q => Rank.all.idxOf p.rank ≤ Rank.all.idxOf q.rank :=
      pairwise_grouped Rank.nodup_all
    refine ⟨grouped_perm Rank.nodup_all hrank,
      hsorted.imp fun h => ((Rank.idxOf_le_iff _ _).mp h).1,
      hsorted.imp fun h => ((Rank.idxOf_le_iff _ _).mp h).2, fun required location => ?_⟩
    have hstable : (grouped Parameter.rank Rank.all parameters).filter
        (·.rank = ⟨required, location⟩) = parameters.filter (·.rank = ⟨required, location⟩) :=
      filter_grouped Rank.nodup_all (Rank.mem_all ⟨required, location⟩)
    rwa [filter_rank, filter_rank] at hstable

namespace Method

variable {method : Method}

/-- A method lists its parameters by rank. -/
lemma allParameters_eq_grouped (method : Method) :
    method.allParameters = grouped Parameter.rank Rank.all method.parameters := by
  have hpart : ∀ (required : Bool) (location : Location),
      (method.parameters.filter (·.required = required)).filter (·.location = location) =
        method.parameters.filter (·.rank = ⟨required, location⟩) := by
    intro required location
    rw [filter_rank, List.filter_filter]
    exact List.filter_congr fun p _ => Bool.and_comm _ _
  rw [grouped, Rank.all, List.flatMap_append, List.flatMap_map, List.flatMap_map, allParameters,
    requiredParameters, optionalParameters, byLocation, byLocation]
  simp only [← hpart]
  simp

/-- A method lists its parameters. -/
theorem isListing_allParameters (method : Method) :
    IsListing method.parameters method.allParameters :=
  isListing_iff.mpr (allParameters_eq_grouped method)

/-- The parameters of the locations, one location after the other, are all parameters. -/
lemma flatMap_parametersIn_perm (method : Method) :
    (Location.all.flatMap method.parametersIn).Perm method.parameters :=
  (grouped_perm Location.nodup_all fun p _ => p.location.mem_all).trans
    (isListing_allParameters method).perm

end Method

/-! ## Signatures of Python -/

namespace Python

open Rendering

/-- An argument of a signature. -/
structure Formal where
  /-- The name, with the type if there is one. -/
  declaration : String
  /-- The value that the argument has if it is left out. -/
  default : Option String

/-- The line of an argument. -/
def Formal.line (level : Nat) (formal : Formal) : String :=
  indent level ++ formal.declaration ++
    (match formal.default with
      | some value => " = " ++ value
      | none => "") ++ ","

/-- The argument that a method is a member of. -/
def Formal.self : Formal := ⟨"self", none⟩

/-- The argument for the options of the transport. -/
def Formal.options : Formal :=
  ⟨"transport_options: Optional[transport.TransportOptions]", some "None"⟩

/-- The formal stands for the parameter: it has its name, and a default value just if the parameter
need not be given. -/
def Formal.StandsFor (formal : Formal) (parameter : Parameter) : Prop :=
  (∃ type, formal.declaration = safeName parameter.name ++ ": " ++ type) ∧
    (formal.default.isSome = true ↔ parameter.required = false)

/-- An argument with its default value. -/
def Argument.toFormal (argument : Argument) : Formal where
  declaration := argument.name ++ ": " ++
    if argument.nullable then "Optional[" ++ argument.type ++ "]" else argument.type
  default := if argument.optional then some "None" else none

/-- The arguments of a method. -/
def Definition.formals (definition : Definition) : List Formal :=
  .self :: definition.arguments.map Argument.toFormal ++ [.options]

/-- The text is a method whose signature has the given arguments. -/
def HasSignature (level : Nat) (formals : List Formal) (text : String) : Prop :=
  ∃ definition : Definition, text = definition.render level ∧
    definition.signature level =
      [indent level ++ "# " ++ definition.verb.name ++ " " ++ definition.endpoint ++ " -> " ++
          definition.returns,
        indent level ++ "def " ++ definition.name ++ "("] ++
      formals.map (Formal.line (level + 1)) ++
      [indent level ++ ") -> " ++ definition.returns ++ ":"]

/-- An argument is written as it is declared, with its default value. -/
lemma Argument.line_toFormal (level : Nat) (argument : Argument) :
    argument.toFormal.line level = indent level ++ argument.render ++ "," := by
  cases h : argument.optional <;>
    simp [Formal.line, toFormal, render, h, String.append_assoc]

/-- The signature of a method has one line for each argument. -/
lemma Definition.hasSignature (definition : Definition) (level : Nat) :
    HasSignature level definition.formals (definition.render level) := by
  have hself : Formal.self.line (level + 1) = indent (level + 1) ++ "self," := by
    simp only [Formal.line, Formal.self, String.append_assoc]
    rfl
  have hoptions : Formal.options.line (level + 1) = indent (level + 1) ++
      "transport_options: Optional[transport.TransportOptions] = None," := by
    simp only [Formal.line, Formal.options, String.append_assoc]
    rfl
  refine ⟨definition, rfl, ?_⟩
  simp only [signature, formals, List.map_append, List.map_cons, List.map_map, List.map_nil,
    hself, hoptions, Function.comp_def, Argument.line_toFormal, List.cons_append,
    List.nil_append, List.append_assoc]

/-- The argument for a parameter stands for it. -/
lemma ensures_standsFor (parameter : Parameter) (pass : Pass) :
    (argumentOf parameter).Ensures True pass fun argument _ =>
      argument.toFormal.StandsFor parameter := by
  rw [argumentOf_eq]
  refine (ensures_true _ _).bind fun spelling _ _ => Ensures.pure ⟨⟨_, rfl⟩, ?_⟩
  cases parameter.required <;> simp [Argument.toFormal]

/-- The arguments of a method stand for its parameters, in the order in which they are listed. -/
lemma ensures_standFor (level : Nat) (method : Method) (pass : Pass) :
    (Python.method level method).Ensures True pass fun text _ => ∃ formals : List Formal,
      HasSignature level (.self :: formals ++ [.options]) text ∧
      List.Forall₂ (fun parameter formal => formal.StandsFor parameter)
        method.allParameters formals := by
  have harguments : ∀ pass, (method.allParameters.mapM argumentOf).Ensures True pass
      fun arguments _ => True ∧ List.Forall₂
        (fun parameter argument => argument.toFormal.StandsFor parameter)
          method.allParameters arguments :=
    fun pass => Ensures.mapM (fun parameter pass _ => (ensures_standsFor parameter pass).imp
      fun _ _ h => ⟨trivial, h⟩) _ trivial
  have hdefinition : (definition method).Ensures True pass fun definition _ => List.Forall₂
      (fun parameter argument => argument.toFormal.StandsFor parameter)
        method.allParameters definition.arguments :=
    (ensures_true _ _).bind fun returns after _ =>
      (harguments after).bind fun arguments _ h => Ensures.pure h.2
  exact hdefinition.bind fun definition _ h => Ensures.pure
    ⟨_, definition.hasSignature level, List.forall₂_map_right_iff.mpr h⟩

/-- Where the arguments stand for the parameters of a listing, after one with a default value all
have one. -/
lemma pairwise_of_standFor {formals : List Formal}
    (h : List.Forall₂ (fun parameter formal => formal.StandsFor parameter) listing formals)
    (hlisting : IsListing parameters listing) :
    (Formal.self :: formals ++ [Formal.options]).Pairwise
      fun a b => a.default.isSome = true → b.default.isSome = true := by
  have hmap : formals.map (·.default.isSome) = listing.map (!·.required) := by
    have hforall := h.imp fun parameter formal hstands =>
      (show formal.default.isSome = !parameter.required by
        rw [Bool.eq_iff_iff, hstands.2, Bool.not_eq_true'])
    rw [← List.forall₂_eq_eq_eq, List.forall₂_map_left_iff, List.forall₂_map_right_iff]
    exact hforall.flip
  have hformals : formals.Pairwise
      fun a b => a.default.isSome = true → b.default.isSome = true := by
    rw [← List.pairwise_map (f := fun formal : Formal => formal.default.isSome)
      (R := fun a b => a = true → b = true), hmap, List.pairwise_map]
    refine hlisting.required_first.imp fun {p q} hrequired hp => ?_
    cases hq : q.required
    · rfl
    · simp [hrequired hq] at hp
  rw [List.cons_append, List.pairwise_cons, List.pairwise_append]
  refine ⟨fun _ _ hself => absurd hself Bool.false_ne_true, hformals,
    List.pairwise_singleton _ _, ?_⟩
  rintro a - b hb -
  rw [List.mem_singleton.mp hb]
  rfl

end Python

/-! ## Methods -/

/-- The parameters of a method are listed with those first that must be given, then by location, and
otherwise as they are declared. The listing has the declared parameters, each as often as it is
declared, and so have the parameters of the five locations, which are in the order of the listing.
The signatures of Python have an argument for each parameter of the listing, between `self` and the
options, and after an argument with a default value all have one. -/
theorem Method.allParameters_ordered (method : Method) :
    IsListing method.parameters method.allParameters ∧
    ([Location.path, .body, .query, .header, .cookie].flatMap method.parametersIn).Perm
      method.parameters ∧
    (∀ location, (method.parametersIn location).Sublist method.allParameters) ∧
    ∀ (level : Nat) (text : String) (pass after : Pass),
      (Python.backend.method level method).run.run pass = (.ok text, after) →
      ∃ formals : List Python.Formal,
        Python.HasSignature level (.self :: formals ++ [.options]) text ∧
        List.Forall₂ (fun parameter formal => formal.StandsFor parameter)
          method.allParameters formals ∧
        (Python.Formal.self :: formals ++ [Python.Formal.options]).Pairwise
          fun a b => a.default.isSome = true → b.default.isSome = true := by
  refine ⟨isListing_allParameters method, flatMap_parametersIn_perm method,
    fun location => List.filter_sublist, fun level text pass after hrun => ?_⟩
  obtain ⟨formals, htext, hformals⟩ := (Python.ensures_standFor level method pass).of_ok hrun
  exact ⟨formals, htext, hformals,
    Python.pairwise_of_standFor hformals (isListing_allParameters method)⟩

/-- A method whose parameters are declared out of order. One of them is declared twice. -/
def shuffledMethod : Method where
  operationId := "find"
  verb := .get
  endpoint := "/{id}"
  schema := .null
  parameters := [{ name := "page", type := 0, location := .query },
    { name := "hint", type := 0, location := .body },
    { name := "trace", type := 0, location := .header, required := true },
    { name := "id", type := 0, location := .path },
    { name := "page", type := 0, location := .query }]
  responses := [{ status := 200, mediaType := "application/json", type := 0 }]
  primary := ⟨0, Nat.zero_lt_one⟩

/-- The parameters of that method as they are listed, and its signature, where those of them have a
default value that need not be given. -/
theorem Method.allParameters_ordered_shuffled :
    shuffledMethod.allParameters.map (·.name) = ["id", "trace", "hint", "page", "page"] ∧
    IsListing shuffledMethod.parameters shuffledMethod.allParameters ∧
    ∃ (text : String) (after : Pass) (formals : List Python.Formal),
      (Python.backend.method 1 shuffledMethod).run.run
        { model := Model.initial default, apiVersion := "4.0", packageName := "sample" } =
          (.ok text, after) ∧
      Python.HasSignature 1 (.self :: formals ++ [.options]) text ∧
      formals.length = 5 ∧
      (Python.Formal.self :: formals ++ [Python.Formal.options]).Pairwise
        fun a b => a.default.isSome = true → b.default.isSome = true := by
  have hok : ((Python.backend.method 1 shuffledMethod).run.run
      { model := Model.initial default, apiVersion := "4.0", packageName := "sample" }).1.isOk =
        true := by
    decide
  obtain ⟨text, after, hrun⟩ := Rendering.exists_of_isOk hok
  obtain ⟨hlisting, -, -, hsignatures⟩ := allParameters_ordered shuffledMethod
  obtain ⟨formals, htext, hformals, hdefaults⟩ := hsignatures 1 text _ after hrun
  have hlength : shuffledMethod.allParameters.length = 5 := by decide
  exact ⟨by decide, hlisting, text, after, formals, hrun, htext,
    hformals.length_eq.symm.trans hlength, hdefaults⟩

end ClientGen
