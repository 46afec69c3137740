import Mathlib.Data.List.Basic
import ClientGen.Method.Verb
import ClientGen.Proofs.Conversion.Recovery
import ClientGen.Proofs.Schemas.DistinctNames

/-!
# Which parameters styles are recovered for

A parameter of an operation is meant by its name and its location, but the one that a style is
written into is found by its name alone. So of some parameters of one name the first gets the style
that is stated last for any of them, and the others get none. Where the name says which parameter
is meant, each parameter gets the style that is stated last for it, and a parameter that no style is
stated for keeps what it has.

Where an operation is looked for is written as a pointer, in which the member that declares the
operation is not escaped. If there is a slash in the name of that member, something can even be
written below the style of a parameter. Nothing is below a style that is a string.

## Main definitions

* `ClientGen.Conversion.parameters?` — the parameters of an operation of a document.
* `ClientGen.Conversion.lastStyle?` — the style that is stated last for some of the parameters.
* `ClientGen.Conversion.NameTells` — that a name says which parameter of an operation is meant.

## Main results

* `ClientGen.Conversion.follow?_run_append_cons`, `ClientGen.Conversion.follow?_run_of_forall_ne` —
  what a member of an object is after everything has been written.
* `ClientGen.Conversion.Fix.place?_eq_parameter_iff` — what is written into a parameter.
* `ClientGen.Conversion.recover_styles` — the styles of the parameters of an operation.
-/

set_option autoImplicit false

namespace ClientGen

/-! ## Reading beside a write -/

namespace Json

variable {place chain : List Slot} {name : String} {value json : Json}

/-- The members of a value, of which there are none if it is no object. -/
lemma lookup_members (json : Json) : (json.asObject?.getD []).lookup name = json.get? name := by
  cases json <;> rfl

lemma follow?_append (below : List Slot) :
    follow? (chain ++ below) json = (follow? chain json).bind (follow? below) := by
  induction chain generalizing json with
  | nil => rfl
  | cons slot rest ih =>
    rw [List.cons_append, follow?, follow?, Option.bind_assoc]
    exact congrArg _ (funext fun inner => ih)

/-- A write below a part of a value changes that part. -/
lemma follow?_writeAt_append (below : List Slot) :
    follow? chain (writeAt (chain ++ below) name value json) =
      (follow? chain json).map (writeAt below name value) := by
  induction chain generalizing json with
  | nil => rfl
  | cons slot rest ih =>
    rw [List.cons_append, writeAt_cons, follow?, follow?, Slot.get?_modify_self]
    cases slot.get? json with
    | none => rfl
    | some inner => exact ih

/-- A write leaves the parts of a value that it neither leads to nor passes. -/
lemma follow?_writeAt_of_not_isPrefix (hthrough : ¬ place ++ [Slot.member name] <+: chain)
    (hpass : ¬ chain <+: place) :
    follow? chain (writeAt place name value json) = follow? chain json := by
  induction chain generalizing place json with
  | nil => exact absurd List.nil_prefix hpass
  | cons slot rest ih =>
    cases place with
    | nil =>
      have hne : slot ≠ .member name := by
        rintro rfl
        exact hthrough (by simp)
      rw [writeAt_nil, follow?, get?_setMember_of_ne json hne, follow?]
    | cons slot' place =>
      rw [writeAt_cons, follow?, follow?]
      by_cases hslot : slot = slot'
      · subst hslot
        rw [Slot.get?_modify_self]
        cases slot.get? json with
        | none => rfl
        | some inner =>
          exact ih (fun h => hthrough (List.cons_prefix_cons.mpr ⟨rfl, h⟩))
            fun h => hpass (List.cons_prefix_cons.mpr ⟨rfl, h⟩)
      · rw [Slot.get?_modify_of_ne _ _ hslot]

/-- A write keeps the number of items of the arrays that it does not overwrite. -/
lemma exists_follow?_writeAt_array {items : List Json}
    (h : follow? chain json = some (.array items))
    (hthrough : ¬ place ++ [Slot.member name] <+: chain) :
    ∃ items', follow? chain (writeAt place name value json) = some (.array items') ∧
      items'.length = items.length := by
  by_cases hpass : chain <+: place
  · obtain ⟨below, rfl⟩ := hpass
    rw [follow?_writeAt_append, h]
    rcases below with _ | ⟨key | index, below⟩
    · exact ⟨items, rfl, rfl⟩
    · exact ⟨items, rfl, rfl⟩
    · exact ⟨items.modify index (writeAt below name value), rfl, List.length_modify ..⟩
  · exact ⟨items, (follow?_writeAt_of_not_isPrefix hthrough hpass).trans h, rfl⟩

/-- A route does not lead through a leaf. -/
lemma not_prefix_of_isLeaf {route : List Step}
    (hleaf : ∀ inner, follow? chain json = some inner → inner.isLeaf)
    (h : place? route json = some place) : ¬ chain <+: place := by
  rintro ⟨below, rfl⟩
  obtain ⟨members, hmembers⟩ := exists_follow?_of_place? h
  rw [follow?_append] at hmembers
  obtain ⟨inner, hinner, hbelow⟩ := Option.bind_eq_some_iff.mp hmembers
  have hinner := hleaf inner hinner
  cases below with
  | nil =>
    obtain rfl := Option.some.inj hbelow
    exact absurd hinner Bool.false_ne_true
  | cons slot below =>
    rw [follow?, Slot.get?_of_isLeaf hinner] at hbelow
    cases hbelow

/-- A route leads to a place of as many parts as it has steps. -/
lemma length_of_place? {route : List Step} (h : place? route json = some place) :
    place.length = route.length := by
  induction route generalizing json place with
  | nil =>
    obtain ⟨-, rfl⟩ := place?_nil_eq_some.mp h
    rfl
  | cons step rest ih =>
    obtain ⟨slot, inner, below, -, -, hbelow, rfl⟩ := place?_cons_eq_some.mp h
    rw [List.length_cons, List.length_cons, ih hbelow]

/-- A step of a pointer leads to a member just when it is its name. -/
lemma place?_child_eq_member_iff {rest : List Step} {step : String} {below : List Slot} :
    place? (.child step :: rest) json = some (.member name :: below) ↔
      step = name ∧ ∃ inner, json.get? name = some inner ∧ place? rest inner = some below := by
  rw [place?_cons_eq_some]
  constructor
  · rintro ⟨slot, inner, below, hslot, hinner, hbelow, heq⟩
    obtain ⟨rfl, rfl⟩ := List.cons.inj heq
    cases json with
    | object members =>
      obtain rfl : step = name := by simpa [Step.slot?] using hslot
      exact ⟨rfl, inner, hinner, hbelow⟩
    | _ => cases hinner
  · rintro ⟨rfl, inner, hinner, hbelow⟩
    cases json with
    | object members => exact ⟨.member step, inner, below, rfl, hinner, hbelow, rfl⟩
    | _ => cases hinner

/-- Steps of a pointer lead to as many members just when they are their names. -/
lemma place?_children_eq_members_iff {rest : List Step} {steps names : List String}
    {below : List Slot} (hlength : steps.length = names.length) :
    place? (steps.map .child ++ rest) json = some (names.map .member ++ below) ↔
      steps = names ∧ ∃ inner, follow? (names.map .member) json = some inner ∧
        place? rest inner = some below := by
  induction steps generalizing names json with
  | nil =>
    obtain rfl := List.length_eq_zero_iff.mp hlength.symm
    simp [follow?]
  | cons step steps ih =>
    obtain ⟨name, names, rfl⟩ := List.exists_cons_of_length_eq_add_one hlength.symm
    have hget : (Slot.member name).get? json = json.get? name := by cases json <;> rfl
    rw [List.map_cons, List.map_cons, List.cons_append, List.cons_append,
      place?_child_eq_member_iff, follow?, hget, List.cons.injEq]
    simp only [ih (Nat.succ.inj hlength), Option.bind_eq_some_iff]
    constructor
    · rintro ⟨rfl, next, hnext, rfl, inner, hinner, hbelow⟩
      exact ⟨⟨rfl, rfl⟩, inner, ⟨next, hnext, hinner⟩, hbelow⟩
    · rintro ⟨⟨rfl, rfl⟩, inner, ⟨next, hnext, hinner⟩, hbelow⟩
      exact ⟨rfl, next, hnext, rfl, inner, hinner, hbelow⟩

/-- A name leads to the first item with that name. -/
lemma place?_named_iff {items : List Json} {index : Nat} :
    place? [.named name] (.array items) = some [.item index] ↔
      items.findIdx? (Conversion.isNamed name) = some index := by
  rw [place?_cons_eq_some]
  constructor
  · rintro ⟨slot, inner, below, hslot, -, -, heq⟩
    obtain ⟨rfl, -⟩ := List.cons.inj heq
    simpa [Step.slot?] using hslot
  · intro h
    obtain ⟨hlt, hnamed, -⟩ := List.findIdx?_eq_some_iff_getElem.mp h
    have hobject : items[index].asObject?.isSome := (Bool.and_eq_true_iff.mp hnamed).1
    exact ⟨.item index, items[index], [], by simp [Step.slot?, h],
      List.getElem?_eq_getElem hlt, place?_nil_eq_some.mpr ⟨hobject, rfl⟩, rfl⟩

end Json

namespace Conversion

open Json

/-! ## What a member becomes -/

section Run

variable {fix other : Fix} {fixes : List Fix} {converted : Json} {place : List Slot}

/-- Nothing that is written is written over a place, or over the way to it. -/
def IsUntouched (place : List Slot) : Prop :=
  ∀ (fix : Fix) (converted : Json) (found : List Slot), fix.place? converted = some found →
    ¬ found ++ [.member fix.member] <+: place

/-- A place that nothing is written over stays where it is. -/
lemma Fix.place?_run (huntouched : IsUntouched place) :
    fix.place? (run fixes converted) = some place ↔ fix.place? converted = some place := by
  induction fixes generalizing converted with
  | nil => rfl
  | cons other rest ih =>
    rw [run_cons, ih]
    cases hother : other.place? converted with
    | none => rw [Fix.write_of_place?_none hother]
    | some found =>
      rw [Fix.place?_write hother]
      exact and_iff_left (huntouched other converted found hother)

/-- What is written elsewhere is not written over a member of an object. -/
lemma not_prefix_of_ne {found : List Slot} {name : String} (huntouched : IsUntouched place)
    (hfound : fix.place? converted = some found) (hne : found ≠ place) :
    ¬ found ++ [Slot.member fix.member] <+: place ++ [Slot.member name] := by
  intro h
  rcases List.prefix_concat_iff.mp h with heq | hpre
  · exact hne (List.append_inj_left' heq rfl)
  · exact huntouched fix converted found hfound hpre

/-- A member of an object that nothing comes to is as it was, if it is a leaf or nothing can come
below it. -/
theorem follow?_run_of_forall_ne {name : String} (huntouched : IsUntouched place)
    (hne : ∀ fix ∈ fixes, fix.place? converted ≠ some place)
    (hbelow :
      (∀ value, follow? (place ++ [Slot.member name]) converted = some value → value.isLeaf) ∨
        ∀ fix ∈ fixes, fix.route.length ≤ place.length) :
    follow? (place ++ [Slot.member name]) (run fixes converted) =
      follow? (place ++ [Slot.member name]) converted := by
  induction fixes using List.reverseRecOn with
  | nil => rfl
  | append_singleton fixes last ih =>
    obtain ⟨hfixes, hlast⟩ := List.forall_mem_append.mp hne
    have hbefore := ih hfixes (hbelow.imp_right fun h fix hfix => h fix (by simp [hfix]))
    have hlast := hlast last List.mem_cons_self
    rw [run_append, run_cons, run_nil]
    cases hfound : last.place? (run fixes converted) with
    | none => rw [Fix.write_of_place?_none hfound, hbefore]
    | some found =>
      rw [Fix.write_of_place? hfound, follow?_writeAt_of_not_isPrefix ?_ ?_, hbefore]
      · refine not_prefix_of_ne huntouched hfound ?_
        rintro rfl
        exact hlast ((Fix.place?_run huntouched).mp hfound)
      · rcases hbelow with hleaf | hlength
        · exact not_prefix_of_isLeaf (by rwa [hbefore]) hfound
        · intro hpre
          have hle := hpre.length_le
          have hroute := hlength last (by simp)
          rw [length_of_place? hfound, List.length_append, List.length_singleton] at hle
          omega

/-- The last piece of information that comes to an object has the last word. -/
theorem follow?_run_append_cons {before after : List Fix} (huntouched : IsUntouched place)
    (hplace : fix.place? converted = some place)
    (hafter : ∀ other ∈ after, other.place? converted ≠ some place) :
    follow? (place ++ [Slot.member fix.member]) (run (before ++ fix :: after) converted) =
      some fix.value := by
  have hkept : fix.place? (run before converted) = some place :=
    (Fix.place?_run huntouched).mpr hplace
  obtain ⟨members, hmembers⟩ := exists_follow?_of_place? hkept
  have hvalue : follow? (place ++ [Slot.member fix.member]) (fix.write (run before converted)) =
      some fix.value := by
    rw [Fix.write_of_place? hkept]
    exact follow?_writeAt_self hmembers
  have hwrite : fix.write (run before converted) = run (before ++ [fix]) converted := by
    rw [run_append, run_cons, run_nil]
  rw [run_append, run_cons, follow?_run_of_forall_ne huntouched (fun other hother h => ?_)
    (.inl fun inner hinner => ?_), hvalue]
  · rw [hwrite] at h
    exact hafter other hother ((Fix.place?_run huntouched).mp h)
  · rw [hvalue] at hinner
    exact Option.some.inj hinner ▸ fix.isLeaf_value

/-- An array that nothing is written over keeps its number of items. -/
lemma exists_follow?_run_array {items : List Json} (huntouched : IsUntouched place)
    (h : follow? place converted = some (.array items)) :
    ∃ items', follow? place (run fixes converted) = some (.array items') ∧
      items'.length = items.length := by
  induction fixes generalizing converted items with
  | nil => exact ⟨items, h, rfl⟩
  | cons fix rest ih =>
    rw [run_cons]
    cases hfound : fix.place? converted with
    | none =>
      rw [Fix.write_of_place?_none hfound]
      exact ih h
    | some found =>
      rw [Fix.write_of_place? hfound]
      obtain ⟨between, hbetween, hlength⟩ :=
        exists_follow?_writeAt_array h (huntouched fix converted found hfound)
      obtain ⟨items', hitems', hlength'⟩ := ih hbetween
      exact ⟨items', hitems', hlength'.trans hlength⟩

end Run

/-! ## What is said of a parameter -/

/-- The parameters that an operation of a document lists. -/
def parameters? (document : Json) (endpoint : String) (verb : Verb) : Option (List Json) :=
  ((((document.get? "paths").bind (·.get? endpoint)).bind (·.get? verb.key)).bind
    (·.get? "parameters")).bind asArray?

/-- The style that an older document states for a parameter, as a collection format. -/
def statedStyle? (parameter : Json) : Option Style :=
  (parameter.getString? "collectionFormat").bind Style.ofCollectionFormat?

/-- The style that is stated last for those parameters of an older document that are meant. -/
def lastStyle? (isMeant : Json → Bool) (stated : List Json) : Option Style :=
  ((stated.filter isMeant).filterMap statedStyle?).getLast?

/-- The style that a piece of information gives for a parameter of an operation. -/
def Fix.style? (endpoint key name : String) : Fix → Option Style
  | .bodyRequired _ _ => none
  | .style operation parameter _ recovered =>
    if operation.endpoint = endpoint ∧ operation.key = key ∧ parameter = name then some recovered
    else none

section Stated

variable {fix : Fix} {operation : Operation} {parameter older : Json} {stated : List Json}
  {endpoint key name : String} {verb : Verb}

/-- What a style of a parameter is written as. -/
lemma Fix.member_value_of_style? {style : Style} (h : fix.style? endpoint key name = some style) :
    fix.member = "style" ∧ fix.value = .string style.name := by
  cases fix with
  | bodyRequired => exact absurd h nofun
  | style =>
    obtain ⟨-, heq⟩ := Option.ite_none_right_eq_some.mp h
    exact ⟨rfl, by rw [Fix.value, Option.some.inj heq]⟩

/-- A piece of information about another operation gives no style. -/
lemma Fix.style?_eq_none
    (h : fix.operation.endpoint ≠ endpoint ∨ fix.operation.key ≠ key) :
    fix.style? endpoint key name = none := by
  cases fix with
  | bodyRequired => rfl
  | style => exact if_neg fun ⟨hendpoint, hkey, _⟩ => h.elim (· hendpoint) (· hkey)

/-- What a parameter says is about its operation. -/
lemma operation_of_mem_fixesOfParameter (h : fix ∈ fixesOfParameter operation parameter) :
    fix.operation = operation := by
  rcases List.mem_append.mp h with hbody | hstyle
  · rw [Option.mem_toList] at hbody
    obtain ⟨-, hrequired⟩ := Option.ite_none_right_eq_some.mp hbody
    obtain ⟨required, -, rfl⟩ := Option.map_eq_some_iff.mp hrequired
    rfl
  · rw [Option.mem_toList] at hstyle
    obtain ⟨format, -, hstyle⟩ := Option.bind_eq_some_iff.mp hstyle
    obtain ⟨style, -, rfl⟩ := Option.map_eq_some_iff.mp hstyle
    rfl

/-- The style that a parameter says of the one with a name. -/
lemma filterMap_style?_fixesOfParameter :
    (fixesOfParameter operation parameter).filterMap
        (Fix.style? operation.endpoint operation.key name) =
      if parameter.text "name" = name then (statedStyle? parameter).toList else [] := by
  have hbody (required : Option Bool) :
      (required.map (Fix.bodyRequired operation)).toList.filterMap
        (Fix.style? operation.endpoint operation.key name) = [] := by
    cases required <;> rfl
  rw [fixesOfParameter, List.filterMap_append, statedStyle?]
  have hnone : (if parameter.text "name" = "body" && parameter.text "in" = "body" then
      ((parameter.get? "required").bind asBool?).map (Fix.bodyRequired operation)
    else none).toList.filterMap (Fix.style? operation.endpoint operation.key name) = [] := by
    split
    next => exact hbody _
    next => rfl
  rw [hnone, List.nil_append]
  cases parameter.getString? "collectionFormat" with
  | none => simp
  | some format =>
    rw [Option.bind_some, Option.bind_some]
    cases Style.ofCollectionFormat? format with
    | none => simp
    | some recovered =>
      by_cases hname : parameter.text "name" = name <;> simp [Fix.style?, hname]

/-- The styles that an operation says of its parameter with a name. -/
lemma filterMap_style?_flatMap (operation : Operation) :
    (stated.flatMap (fixesOfParameter operation)).filterMap
        (Fix.style? operation.endpoint operation.key name) =
      (stated.filter fun parameter => parameter.text "name" = name).filterMap statedStyle? := by
  induction stated with
  | nil => rfl
  | cons parameter rest ih =>
    rw [List.flatMap_cons, List.filterMap_append, filterMap_style?_fixesOfParameter, ih,
      List.filter_cons]
    by_cases hname : parameter.text "name" = name
    · cases hstyle : statedStyle? parameter <;> simp [hname, hstyle]
    · simp [hname]

/-- What members say, if only one of them says anything. -/
lemma filterMap_flatMap_lookup {α β : Type} {key : String} {members : List (String × Json)}
    {say : String × Json → List α} {hear : α → Option β} (hnames : (members.map (·.1)).Nodup)
    (hother : ∀ entry : String × Json, entry.1 ≠ key → (say entry).filterMap hear = []) :
    (members.flatMap say).filterMap hear =
      ((members.lookup key).map fun value => (say (key, value)).filterMap hear).getD [] := by
  have hsilent {others : List (String × Json)} (h : ∀ entry ∈ others, entry.1 ≠ key) :
      (others.flatMap say).filterMap hear = [] := by
    rw [List.filterMap_flatMap]
    exact List.flatMap_eq_nil_iff.mpr fun entry hentry => hother entry (h entry hentry)
  cases hlookup : members.lookup key with
  | none =>
    refine hsilent fun entry hentry heq => ?_
    simpa [heq] using List.lookup_eq_none_iff.mp hlookup entry hentry
  | some value =>
    obtain ⟨before, after, rfl, hbefore⟩ := List.lookup_eq_some_iff.mp hlookup
    rw [List.map_append, List.map_cons] at hnames
    have hafter : key ∉ after.map (·.1) := (List.nodup_cons.mp hnames.of_append_right).1
    rw [List.flatMap_append, List.flatMap_cons, List.filterMap_append, List.filterMap_append,
      hsilent fun entry hentry heq => ?_, hsilent fun entry hentry heq => ?_, List.nil_append,
      List.append_nil, Option.map_some, Option.getD_some]
    · exact hafter (heq ▸ List.mem_map_of_mem hentry)
    · simpa [heq] using hbefore entry hentry

/-- The styles that a path gives for a parameter of one of its operations. -/
lemma filterMap_style?_fixesOfPath {path : Json} (hdistinct : path.HasDistinctNames) :
    (fixesOfPath (endpoint, path)).filterMap (Fix.style? endpoint key name) =
      (((((path.get? key).bind (·.get? "parameters")).bind asArray?).getD []).filter
        fun parameter => parameter.text "name" = name).filterMap statedStyle? := by
  rw [fixesOfPath, filterMap_flatMap_lookup hdistinct.nodup_members (fun entry hne => ?_),
    lookup_members]
  · cases path.get? key with
    | none => rfl
    | some operation => exact filterMap_style?_flatMap ⟨endpoint, key, _⟩
  · refine List.filterMap_eq_nil_iff.mpr fun fix hfix => Fix.style?_eq_none (.inr ?_)
    obtain ⟨parameter, -, hparameter⟩ := List.mem_flatMap.mp hfix
    rwa [operation_of_mem_fixesOfParameter hparameter]

/-- The styles that an older document gives for a parameter of an operation. -/
lemma filterMap_style?_fixesOf (hdistinct : older.HasDistinctNames) :
    (fixesOf older).filterMap (Fix.style? endpoint verb.key name) =
      (((parameters? older endpoint verb).getD []).filter
        fun parameter => parameter.text "name" = name).filterMap statedStyle? := by
  rw [fixesOf, parameters?]
  cases hpaths : older.get? "paths" with
  | none => rfl
  | some paths =>
    have hdistinct := hdistinct.get? hpaths
    rw [Option.bind_some, Option.bind_some, filterMap_flatMap_lookup
      hdistinct.nodup_members (fun entry hne => ?_), lookup_members]
    · cases hpath : paths.get? endpoint with
      | none => rfl
      | some path => exact filterMap_style?_fixesOfPath (hdistinct.get? hpath)
    · refine List.filterMap_eq_nil_iff.mpr fun fix hfix => Fix.style?_eq_none (.inl ?_)
      obtain ⟨entry', -, hentry⟩ := List.mem_flatMap.mp hfix
      obtain ⟨parameter, -, hparameter⟩ := List.mem_flatMap.mp hentry
      rwa [operation_of_mem_fixesOfParameter hparameter]

end Stated

/-! ## Parameters and their places -/

/-- The place of the parameters of an operation. -/
def parametersPlace (endpoint : String) (verb : Verb) : List Slot :=
  ["paths", endpoint, verb.key, "parameters"].map .member

/-- The place of one of the parameters of an operation. -/
def parameterPlace (endpoint : String) (verb : Verb) (index : Nat) : List Slot :=
  parametersPlace endpoint verb ++ [.item index]

section Place

variable {fix : Fix} {converted : Json} {parameters : List Json} {endpoint name : String}
  {verb : Verb} {index : Nat}

lemma parameters?_eq_some_iff : parameters? converted endpoint verb = some parameters ↔
    follow? (parametersPlace endpoint verb) converted = some (.array parameters) := by
  have hget (name : String) : (Slot.member name).get? = (·.get? name) := by
    funext json
    cases json <;> rfl
  have hitems (value : Json) :
      asArray? value = some parameters ↔ value = .array parameters := by
    cases value <;> simp [asArray?]
  have hfollow : parameters? converted endpoint verb =
      (follow? (parametersPlace endpoint verb) converted).bind asArray? := by
    simp only [parameters?, parametersPlace, List.map_cons, List.map_nil, follow?, hget,
      Option.bind_assoc, Option.bind_some]
  rw [hfollow, Option.bind_eq_some_iff]
  simp only [hitems, exists_eq_right]

/-- A place on the way to an untouched place is untouched. -/
lemma IsUntouched.of_isPrefix {place below : List Slot} (h : IsUntouched below)
    (hpre : place <+: below) : IsUntouched place :=
  fun fix converted found hfound hthrough =>
    h fix converted found hfound (hthrough.trans hpre)

/-- Nothing is written over a parameter of an operation, or over the way to it. -/
lemma isUntouched_parameterPlace : IsUntouched (parameterPlace endpoint verb index) := by
  intro fix converted found hfound hthrough
  have hverb : verb.key ≠ "required" := by cases verb <;> decide
  rcases Fix.exists_last hfound with ⟨hmember, hlast⟩ | ⟨hmember, position, hlast⟩ <;>
    rw [hmember] at hthrough <;>
    rcases found with _ | ⟨first, _ | ⟨second, _ | ⟨third, _ | ⟨fourth, _ | ⟨fifth, rest⟩⟩⟩⟩⟩ <;>
    simp_all [parameterPlace, parametersPlace]

/-- An operation is looked for at its own member just when that is declared for it. -/
lemma pieces_eq_key_iff {text : String} : Pointer.pieces text = [verb.key] ↔ text = verb.key :=
  Pointer.pieces_eq_singleton_iff (by cases verb <;> decide) (by cases verb <;> decide)

/-- What is written into a parameter of an operation: the styles for the name of which the
parameter is the first. -/
theorem Fix.place?_eq_parameter_iff
    (hparameters : parameters? converted endpoint verb = some parameters) :
    fix.place? converted = some (parameterPlace endpoint verb index) ↔
      ∃ name, parameters.findIdx? (isNamed name) = some index ∧
        (fix.style? endpoint verb.key name).isSome := by
  rw [parameters?_eq_some_iff] at hparameters
  cases fix with
  | bodyRequired operation required =>
    constructor
    · intro h
      rcases Fix.exists_last h with ⟨-, hlast⟩ | ⟨hmember, -⟩
      · rw [parameterPlace, List.getLast?_concat] at hlast
        exact absurd hlast nofun
      · exact absurd hmember (show "required" ≠ "style" by decide)
    · rintro ⟨name, -, hstyle⟩
      exact absurd hstyle Bool.false_ne_true
  | style operation name format recovered =>
    have hroute : (Fix.style operation name format recovered).route =
        (["paths", operation.endpoint] ++ Pointer.pieces operation.key ++ ["parameters"]).map
          .child ++ [.named name] := by
      rw [Fix.route, Fix.operation, steps?_operationPointer]
      simp [Fix.inOperation]
    rw [Fix.place?, hroute, parameterPlace, parametersPlace]
    constructor
    · intro h
      have hlength : (Pointer.pieces operation.key).length = 1 := by
        have hall := length_of_place? h
        simp at hall
        omega
      obtain ⟨piece, hpiece⟩ := List.length_eq_one_iff.mp hlength
      obtain ⟨hnames, inner, hinner, hbelow⟩ :=
        (place?_children_eq_members_iff (by simp [hlength])).mp h
      have hsame : operation.endpoint = endpoint ∧ piece = verb.key := by
        simpa [hpiece] using hnames
      have hkey : operation.key = verb.key := pieces_eq_key_iff.mp (hpiece.trans (by rw [hsame.2]))
      obtain rfl := Option.some.inj (hinner.symm.trans hparameters)
      exact ⟨name, place?_named_iff.mp hbelow, by simp [Fix.style?, hsame.1, hkey]⟩
    · rintro ⟨other, hindex, hstyle⟩
      obtain ⟨hendpoint, hkey, rfl⟩ : operation.endpoint = endpoint ∧ operation.key = verb.key ∧
          name = other := by
        simpa [Fix.style?, Option.isSome_ite] using hstyle
      rw [hendpoint, pieces_eq_key_iff.mpr hkey]
      exact (place?_children_eq_members_iff rfl).mpr
        ⟨rfl, .array parameters, hparameters, place?_named_iff.mpr hindex⟩

/-- The style of a parameter of an operation. -/
lemma follow?_style {parameter : Json}
    (hparameters : parameters? converted endpoint verb = some parameters)
    (hparameter : parameters[index]? = some parameter) :
    follow? (parameterPlace endpoint verb index ++ [Slot.member "style"]) converted =
      parameter.get? "style" := by
  rw [parameterPlace, List.append_assoc, follow?_append, parameters?_eq_some_iff.mp hparameters]
  have hitem : (Slot.item index).get? (.array parameters) = some parameter := hparameter
  have hmember : (Slot.member "style").get? parameter = parameter.get? "style" := by
    cases parameter <;> rfl
  simp [follow?, hitem, hmember]

/-- A parameter has one name. -/
lemma eq_of_findIdx? {other : String} (h : parameters.findIdx? (isNamed name) = some index)
    (h' : parameters.findIdx? (isNamed other) = some index) : name = other := by
  obtain ⟨hlt, hnamed, -⟩ := List.findIdx?_eq_some_iff_getElem.mp h
  obtain ⟨hlt', hnamed', -⟩ := List.findIdx?_eq_some_iff_getElem.mp h'
  simp only [isNamed, Bool.and_eq_true, decide_eq_true_eq] at hnamed hnamed'
  exact Option.some.inj (hnamed.2.symm.trans hnamed'.2)

end Place

/-! ## The styles that are recovered -/

section Recover

variable {older converted parameter : Json} {stated parameters : List Json}
  {endpoint name : String} {verb : Verb} {index : Nat}

/-- Nothing that an older document says can be written below the style of a parameter: the style
has nothing below it, or no operation is declared by a member with a slash in its name. -/
def StyleIsSafe (older parameter : Json) : Prop :=
  (∀ value, parameter.get? "style" = some value → value.isLeaf) ∨
    ∀ fix ∈ fixesOf older, '/' ∉ fix.operation.key.toList

/-- Whether a parameter of an older document means a parameter of a converted one, which has the
same name and the same location. -/
def isMeantBy (parameter stated : Json) : Bool :=
  (stated.getString? "name").any (isNamed · parameter) &&
    stated.getString? "in" = parameter.getString? "in"

/-- A name says which parameter of an operation is meant: one parameter bears it, and where a style
is stated for the name, that parameter is meant. -/
structure NameTells (name : String) (stated parameters : List Json) : Prop where
  unique {first second : Nat} {parameter other : Json} :
    parameters[first]? = some parameter → parameters[second]? = some other →
      isNamed name parameter → isNamed name other → first = second
  isMeantBy {parameter other : Json} : other ∈ stated → (statedStyle? other).isSome →
    other.text "name" = name → parameter ∈ parameters → isNamed name parameter →
      isMeantBy parameter other

/-- A parameter that is the only one of its name is the first one of its name. -/
lemma NameTells.findIdx?_eq (h : NameTells name stated parameters)
    (hparameter : parameters[index]? = some parameter) (hnamed : isNamed name parameter) :
    parameters.findIdx? (isNamed name) = some index := by
  obtain ⟨hlt, rfl⟩ := List.getElem?_eq_some_iff.mp hparameter
  refine List.findIdx?_eq_some_iff_getElem.mpr ⟨hlt, hnamed, fun before hbefore hother => ?_⟩
  have hfirst := List.getElem?_eq_getElem (Nat.lt_trans hbefore hlt)
  have hsame := h.unique hfirst hparameter hother hnamed
  omega

/-- The style that is stated last only depends on which of the parameters with a style are
meant. -/
lemma lastStyle?_congr {first second : Json → Bool}
    (h : ∀ other ∈ stated, (statedStyle? other).isSome → first other = second other) :
    lastStyle? first stated = lastStyle? second stated := by
  rw [lastStyle?, lastStyle?, List.filterMap_filter, List.filterMap_filter]
  congr 1
  refine List.filterMap_congr fun other hother => ?_
  cases hstyle : statedStyle? other with
  | none => simp
  | some style => rw [h other hother (by rw [hstyle]; rfl)]

/-- Where the name says which parameter is meant, the styles for the name are those for the
parameter. -/
lemma NameTells.lastStyle?_eq (h : NameTells name stated parameters)
    (hparameter : parameters[index]? = some parameter) (hnamed : isNamed name parameter) :
    lastStyle? (fun other => other.text "name" = name) stated =
      lastStyle? (Conversion.isMeantBy parameter) stated := by
  refine lastStyle?_congr fun other hother hstyle => Bool.eq_iff_iff.mpr ?_
  rw [decide_eq_true_eq]
  refine ⟨fun hname => h.isMeantBy hother hstyle hname (List.mem_of_getElem? hparameter) hnamed,
    fun hmeant => ?_⟩
  obtain ⟨found, hfound, hsame⟩ :=
    (Option.any_eq_true _ _).mp (Bool.and_eq_true_iff.mp hmeant).1
  simp only [isNamed, Bool.and_eq_true, decide_eq_true_eq] at hnamed hsame
  rw [Json.text, hfound, Option.getD_some]
  exact Option.some.inj (hsame.2.symm.trans hnamed.2)

/-- The first parameter with a name gets the style that is stated last for the name. -/
lemma follow?_recover_of_lastStyle? {style : Style} (hdistinct : older.HasDistinctNames)
    (hparameters : parameters? converted endpoint verb = some parameters)
    (hindex : parameters.findIdx? (isNamed name) = some index)
    (hlast : lastStyle? (fun other => other.text "name" = name)
      ((parameters? older endpoint verb).getD []) = some style) :
    follow? (parameterPlace endpoint verb index ++ [Slot.member "style"])
        (recover older converted).2 = some (.string style.name) := by
  rw [lastStyle?, ← filterMap_style?_fixesOf hdistinct, List.getLast?_eq_some_iff] at hlast
  obtain ⟨styles, hstyles⟩ := hlast
  obtain ⟨before, rest, hfixes, -, hrest⟩ := List.filterMap_eq_append_iff.mp hstyles
  obtain ⟨skipped, fix, after, rfl, -, hfix, hafter⟩ := List.filterMap_eq_cons_iff.mp hrest
  obtain ⟨hmember, hvalue⟩ := Fix.member_value_of_style? hfix
  rw [recover, applyAll_snd, hfixes, ← List.append_assoc, ← hmember, ← hvalue]
  refine follow?_run_append_cons isUntouched_parameterPlace ?_ fun other hother hplace => ?_
  · exact (Fix.place?_eq_parameter_iff hparameters).mpr ⟨name, hindex, by rw [hfix]; rfl⟩
  · obtain ⟨found, hfound, hsome⟩ := (Fix.place?_eq_parameter_iff hparameters).mp hplace
    rw [eq_of_findIdx? hfound hindex, List.filterMap_eq_nil_iff.mp hafter other hother] at hsome
    exact absurd hsome Bool.false_ne_true

/-- A parameter keeps its style if none is stated for its name, or if it is not the first one of
that name. -/
lemma follow?_recover_of_forall (hdistinct : older.HasDistinctNames)
    (hparameters : parameters? converted endpoint verb = some parameters)
    (hparameter : parameters[index]? = some parameter) (hsafe : StyleIsSafe older parameter)
    (hnone : ∀ name, parameters.findIdx? (isNamed name) = some index →
      lastStyle? (fun other => other.text "name" = name)
        ((parameters? older endpoint verb).getD []) = none) :
    follow? (parameterPlace endpoint verb index ++ [Slot.member "style"])
        (recover older converted).2 = parameter.get? "style" := by
  have hbefore := follow?_style hparameters hparameter
  rw [recover, applyAll_snd, ← hbefore]
  refine follow?_run_of_forall_ne isUntouched_parameterPlace (fun fix hfix hplace => ?_) ?_
  · obtain ⟨found, hfound, hsome⟩ := (Fix.place?_eq_parameter_iff hparameters).mp hplace
    have hlast := hnone found hfound
    rw [lastStyle?, ← filterMap_style?_fixesOf hdistinct, List.getLast?_eq_none_iff] at hlast
    rw [List.filterMap_eq_nil_iff.mp hlast fix hfix] at hsome
    exact absurd hsome Bool.false_ne_true
  · refine hsafe.imp (fun hleaf => by rwa [hbefore]) fun hslash fix hfix => ?_
    have hpieces := Pointer.length_pieces (hslash fix hfix)
    rw [Fix.route, steps?_operationPointer, Option.getD_some]
    cases fix <;> simp_all [Fix.inOperation, parameterPlace, parametersPlace]

/-- The styles of the parameters of an operation of the converted document. Of the parameters with
one name the first gets the style that is stated last for the name, whatever the location, and all
others keep their styles. So where the name says which parameter is meant, a parameter gets the
style that is stated last for a parameter with its name and location, and keeps its style if there
is none. -/
theorem recover_styles (hdistinct : older.HasDistinctNames)
    (hstated : (parameters? older endpoint verb).getD [] = stated)
    (hparameters : parameters? converted endpoint verb = some parameters) :
    ∃ recovered, parameters? (recover older converted).2 endpoint verb = some recovered ∧
      recovered.length = parameters.length ∧
      ∀ index parameter after, parameters[index]? = some parameter →
        recovered[index]? = some after →
        (∀ name style, parameters.findIdx? (isNamed name) = some index →
          lastStyle? (fun other => other.text "name" = name) stated = some style →
            after.get? "style" = some (.string style.name)) ∧
        ((∀ name, parameters.findIdx? (isNamed name) = some index →
          lastStyle? (fun other => other.text "name" = name) stated = none) →
            StyleIsSafe older parameter → after.get? "style" = parameter.get? "style") ∧
        ∀ name, isNamed name parameter → NameTells name stated parameters →
          (∀ style, lastStyle? (isMeantBy parameter) stated = some style →
            after.get? "style" = some (.string style.name)) ∧
          (lastStyle? (isMeantBy parameter) stated = none →
            StyleIsSafe older parameter → after.get? "style" = parameter.get? "style") := by
  subst hstated
  obtain ⟨recovered, hrecovered, hlength⟩ := exists_follow?_run_array
    (isUntouched_parameterPlace.of_isPrefix (List.prefix_append _ [Slot.item 0]))
    (parameters?_eq_some_iff.mp hparameters)
  rw [← applyAll_snd, ← recover, ← parameters?_eq_some_iff] at hrecovered
  refine ⟨recovered, hrecovered, hlength, fun index parameter after hparameter hafter => ?_⟩
  have hstyle := follow?_style hrecovered hafter
  have hgets (name : String) (style : Style)
      (hindex : parameters.findIdx? (isNamed name) = some index)
      (hlast : lastStyle? (fun other => other.text "name" = name)
        ((parameters? older endpoint verb).getD []) = some style) :
      after.get? "style" = some (.string style.name) :=
    hstyle.symm.trans (follow?_recover_of_lastStyle? hdistinct hparameters hindex hlast)
  have hkeeps (hnone : ∀ name, parameters.findIdx? (isNamed name) = some index →
        lastStyle? (fun other => other.text "name" = name)
          ((parameters? older endpoint verb).getD []) = none)
      (hsafe : StyleIsSafe older parameter) : after.get? "style" = parameter.get? "style" :=
    hstyle.symm.trans (follow?_recover_of_forall hdistinct hparameters hparameter hsafe hnone)
  refine ⟨hgets, hkeeps, fun name hnamed htells => ⟨fun style hlast => ?_, fun hnone => ?_⟩⟩
  · have hindex := htells.findIdx?_eq hparameter hnamed
    exact hgets name style hindex ((htells.lastStyle?_eq hparameter hnamed).trans hlast)
  · refine hkeeps fun other hindex => ?_
    obtain rfl := eq_of_findIdx? hindex (htells.findIdx?_eq hparameter hnamed)
    exact (htells.lastStyle?_eq hparameter hnamed).trans hnone

end Recover

/-! ### A sample -/

/-- An older document with two parameters of one name, which states a format of the second one. -/
def olderHeader : Json := twoNamedIds [] [("collectionFormat", .string "pipes")]

/-- A document with the second one of the two parameters only. -/
def headerIds : Json :=
  .object [("paths", .object [("/items", .object [("get", .object [
    ("parameters", .array [.object [("name", .string "ids"), ("in", .string "header")]])])])])]

lemma hasDistinctNames_olderHeader : olderHeader.HasDistinctNames := by
  simp [olderHeader, twoNamedIds]

/-- Nothing but the style of the header parameter is stated, the name tells which parameter of the
second document is meant, and the second one of the two parameters is not the first of its name. -/
lemma olderHeader_states :
    (lastStyle? (fun other => other.text "name" = "ids")
        ((parameters? olderHeader "/items" .get).getD []) = some .pipeDelimited ∧
      ∀ header ∈ (parameters? headerIds "/items" .get).getD [],
        lastStyle? (isMeantBy header) ((parameters? olderHeader "/items" .get).getD []) =
            some .pipeDelimited ∧
          ∀ other ∈ (parameters? olderHeader "/items" .get).getD [],
            (statedStyle? other).isSome → isMeantBy header other) ∧
      (((parameters? (twoNamedIds [] []) "/items" .get).getD []).findIdx? (isNamed "ids") =
        some 0) := by
  decide

/-- Of two parameters the query parameter gets the style that is stated for the header parameter,
which gets none. If there is only the header parameter, it gets the style. -/
theorem recover_styles_olderHeader :
    (∃ query header, parameters? (recover olderHeader (twoNamedIds [] [])).2 "/items" .get =
      some [query, header] ∧ query.get? "style" = some (.string "pipeDelimited") ∧
        header.get? "style" = none) ∧
    ∃ header, parameters? (recover olderHeader headerIds).2 "/items" .get = some [header] ∧
      header.get? "style" = some (.string "pipeDelimited") := by
  obtain ⟨⟨hlast, hheader⟩, hindex⟩ := olderHeader_states
  constructor
  · have hparameters : parameters? (twoNamedIds [] []) "/items" .get = some _ := rfl
    obtain ⟨recovered, hrecovered, hlength, hall⟩ :=
      recover_styles hasDistinctNames_olderHeader rfl hparameters
    obtain ⟨query, header, rfl⟩ := List.length_eq_two.mp hlength
    obtain ⟨hquery, -⟩ := hall 0 _ query rfl rfl
    obtain ⟨-, hkeeps, -⟩ := hall 1 _ header rfl rfl
    refine ⟨query, header, hrecovered, hquery "ids" .pipeDelimited hindex hlast, ?_⟩
    refine hkeeps (fun name hsecond => ?_) (.inl nofun)
    -- What names the second parameter names the first one as well.
    obtain ⟨hlt, hnamed, hfirst⟩ := List.findIdx?_eq_some_iff_getElem.mp hsecond
    exact absurd hnamed (hfirst 0 Nat.zero_lt_one)
  · have hparameters : parameters? headerIds "/items" .get = some [_] := rfl
    obtain ⟨recovered, hrecovered, hlength, hall⟩ :=
      recover_styles hasDistinctNames_olderHeader rfl hparameters
    obtain ⟨header, rfl⟩ := List.length_eq_one_iff.mp hlength
    obtain ⟨hstyle, hmeant⟩ := hheader _ List.mem_cons_self
    obtain ⟨-, -, htells⟩ := hall 0 _ header rfl rfl
    refine ⟨header, hrecovered, (htells "ids" (by decide) ⟨?_, ?_⟩).1 _ hstyle⟩
    · intro first second parameter other hfirst hsecond _ _
      obtain ⟨hfirst, -⟩ := List.getElem?_eq_some_iff.mp hfirst
      obtain ⟨hsecond, -⟩ := List.getElem?_eq_some_iff.mp hsecond
      exact (Nat.lt_one_iff.mp hfirst).trans (Nat.lt_one_iff.mp hsecond).symm
    · intro parameter other hother hsome _ hparameter _
      obtain rfl := List.mem_singleton.mp hparameter
      exact hmeant other hother hsome

end Conversion

end ClientGen
