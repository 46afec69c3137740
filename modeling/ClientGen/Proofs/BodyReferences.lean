import Mathlib.Data.List.Nodup
import Mathlib.Tactic.Choose
import ClientGen.Model.Resolution

/-!
# References to request bodies

A reference to a request body leads on if the schema of the body refers to something in turn. A
document has finitely many values, so the references that follow each other end or come back to one
of themselves, and which of both it is shows within as many steps as the document has values. A type
is looked up for just as many steps. So what is looked up is what the program finds, which has no
limit, and where the limit is reached the program does not come to an end.

## Main definitions

* `ClientGen.Document.next?`, `ClientGen.Document.after` — the reference that one leads on to, and
  the one that it leads to in a number of steps.
* `ClientGen.Document.GoesRound`, `ClientGen.Model.GoesRound` — that references come back to one of
  themselves.
* `ClientGen.Document.ReferencesEnd` — that no references of a document do.

## Main results

* `ClientGen.Document.after_eq_none_or_goesRound` — references end within the limit or go round.
* `ClientGen.Document.referencesEnd_iff` — it can be told whether the references of a document end.
* `ClientGen.Model.resolveReference_eq` — what the type of a reference is, without a limit.
* `ClientGen.Model.isEndless_resolveReference_iff`, `ClientGen.Model.isEndless_resolve_iff` — the
  limit is reached just if references go round.
-/

set_option autoImplicit false

namespace ClientGen

/-! ## Values in a value -/

namespace Json

mutual

/-- A value and all values in it. -/
def parts : Json → List Json
  | .array items => .array items :: partsOfItems items
  | .object members => .object members :: partsOfMembers members
  | value => [value]

/-- The items of an array and all values in them. -/
def partsOfItems : List Json → List Json
  | [] => []
  | item :: rest => parts item ++ partsOfItems rest

/-- The values of members and all values in them. -/
def partsOfMembers : List (String × Json) → List Json
  | [] => []
  | (_, value) :: rest => parts value ++ partsOfMembers rest

end

mutual

/-- A value has as many values in it as its size says. -/
lemma length_parts : ∀ value : Json, value.parts.length = value.size
  | .array items => by rw [parts, size, List.length_cons, length_partsOfItems items]
  | .object members => by rw [parts, size, List.length_cons, length_partsOfMembers members]
  | .null | .bool _ | .number _ | .string _ => rfl

lemma length_partsOfItems : ∀ items : List Json, (partsOfItems items).length = sizeItems items
  | [] => rfl
  | item :: rest => by
    rw [partsOfItems, sizeItems, List.length_append, length_parts item, length_partsOfItems rest]

lemma length_partsOfMembers :
    ∀ members : List (String × Json), (partsOfMembers members).length = sizeMembers members
  | [] => rfl
  | (_, value) :: rest => by
    rw [partsOfMembers, sizeMembers, List.length_append, length_parts value,
      length_partsOfMembers rest]

end

variable {value found last : Json}

/-- A value is one of its own. -/
lemma mem_parts_self (value : Json) : value ∈ value.parts := by
  cases value <;> simp [parts]

lemma parts_subset_partsOfItems {items : List Json} (h : value ∈ items) :
    value.parts ⊆ partsOfItems items := by
  induction items with
  | nil => exact absurd h List.not_mem_nil
  | cons item rest ih =>
    rw [partsOfItems]
    rcases List.mem_cons.mp h with rfl | hrest
    · exact List.subset_append_left _ _
    · exact List.subset_append_of_subset_right _ (ih hrest)

lemma parts_subset_partsOfMembers {name : String} {members : List (String × Json)}
    (h : members.lookup name = some value) : value.parts ⊆ partsOfMembers members := by
  induction members with
  | nil => exact absurd h nofun
  | cons member rest ih =>
    obtain ⟨key, own⟩ := member
    rw [partsOfMembers]
    rw [List.lookup_cons] at h
    split at h
    · obtain rfl := Option.some.inj h
      exact List.subset_append_left _ _
    · exact List.subset_append_of_subset_right _ (ih h)

/-- The values in a part of a value are values in it. -/
lemma parts_subset_of_child? {step : String} (h : value.child? step = some found) :
    found.parts ⊆ value.parts := by
  cases value with
  | object members =>
    rw [parts]
    exact List.subset_cons_of_subset _ (parts_subset_partsOfMembers h)
  | array items =>
    obtain ⟨index, -, hitem⟩ := Option.bind_eq_some_iff.mp h
    rw [parts]
    exact List.subset_cons_of_subset _ (parts_subset_partsOfItems (List.mem_of_getElem? hitem))
  | null | bool _ | number _ | string _ => exact absurd h nofun

lemma parts_subset_of_at? {steps : List String} (h : value.at? steps = some found) :
    found.parts ⊆ value.parts := by
  induction steps generalizing value with
  | nil =>
    obtain rfl := Option.some.inj h
    exact List.Subset.refl _
  | cons step rest ih =>
    rw [at?] at h
    obtain ⟨child, hchild, hrest⟩ := Option.bind_eq_some_iff.mp h
    exact List.Subset.trans (ih hrest) (parts_subset_of_child? hchild)

/-- What a pointer names is among the values in a value. -/
lemma parts_subset_of_pointer? {pointer : String} (h : value.pointer? pointer = some found) :
    found.parts ⊆ value.parts := by
  obtain ⟨steps, -, hsteps⟩ := Option.bind_eq_some_iff.mp h
  exact parts_subset_of_at? hsteps

end Json

/-- The schema of a request body is among the values of a document. -/
lemma Model.mem_parts_of_bodySchema? {document : Document} {reference : String} {schema : Json}
    (h : bodySchema? document reference = some schema) : schema ∈ document.root.parts := by
  obtain ⟨body, hbody, hschema⟩ := Option.bind_eq_some_iff.mp h
  exact Json.parts_subset_of_pointer? hbody
    (Json.parts_subset_of_pointer? hschema schema.mem_parts_self)

/-! ## Chains -/

/-- The reference that a schema of the given form leads on to. References that are known lead to
their types, and no further. -/
def Schema.reference? (isKnown : String → Bool) : Schema → Option String
  | .name reference => some reference
  | .link reference => if isKnown reference then none else some reference
  | .list items => items.reference? isKnown
  | .map values => values.reference? isKnown
  | .scalar _ _ _ => none

/-- The reference that the schema of a request body leads on to. -/
def Json.reference? (isKnown : String → Bool) (schema : Json) : Option String :=
  match schema.getString? "$ref" with
  | some inner => some inner
  | none => (Schema.ofJson schema).reference? isKnown

namespace Document

/-- The reference that a reference to a request body leads on to. -/
def next? (document : Document) (isKnown : String → Bool) (reference : String) : Option String :=
  if Model.isBodyReference reference then
    (Model.bodySchema? document reference).bind (Json.reference? isKnown)
  else none

/-- The reference that a reference leads to in a number of steps. -/
def after (document : Document) (isKnown : String → Bool) : Nat → String → Option String
  | 0, reference => some reference
  | steps + 1, reference => (document.next? isKnown reference).bind (document.after isKnown steps)

/-- A reference leads to one that leads back to itself. -/
def GoesRound (document : Document) (isKnown : String → Bool) (reference : String) : Prop :=
  ∃ steps round circle, document.after isKnown steps reference = some circle ∧
    document.after isKnown (round + 1) circle = some circle

variable {document : Document} {isKnown : String → Bool} {steps more round fuel : Nat}
  {reference next circle : String}

lemma after_add (steps more : Nat) (reference : String) :
    document.after isKnown (steps + more) reference =
      (document.after isKnown steps reference).bind (document.after isKnown more) := by
  induction steps generalizing reference with
  | zero => rw [Nat.zero_add, after, Option.bind_some]
  | succ steps ih =>
    rw [Nat.add_right_comm, after, after, Option.bind_assoc]
    exact congrArg _ (funext ih)

/-- References that lead somewhere lead on to it. -/
lemma after_ne_none_of_le (hle : steps ≤ more)
    (h : document.after isKnown more reference ≠ none) :
    document.after isKnown steps reference ≠ none := by
  intro hnone
  rw [← Nat.add_sub_cancel' hle, after_add, hnone] at h
  exact h rfl

/-- References that go round do not end. -/
lemma GoesRound.after_ne_none (h : document.GoesRound isKnown reference) (count : Nat) :
    document.after isKnown count reference ≠ none := by
  obtain ⟨steps, round, circle, hleads, hround⟩ := h
  have hrounds : ∀ rounds : Nat,
      document.after isKnown (rounds * (round + 1)) circle = some circle := by
    intro rounds
    induction rounds with
    | zero => rw [Nat.zero_mul, after]
    | succ rounds ih => rw [Nat.succ_mul, after_add, ih, Option.bind_some, hround]
  have hle : count ≤ steps + count * (round + 1) :=
    Nat.le_trans (Nat.le_mul_of_pos_right count round.succ_pos) (Nat.le_add_left _ _)
  refine after_ne_none_of_le hle ?_
  rw [after_add, hleads, Option.bind_some, hrounds]
  exact Option.some_ne_none circle

/-- What leads on is a reference to a body, whose schema tells where. -/
lemma exists_of_next?_eq_some (h : document.next? isKnown reference = some next) :
    Model.isBodyReference reference = true ∧ ∃ schema,
      Model.bodySchema? document reference = some schema ∧
        schema.reference? isKnown = some next := by
  rw [next?] at h
  split at h
  next hbody => exact ⟨hbody, Option.bind_eq_some_iff.mp h⟩
  next => exact absurd h nofun

/-- References end or go round, and end within as many steps as the document has values, if they do.

**Proof sketch.** As long as they do not end, each of them is one to a body whose schema tells the
next one. If there are more of them than values, two of them have the same schema, so that they lead
on to one and the same reference, which comes back to itself. -/
theorem after_eq_none_or_goesRound (document : Document) (isKnown : String → Bool)
    (reference : String) : document.after isKnown (document.root.size + 1) reference = none ∨
      document.GoesRound isKnown reference := by
  by_contra hnot
  obtain ⟨hends, hround⟩ := not_or.mp hnot
  -- the schema that tells where each of the references leads on to
  have hschema : ∀ steps ≤ document.root.size, ∃ schema next, schema ∈ document.root.parts ∧
      schema.reference? isKnown = some next ∧
        document.after isKnown (steps + 1) reference = some next := by
    intro steps hle
    obtain ⟨next, hnext⟩ : ∃ next, document.after isKnown (steps + 1) reference = some next :=
      Option.ne_none_iff_exists'.mp (after_ne_none_of_le (Nat.succ_le_succ hle) hends)
    have hlast := hnext
    rw [after_add] at hlast
    obtain ⟨own, -, hown⟩ := Option.bind_eq_some_iff.mp hlast
    rw [after, Option.bind_eq_some_iff] at hown
    obtain ⟨found, hfound, hsame⟩ := hown
    obtain rfl : found = next := Option.some.inj hsame
    obtain ⟨-, schema, hbody, hreference⟩ := exists_of_next?_eq_some hfound
    exact ⟨schema, found, Model.mem_parts_of_bodySchema? hbody, hreference, hnext⟩
  choose! schema next hspec using hschema
  have hnodup : ((List.range (document.root.size + 1)).map schema).Nodup := by
    refine List.Nodup.map_on (fun first hfirst second hsecond hsame => ?_) List.nodup_range
    by_contra hne
    -- of two steps the earlier one leads to a reference that comes back to itself
    have hcircle : ∀ first ≤ document.root.size, ∀ second ≤ document.root.size, first < second →
        schema first ≠ schema second := by
      intro first hfirst second hsecond hlt hsame
      obtain ⟨-, hreference, hafter⟩ := hspec first hfirst
      obtain ⟨-, hreference', hafter'⟩ := hspec second hsecond
      rw [hsame, hreference', Option.some_inj] at hreference
      refine hround ⟨first + 1, second - first - 1, next first, hafter, ?_⟩
      rw [show second + 1 = first + 1 + (second - first - 1 + 1) by omega, after_add, hafter,
        Option.bind_some, hreference] at hafter'
      exact hafter'
    have hfirst := Nat.le_of_lt_succ (List.mem_range.mp hfirst)
    have hsecond := Nat.le_of_lt_succ (List.mem_range.mp hsecond)
    rcases Nat.lt_or_gt_of_ne hne with hlt | hlt
    · exact hcircle first hfirst second hsecond hlt hsame
    · exact hcircle second hsecond first hfirst hlt hsame.symm
  have hsubset : (List.range (document.root.size + 1)).map schema ⊆ document.root.parts := by
    intro value hvalue
    obtain ⟨steps, hsteps, rfl⟩ := List.mem_map.mp hvalue
    exact (hspec steps (Nat.le_of_lt_succ (List.mem_range.mp hsteps))).1
  have hle := hnodup.length_le_of_subset hsubset
  rw [List.length_map, List.length_range, Json.length_parts] at hle
  omega

/-- References go round if they do not end within the limit. -/
lemma goesRound_iff : document.GoesRound isKnown reference ↔
    document.after isKnown (document.root.size + 1) reference ≠ none :=
  ⟨fun h => h.after_ne_none _, (after_eq_none_or_goesRound document isKnown reference).resolve_left⟩

/-- Whether a reference is that of a declared schema. -/
def declaresReference (document : Document) (reference : String) : Bool :=
  (document.schemas?.getD []).any fun entry => document.schemaReferenceStem ++ entry.1 = reference

/-- No references of the document go round. -/
def ReferencesEnd (document : Document) : Prop :=
  ∀ reference, ¬document.GoesRound document.declaresReference reference

/-- It is enough to follow the references that the values of a document lead on to: one that comes
back to itself is among them. -/
lemma referencesEnd_iff : document.ReferencesEnd ↔ ∀ schema ∈ document.root.parts,
    ∀ inner ∈ schema.reference? document.declaresReference,
      document.after document.declaresReference (document.root.size + 1) inner = none := by
  constructor
  · intro hends schema _ inner _
    exact not_not.mp fun hne => hends inner (goesRound_iff.mpr hne)
  · rintro hends reference ⟨-, round, circle, -, hround⟩
    have hself : document.GoesRound document.declaresReference circle :=
      ⟨0, round, circle, rfl, hround⟩
    rw [after_add] at hround
    obtain ⟨last, -, hlast⟩ := Option.bind_eq_some_iff.mp hround
    obtain ⟨next, hnext, hsame⟩ := Option.bind_eq_some_iff.mp hlast
    obtain rfl : next = circle := Option.some.inj hsame
    obtain ⟨-, schema, hschema, hreference⟩ := exists_of_next?_eq_some hnext
    exact hself.after_ne_none _
      (hends schema (Model.mem_parts_of_bodySchema? hschema) next hreference)

/-- Whether the references of a document end can be told. -/
instance (document : Document) : Decidable document.ReferencesEnd :=
  decidable_of_iff' _ referencesEnd_iff

/-- The error that a chain of references breaks off does not stand for references that go round:
what it names is the text of an object. -/
lemma isEndless_of_deref?_eq_none {value : Json} (h : document.deref? value = none) :
    (SpecError.unknownReference value.render).isEndless document = false := by
  have hlink : value.getString? "$ref" ≠ none := by
    intro hnone
    rw [deref?, derefLimit, derefWithin, hnone] at h
    exact absurd h nofun
  cases value with
  | object members =>
    have hnowhere : Model.bodySchema? document (Json.object members).render = none := by
      rw [Json.render]
      simp [Model.bodySchema?, resolve?, pointerOf, Json.pointer?, Json.Pointer.steps?]
    rw [SpecError.isEndless, hnowhere, Option.isSome_none, Bool.and_false]
  | null | bool _ | number _ | string _ | array _ => exact absurd rfl hlink

end Document

/-! ## Looking up types -/

namespace Model

variable {model : Model} {follow follow' : String → Model → Resolved} {schema : Schema}
  {style : Option Style} {reference : String} {fuel fuel' steps : Nat} {error : SpecError}

/-- References go round when a type is looked up in a model. -/
def GoesRound (model : Model) (reference : String) : Prop :=
  model.document.GoesRound model.refs.contains reference

/-- The reference that a schema leads on to is all that is followed for its type. -/
lemma resolveForm_congr
    (h : ∀ inner, schema.reference? model.refs.contains = some inner →
      follow inner model = follow' inner model) :
    resolveForm follow schema style model = resolveForm follow' schema style model := by
  induction schema generalizing style with
  | name reference => exact h reference rfl
  | link reference =>
    rw [resolveForm, resolveForm]
    cases href : model.refs[reference]? with
    | some id => rfl
    | none =>
      refine h reference (if_neg ?_)
      rw [Std.TreeMap.contains_eq_isSome_getElem?, href]
      exact Bool.false_ne_true
  | list items ih => exact congrArg _ (ih h)
  | map values ih => exact congrArg _ (ih h)
  | scalar type format fragment => rfl

/-- An error in following the reference is passed on. -/
lemma resolveForm_of_error {inner : String}
    (hinner : schema.reference? model.refs.contains = some inner)
    (hfollow : follow inner model = (.error error, model)) :
    resolveForm follow schema style model = (.error error, model) := by
  induction schema generalizing style with
  | name reference =>
    obtain rfl := Option.some.inj hinner
    exact hfollow
  | link reference =>
    obtain ⟨hknown, hsame⟩ := Option.ite_none_left_eq_some.mp hinner
    obtain rfl := Option.some.inj hsame
    rw [resolveForm]
    cases href : model.refs[reference]? with
    | some id =>
      rw [Std.TreeMap.contains_eq_isSome_getElem?, href] at hknown
      exact absurd rfl hknown
    | none => exact hfollow
  | list items ih => rw [resolveForm, ih hinner, wrapResolved]
  | map values ih => rw [resolveForm, ih hinner, wrapResolved]
  | scalar type format fragment => exact absurd hinner nofun

/-- A schema that is neither a reference nor a container has a type, or an error says that it has
none. -/
lemma error_of_resolveScalar {type format : Option String} {fragment : Json}
    (h : (resolveScalar type format fragment model).1 = .error error) :
    error = .unresolvable fragment := by
  unfold resolveScalar at h
  dsimp only at h
  split at h
  · exact absurd h nofun
  · exact absurd h nofun
  · exact absurd h nofun
  · split at h
    · exact absurd h nofun
    · exact (Except.error.inj h).symm

/-- Any other error says that a schema has no type. -/
lemma error_of_resolveForm (h : (resolveForm follow schema style model).1 = .error error) :
    (∃ inner, schema.reference? model.refs.contains = some inner ∧
      (follow inner model).1 = .error error) ∨ ∃ fragment, error = .unresolvable fragment := by
  have hwrap {wrapper : Wrapper} {result : Resolved}
      (h : (wrapResolved wrapper result).1 = .error error) : result.1 = .error error := by
    obtain ⟨own | element, mid⟩ := result
    · exact h
    · exact absurd h nofun
  induction schema generalizing style with
  | name reference => exact .inl ⟨reference, rfl, h⟩
  | link reference =>
    rw [resolveForm] at h
    cases href : model.refs[reference]? with
    | some id =>
      rw [href] at h
      exact absurd h nofun
    | none =>
      rw [href] at h
      refine .inl ⟨reference, if_neg ?_, h⟩
      rw [Std.TreeMap.contains_eq_isSome_getElem?, href]
      exact Bool.false_ne_true
  | list items ih => exact ih (hwrap h)
  | map values ih => exact ih (hwrap h)
  | scalar type format fragment => exact .inr ⟨fragment, error_of_resolveScalar h⟩

/-! ### References -/

/-- The reference that a reference leads on to is all that is followed for its type. -/
lemma resolveReferenceWithin_congr
    (h : ∀ inner, model.document.next? model.refs.contains reference = some inner →
      resolveReferenceWithin fuel inner model = resolveReferenceWithin fuel' inner model) :
    resolveReferenceWithin (fuel + 1) reference model =
      resolveReferenceWithin (fuel' + 1) reference model := by
  rw [resolveReferenceWithin, resolveReferenceWithin]
  rw [Document.next?] at h
  split
  next hbody =>
    rw [if_pos hbody] at h
    cases hschema : bodySchema? model.document reference with
    | none => rfl
    | some schema =>
      rw [hschema, Option.bind_some, Json.reference?] at h
      dsimp only
      cases hlink : schema.getString? "$ref" with
      | some link =>
        rw [hlink] at h
        exact h link rfl
      | none =>
        rw [hlink] at h
        exact resolveForm_congr h
  next => rfl

/-- An error in following the reference is passed on. -/
lemma resolveReferenceWithin_of_error {inner : String}
    (hinner : model.document.next? model.refs.contains reference = some inner)
    (hfollow : resolveReferenceWithin fuel inner model = (.error error, model)) :
    resolveReferenceWithin (fuel + 1) reference model = (.error error, model) := by
  obtain ⟨hbody, schema, hschema, hreference⟩ := Document.exists_of_next?_eq_some hinner
  rw [resolveReferenceWithin, if_pos hbody, hschema]
  rw [Json.reference?] at hreference
  dsimp only
  cases hlink : schema.getString? "$ref" with
  | some link =>
    rw [hlink] at hreference
    obtain rfl := Option.some.inj hreference
    exact hfollow
  | none =>
    rw [hlink] at hreference
    exact resolveForm_of_error hreference hfollow

/-- Any other error names what is missing. -/
lemma error_of_resolveReferenceWithin
    (h : (resolveReferenceWithin (fuel + 1) reference model).1 = .error error) :
    (∃ inner, model.document.next? model.refs.contains reference = some inner ∧
      (resolveReferenceWithin fuel inner model).1 = .error error) ∨
        error.isEndless model.document = false := by
  rw [resolveReferenceWithin] at h
  rw [Document.next?]
  split at h
  next hbody =>
    rw [if_pos hbody]
    cases hschema : bodySchema? model.document reference with
    | none =>
      rw [hschema] at h
      obtain rfl := Except.error.inj h
      exact .inr (by rw [SpecError.isEndless, hschema, Option.isSome_none, Bool.and_false])
    | some schema =>
      rw [hschema] at h
      rw [Option.bind_some, Json.reference?]
      dsimp only at h
      cases hlink : schema.getString? "$ref" with
      | some link =>
        rw [hlink] at h
        exact .inl ⟨link, rfl, h⟩
      | none =>
        rw [hlink] at h
        exact (error_of_resolveForm h).imp_right fun ⟨_, herror⟩ => herror ▸ rfl
  next hbody =>
    refine .inr ?_
    split at h
    next => exact absurd h nofun
    next =>
      obtain rfl := Except.error.inj h
      rw [SpecError.isEndless, Bool.eq_false_iff.mpr hbody, Bool.false_and]

/-- It does not matter how many references may be followed, if they end before. -/
theorem resolveReferenceWithin_eq_of_after_eq_none
    (h : model.document.after model.refs.contains steps reference = none) (hle : steps ≤ fuel)
    (hle' : steps ≤ fuel') :
    resolveReferenceWithin fuel reference model = resolveReferenceWithin fuel' reference model := by
  induction steps generalizing reference fuel fuel' with
  | zero => exact absurd h nofun
  | succ steps ih =>
    obtain ⟨fuel, rfl⟩ := Nat.exists_eq_add_of_le' (Nat.le_trans (Nat.le_add_left 1 steps) hle)
    obtain ⟨fuel', rfl⟩ := Nat.exists_eq_add_of_le' (Nat.le_trans (Nat.le_add_left 1 steps) hle')
    refine resolveReferenceWithin_congr fun inner hinner => ih ?_ (by omega) (by omega)
    rwa [Document.after, hinner, Option.bind_some] at h

/-- If references end before, an error names what is missing. -/
theorem isEndless_eq_false_of_after_eq_none
    (h : model.document.after model.refs.contains steps reference = none) (hle : steps ≤ fuel)
    (herror : (resolveReferenceWithin fuel reference model).1 = .error error) :
    error.isEndless model.document = false := by
  induction steps generalizing reference fuel with
  | zero => exact absurd h nofun
  | succ steps ih =>
    obtain ⟨fuel, rfl⟩ := Nat.exists_eq_add_of_le' (Nat.le_trans (Nat.le_add_left 1 steps) hle)
    rcases error_of_resolveReferenceWithin herror with ⟨inner, hinner, herror⟩ | hnot
    · refine ih ?_ (by omega) herror
      rwa [Document.after, hinner, Option.bind_some] at h
    · exact hnot

/-- If they lead on for as long as they may be followed, the error names the next one. -/
theorem resolveReferenceWithin_eq_of_after_eq_some {last : String}
    (h : model.document.after model.refs.contains fuel reference = some last) :
    resolveReferenceWithin fuel reference model = (.error (.unknownReference last), model) := by
  induction fuel generalizing reference with
  | zero =>
    obtain rfl := Option.some.inj h
    rfl
  | succ fuel ih =>
    obtain ⟨inner, hinner, hlast⟩ := Option.bind_eq_some_iff.mp h
    exact resolveReferenceWithin_of_error hinner (ih hlast)

/-- References that do not go round end within the limit. -/
lemma after_jumpLimit_of_not_goesRound (h : ¬model.GoesRound reference) :
    model.document.after model.refs.contains (model.document.root.size + 1) reference = none :=
  not_not.mp fun hne => h (Document.goesRound_iff.mpr hne)

/-- The type of a reference as the program finds it, which follows references as far as they lead:
one to a request body stands for the JSON schema of the body, and any other for the type whose name
it ends with. So it is if the references do not go round. -/
theorem resolveReference_eq (h : ¬model.GoesRound reference) :
    resolveReference reference model =
      if isBodyReference reference then
        match bodySchema? model.document reference with
        | none => (.error (.unknownReference reference), model)
        | some schema =>
          match schema.getString? "$ref" with
          | some inner => resolveReference inner model
          | none => model.resolve schema none
      else
        match model.names[referenceName reference]? with
        | some id => (.ok id, model)
        | none => (.error (.unknownReference reference), model) := by
  have hends := after_jumpLimit_of_not_goesRound h
  have hone : resolveReference reference model =
      resolveReferenceWithin (jumpLimit model.document + 1) reference model :=
    resolveReferenceWithin_eq_of_after_eq_none hends (Nat.le_succ _)
      (Nat.le_succ_of_le (Nat.le_succ _))
  have hform (schema : Json) : resolveForm (resolveReferenceWithin (jumpLimit model.document))
      (Schema.ofJson schema) none model = model.resolve schema none :=
    resolveForm_congr fun _ _ => rfl
  rw [hone, resolveReferenceWithin]
  simp only [hform]
  rfl

/-- A reference is followed up to the limit if and only if it leads to references that go round. The
program does not come to an end then.

**Proof sketch.** References that end do so within the limit, where an error names what is missing.
The others lead on beyond it, and so the body is there that the error names. -/
theorem isEndless_resolveReference_iff (reference : String) (model : Model) :
    (∃ error, (resolveReference reference model).1 = .error error ∧
      error.isEndless model.document = true) ↔ model.GoesRound reference := by
  constructor
  · rintro ⟨error, herror, hendless⟩
    by_contra hnot
    rw [isEndless_eq_false_of_after_eq_none (after_jumpLimit_of_not_goesRound hnot) (Nat.le_succ _)
      herror] at hendless
    exact Bool.false_ne_true hendless
  · intro hround
    obtain ⟨last, hlast⟩ := Option.ne_none_iff_exists'.mp
      (hround.after_ne_none (jumpLimit model.document))
    obtain ⟨beyond, hbeyond⟩ := Option.ne_none_iff_exists'.mp
      (hround.after_ne_none (jumpLimit model.document + 1))
    rw [Document.after_add, hlast, Option.bind_some, Document.after] at hbeyond
    obtain ⟨inner, hinner, -⟩ := Option.bind_eq_some_iff.mp hbeyond
    obtain ⟨hbody, schema, hschema, -⟩ := Document.exists_of_next?_eq_some hinner
    refine ⟨_, congrArg Prod.fst (resolveReferenceWithin_eq_of_after_eq_some hlast), ?_⟩
    rw [SpecError.isEndless, hbody, hschema]
    rfl

/-- The type of a schema is looked up for ever just if the schema leads on to references that go
round. -/
theorem isEndless_resolve_iff (schema : Json) (style : Option Style) (model : Model) :
    (∃ error, (model.resolve schema style).1 = .error error ∧
      error.isEndless model.document = true) ↔
        ∃ reference, (Schema.ofJson schema).reference? model.refs.contains = some reference ∧
          model.GoesRound reference := by
  constructor
  · rintro ⟨error, herror, hendless⟩
    rcases error_of_resolveForm herror with ⟨inner, hinner, hfollow⟩ | ⟨fragment, rfl⟩
    · exact ⟨inner, hinner, (isEndless_resolveReference_iff inner model).mp
        ⟨error, hfollow, hendless⟩⟩
    · exact absurd hendless Bool.false_ne_true
  · rintro ⟨reference, hreference, hround⟩
    obtain ⟨last, hlast⟩ := Option.ne_none_iff_exists'.mp
      (hround.after_ne_none (jumpLimit model.document))
    have hfollow : resolveReference reference model = (.error (.unknownReference last), model) :=
      resolveReferenceWithin_eq_of_after_eq_some hlast
    obtain ⟨error, herror, hendless⟩ := (isEndless_resolveReference_iff reference model).mpr hround
    rw [hfollow] at herror
    obtain rfl := Except.error.inj herror
    exact ⟨_, congrArg Prod.fst (resolveForm_of_error hreference hfollow), hendless⟩

end Model

end ClientGen
