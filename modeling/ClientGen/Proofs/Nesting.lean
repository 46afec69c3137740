import ClientGen.Proofs.Interning

/-!
# Containers inside containers

A schema may nest lists and maps in each other to any depth, around a leaf. It is resolved from
inside: the leaf first, in the model as it is, and then one container for each level. So the levels
come back when the containers are taken off one by one, and the type of the leaf after them.

The style of a parameter counts for the outermost level alone, and only where that is a list.

## Main definitions

* `ClientGen.Schema.Nests` — that a schema is built around a leaf by levels.
* `ClientGen.Model.shapeAt` — the shape of the container that a level at a depth stands for.

## Main results

* `ClientGen.Schema.Nests.resolve_eq` — resolving such a schema puts the containers of its levels
  around what the leaf is resolved to.
* `ClientGen.Model.Reachable.resolve_nested` — it is resolved just if the leaf is, to a type from
  which the levels and the type of the leaf come back.
* `ClientGen.Model.resolve_nested_truth` — a map of anything that is no object has no level.

## Implementation notes

A level may have a `$ref` member as long as that is no text, since only a text refers to another
schema. What is right inside the level of a map has to be an object, or a map of other values is
what the schema stands for. The only place where that is a condition is the leaf, since all levels
are objects.
-/

set_option autoImplicit false

namespace ClientGen

variable {leaf schema : Json} {levels : List Wrapper} {members : List (String × Json)}
  {name : String} {value items values : Json}

namespace Schema

/-! ## Levels -/

/-- The schema is built around the leaf by levels, given from outside: lists of what is inside, and
objects whose members are what is inside. No level refers to another schema. -/
inductive Nests (leaf : Json) : List Wrapper → Json → Prop
  /-- There are no levels. -/
  | leaf : Nests leaf [] leaf
  /-- The outermost level is a list. -/
  | list {levels : List Wrapper} {members : List (String × Json)} {items : Json} :
      stringMember? "$ref" members = none → stringMember? "type" members = some "array" →
        members.lookup "items" = some items → Nests leaf levels items →
          Nests leaf (.list :: levels) (.object members)
  /-- The outermost level is a map. -/
  | map {levels : List Wrapper} {members : List (String × Json)} {values : Json} :
      stringMember? "$ref" members = none → stringMember? "type" members = some "object" →
        members.lookup "additionalProperties" = some values → Nests leaf levels values →
          Nests leaf (.map :: levels) (.object members)

/-- The form of a member is that of the first member with the name, if only objects count where it
is one. -/
lemma ofMember?_eq_some {objectOnly : Bool} (hl : members.lookup name = some value)
    (hobject : objectOnly = true → value.asObject?.isSome = true) :
    ofMember? name objectOnly members = some (ofJson value) := by
  induction members with
  | nil => exact absurd hl (by simp)
  | cons member rest ih =>
    obtain ⟨key, first⟩ := member
    rw [ofMember?]
    by_cases hkey : key = name
    · subst hkey
      obtain rfl : first = value := by simpa using hl
      rw [if_pos rfl, if_neg]
      cases objectOnly with
      | false => simp
      | true => simpa [Option.isNone_iff_eq_none, Option.isSome_iff_ne_none] using hobject rfl
    · rw [if_neg hkey]
      refine ih ?_
      rwa [List.lookup_cons, beq_false_of_ne (Ne.symm hkey)] at hl

/-- The form of a level that is a list. -/
lemma ofJson_list (href : stringMember? "$ref" members = none)
    (htype : stringMember? "type" members = some "array")
    (hitems : members.lookup "items" = some items) :
    ofJson (.object members) = .list (ofJson items) := by
  rw [ofJson, href]
  dsimp only
  rw [if_pos htype, ofMember?_eq_some hitems Bool.noConfusion]
  rfl

/-- The form of a level that is a map of objects. -/
lemma ofJson_map (href : stringMember? "$ref" members = none)
    (htype : stringMember? "type" members = some "object")
    (hvalues : members.lookup "additionalProperties" = some values)
    (hobject : values.asObject?.isSome = true) :
    ofJson (.object members) = .map (ofJson values) := by
  rw [ofJson, href]
  dsimp only
  rw [htype, if_neg (by simp), if_pos rfl, ofMember?_eq_some hvalues fun _ => hobject]
  rfl

namespace Nests

/-- Each level is a list or a map. -/
lemma level_cases (h : Nests leaf levels schema) {level : Wrapper} (hl : level ∈ levels) :
    level = .list ∨ level = .map := by
  induction h with
  | leaf => exact absurd hl List.not_mem_nil
  | list _ _ _ _ ih =>
    rcases List.mem_cons.mp hl with rfl | hrest
    · exact .inl rfl
    · exact ih hrest
  | map _ _ _ _ ih =>
    rcases List.mem_cons.mp hl with rfl | hrest
    · exact .inr rfl
    · exact ih hrest

/-- Whatever is built by levels is an object, if the leaf is one where there are none. -/
lemma isSome_asObject? (h : Nests leaf levels schema)
    (hleaf : levels = [] → leaf.asObject?.isSome = true) : schema.asObject?.isSome = true := by
  cases h with
  | leaf => exact hleaf rfl
  | list _ _ _ _ => rfl
  | map _ _ _ _ => rfl

end Nests

end Schema

namespace Model

variable {model : Model} {result : Resolved} {shapes : List Wrapper} {inner id : Nat}

/-! ## The shapes of the levels -/

/-- The shape of the container that a level at a depth stands for. That is the one of the level,
unless it is a list, the outermost level, and serialized as one delimited text. -/
def shapeAt (style : Option Style) (depth : Nat) (level : Wrapper) : Wrapper :=
  if depth = 0 ∧ level = .list ∧
      (style = some .simple ∨ style = some .spaceDelimited ∨ style = some .pipeDelimited) then
    .delimited
  else level

/-- The style counts for the outermost level that is a list. -/
@[simp] lemma shapeAt_zero_list (style : Option Style) :
    shapeAt style 0 .list = listWrapper style := by
  rcases style with - | (_ | _) <;> rfl

/-- The style does not count for maps. -/
@[simp] lemma shapeAt_map (style : Option Style) (depth : Nat) :
    shapeAt style depth .map = .map := by
  simp [shapeAt]

/-- No style counts for inner levels. -/
@[simp] lemma shapeAt_succ (style : Option Style) (depth : Nat) (level : Wrapper) :
    shapeAt style (depth + 1) level = level := by
  simp [shapeAt]

/-- The shapes of levels are those of the outermost one and of the inner ones. -/
lemma mapIdx_shapeAt_cons (style : Option Style) (level : Wrapper) (levels : List Wrapper) :
    (level :: levels).mapIdx (shapeAt style) = shapeAt style 0 level :: levels := by
  rw [List.mapIdx_cons]
  congr 1
  ext depth : 1
  rw [List.getElem?_mapIdx]
  cases levels[depth]? <;> simp

/-- Without a style, the levels have their own shapes. -/
lemma mapIdx_shapeAt_none (levels : List Wrapper) : levels.mapIdx (shapeAt none) = levels := by
  cases levels with
  | nil => rfl
  | cons level rest =>
    rw [mapIdx_shapeAt_cons]
    simp [shapeAt]

/-! ## Containers around a type -/

/-- Containers around what has been resolved. -/
lemma Resolves.wrapAll (h : model.Resolves result) (shapes : List Wrapper) :
    model.Resolves (shapes.foldr wrapResolved result) := by
  induction shapes with
  | nil => exact h
  | cons shape shapes ih => exact ih.wrap

/-- Containers around a mistake are the mistake. -/
lemma fst_wrapAll_error {error : SpecError} (h : result.1 = .error error) (shapes : List Wrapper) :
    (shapes.foldr wrapResolved result).1 = .error error := by
  induction shapes with
  | nil => exact h
  | cons shape shapes ih =>
    rw [List.foldr_cons]
    rcases hr : shapes.foldr wrapResolved result with ⟨outcome, final⟩
    rw [hr] at ih
    obtain rfl : outcome = .error error := ih
    rfl

/-- The bounded walk from a type to the type inside is the same after the model has grown. -/
lemma GrowsTo.unwrapWithin_eq {old new : Model} (h : old.GrowsTo new) (hold : old.WellFormed) :
    ∀ (depth : Nat) {id : Nat}, id < old.nodes.size →
      new.unwrapWithin depth id = old.unwrapWithin depth id
  | 0, _, _ => rfl
  | depth + 1, id, hid => by
    have hkind := (h.toExtends (Nat.zero_le _)).kind_eq hid
    rw [unwrapWithin, unwrapWithin, hkind]
    cases hk : (old.node id).kind with
    | container wrapper element =>
      have helement := Nat.lt_trans (hold.element_lt id wrapper element hk) hid
      dsimp only
      rw [h.unwrapWithin_eq hold depth helement]
    | _ => rfl

/-- Containers around a type have their shapes, from outside, and the type inside.

**Proof sketch.** Induction on the shapes. The outermost container is made last, of the type with
the other containers, and making it does not change them. -/
lemma unwrapWithin_wrapAll (hwf : model.WellFormed) (h : model.Resolves result)
    (hinner : result.1 = .ok inner) (shapes : List Wrapper) :
    ∃ id, (shapes.foldr wrapResolved result).1 = .ok id ∧
      (shapes.foldr wrapResolved result).2.unwrapWithin shapes.length id = (shapes, inner) := by
  induction shapes with
  | nil => exact ⟨inner, hinner, rfl⟩
  | cons shape shapes ih =>
    obtain ⟨element, hok, hwalk⟩ := ih
    have hrest := h.wrapAll shapes
    rw [List.foldr_cons]
    rcases hr : shapes.foldr wrapResolved result with ⟨outcome, mid⟩
    rw [hr] at hok hwalk hrest
    obtain rfl : outcome = .ok element := hok
    have helement : element < mid.nodes.size :=
      hrest.lt_size element rfl element List.mem_cons_self
    have hgrows : mid.GrowsTo (mid.container shape element).2 :=
      GrowsTo.refl.container shape helement
    refine ⟨(mid.container shape element).1, rfl, ?_⟩
    show (mid.container shape element).2.unwrapWithin (shapes.length + 1) _ = _
    rw [unwrapWithin_container (kind_container mid shape element),
      hgrows.unwrapWithin_eq (hrest.grows.wellFormed hwf) _ helement, hwalk]

end Model

/-! ## Nested schemas -/

/-- Resolving a schema that is built by levels resolves the leaf, with the style if it stands alone,
and puts the containers of the levels around the outcome. -/
theorem Schema.Nests.resolve_eq (h : Schema.Nests leaf levels schema)
    (hleaf : levels.getLast? = some .map → leaf.asObject?.isSome = true) (style : Option Style)
    (model : Model) :
    model.resolve schema style =
      (levels.mapIdx (Model.shapeAt style)).foldr Model.wrapResolved
        (model.resolve leaf (if levels = [] then style else none)) := by
  induction h generalizing style with
  | leaf => rfl
  | @list levels members items href htype hitems hn ih =>
    have hinner := ih (fun hlast => hleaf (by
      rw [List.getLast?_cons, hlast]
      rfl)) none
    rw [Model.mapIdx_shapeAt_none, ite_self] at hinner
    rw [Model.mapIdx_shapeAt_cons, Model.shapeAt_zero_list, if_neg (List.cons_ne_nil _ _),
      List.foldr_cons, ← hinner, Model.resolve, Model.resolve, ofJson_list href htype hitems]
    rfl
  | @map levels members values href htype hvalues hn ih =>
    have hinner := ih (fun hlast => hleaf (by
      rw [List.getLast?_cons, hlast]
      rfl)) none
    have hobject : values.asObject?.isSome = true :=
      hn.isSome_asObject? fun hnil => hleaf (by rw [hnil]; rfl)
    rw [Model.mapIdx_shapeAt_none, ite_self] at hinner
    rw [Model.mapIdx_shapeAt_cons, Model.shapeAt_map, if_neg (List.cons_ne_nil _ _),
      List.foldr_cons, ← hinner, Model.resolve, Model.resolve,
      ofJson_map href htype hvalues hobject]
    rfl

namespace Model

/-- A schema that is built around a leaf by lists and maps is resolved exactly if the leaf is, and
where that is a mistake it is the same one. A leaf that is right inside a map has to be an object.

Taking off as many containers as there are levels gives the levels, from outside, and then the type
that the leaf is resolved to in the model at the start. Only the outermost container can be a
delimited list. It is one exactly if that level is a list, and the style is one of the three that
send a list as one delimited text. -/
theorem Reachable.resolve_nested {model : Model} (h : model.Reachable)
    (hn : Schema.Nests leaf levels schema)
    (hleaf : levels.getLast? = some .map → leaf.asObject?.isSome = true) (style : Option Style) :
    let inside := model.resolve leaf (if levels = [] then style else none)
    let outside := model.resolve schema style
    ((∃ id, outside.1 = .ok id) ↔ ∃ inner, inside.1 = .ok inner) ∧
    (∀ error, outside.1 = .error error ↔ inside.1 = .error error) ∧
    ∀ id, outside.1 = .ok id → ∃ shapes inner,
      outside.2.unwrapWithin levels.length id = (shapes, inner) ∧ inside.1 = .ok inner ∧
      shapes = levels.mapIdx (shapeAt style) ∧
      (∀ level ∈ levels, level = .list ∨ level = .map) ∧
      ∀ depth, shapes[depth]? = some .delimited ↔ depth = 0 ∧ levels[depth]? = some .list ∧
        (style = some .simple ∨ style = some .spaceDelimited ∨ style = some .pipeDelimited) := by
  intro inside outside
  have hwf := h.settled.toWellFormed
  have heq : outside = (levels.mapIdx (shapeAt style)).foldr wrapResolved inside :=
    hn.resolve_eq hleaf style model
  have hinside : model.Resolves inside := resolves_resolve hwf leaf _
  cases hresult : inside.1 with
  | error mistake =>
    have hfails : outside.1 = .error mistake := by
      rw [heq]
      exact fst_wrapAll_error hresult _
    rw [hfails]
    exact ⟨by simp, fun error => Iff.rfl, fun id hid => absurd hid (by simp)⟩
  | ok inner =>
    obtain ⟨found, hok, hwalk⟩ :=
      unwrapWithin_wrapAll hwf hinside hresult (levels.mapIdx (shapeAt style))
    rw [← heq] at hok hwalk
    rw [List.length_mapIdx] at hwalk
    rw [hok]
    refine ⟨iff_of_true ⟨found, rfl⟩ ⟨inner, rfl⟩, fun error => by simp, fun id hid => ?_⟩
    obtain rfl := Except.ok.inj hid
    refine ⟨_, inner, hwalk, rfl, rfl, fun level => hn.level_cases, fun depth => ?_⟩
    rw [List.getElem?_mapIdx]
    cases hlevel : levels[depth]? with
    | none => simp
    | some level =>
      rcases hn.level_cases (List.mem_of_getElem? hlevel) with rfl | rfl
      · simp only [Option.map_some, shapeAt]
        split_ifs with hd
        · exact iff_of_true rfl hd
        · exact iff_of_false (by simp) hd
      · simp

/-! ### Samples -/

/-- A map of lists of truth values, in lists. -/
def nestedSchema : Json :=
  .object [("type", .string "array"), ("items",
    .object [("type", .string "object"), ("additionalProperties",
      .object [("type", .string "array"), ("items", .object [("type", .string "boolean")])])])]

/-- The sample schema, as that of a parameter in the form of one delimited text, is resolved to a
delimited list of maps of lists of truth values. -/
theorem resolve_nested_sample :
    ∃ id, ((initial default).resolve nestedSchema (some .pipeDelimited)).1 = .ok id ∧
      ((initial default).resolve nestedSchema (some .pipeDelimited)).2.unwrapWithin 3 id =
        ([.delimited, .map, .list], 4) ∧
      (initial default).nameOf 4 = "boolean" := by
  have hn : Schema.Nests (.object [("type", .string "boolean")]) [.list, .map, .list]
      nestedSchema := .list rfl rfl rfl (.map rfl rfl rfl (.list rfl rfl rfl .leaf))
  have hfound : ((initial default).resolve (.object [("type", .string "boolean")]) none).1 =
      .ok 4 := by rfl
  obtain ⟨hiff, -, hshapes⟩ := (Reachable.initial default).resolve_nested hn
    (fun hlast => absurd hlast (by decide)) (some .pipeDelimited)
  obtain ⟨id, hid⟩ := hiff.mpr ⟨4, hfound⟩
  obtain ⟨shapes, inner, hwalk, hinner, rfl, -, -⟩ := hshapes id hid
  obtain rfl : inner = 4 := Except.ok.inj (hinner.symm.trans hfound)
  exact ⟨id, hid, hwalk, by rfl⟩

/-- A map of anything, as a truth value says, has that value right inside. It is resolved to the
built-in type of objects, but no truth value is resolved at all. -/
theorem resolve_nested_truth :
    ∃ schema, Schema.Nests (.bool true) [.map] schema ∧
      (∃ id, ((initial default).resolve schema none).1 = .ok id) ∧
      ¬∃ id, ((initial default).resolve (.bool true) none).1 = .ok id := by
  refine ⟨.object [("type", .string "object"), ("additionalProperties", .bool true)],
    .map rfl rfl rfl .leaf, ⟨5, ?_⟩, ?_⟩
  · rfl
  · rintro ⟨id, hid⟩
    exact absurd hid (by simp [resolve, resolveForm, Schema.ofJson, resolveScalar])

end Model

end ClientGen
