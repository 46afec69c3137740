import ClientGen.Proofs.Components

/-!
# Containers are found by their names

A container is looked up by the name that its shape and its elements give it. Types of all kinds
share the names. If a type of another kind has the name of a container, the container gets a number
after its name when it is added, and so the next lookup adds it once more. As long as the name
leads to no such type, there is one container of the shape and the elements at most, and every
lookup finds it.

## Main definitions

* `ClientGen.Model.Interns` — that the name of a container leads to no type of another kind.
* `ClientGen.Model.NamesContainers` — models whose containers have the names that they are looked
  up by, or those names with a number after them where a type of another kind is in the way.
* `ClientGen.Schema.layer?` — the shape and the elements of a schema of a container.
* `ClientGen.EndsPlainly` — names that do not end like the name of a container, or of a part of it.

## Main results

* `ClientGen.Model.isInvariant_namesContainers` — models that can be reached name their containers.
* `ClientGen.Model.fst_container_later` — a container is found again exactly if its name leads to no
  type of another kind.
* `ClientGen.Model.Reachable.containers_interned` — what that means for types and for schemas.
-/

set_option autoImplicit false

namespace ClientGen

variable {model old new later : Model} {base : String} {kind : TypeKind} {schema : Json}
  {wrapper : Wrapper} {element id : Nat}

namespace Model

/-- The name of the container of the shape and the elements leads to no type of another kind. -/
def Interns (model : Model) (wrapper : Wrapper) (element : TypeId) : Prop :=
  ∀ id, model.names[model.containerName wrapper element]? = some id →
    (model.node id).kind = .container wrapper element

/-- A container has the name that it is looked up by. If that leads to a type of another kind, the
container has a number after it. -/
def NamesContainers (model : Model) : Prop :=
  ∀ (id : TypeId) (wrapper : Wrapper) (element : TypeId),
    (model.node id).kind = .container wrapper element →
      model.nameOf id = model.containerName wrapper element ∨
        ¬model.Interns wrapper element ∧
          ∃ n : Nat, model.nameOf id = model.containerName wrapper element ++ toString n

/-! ## The same types -/

namespace KeepsTypes

/-- A container is looked up by the name that it was looked up by. -/
lemma containerName_eq (h : old.KeepsTypes new) (he : element < old.nodes.size) :
    new.containerName wrapper element = old.containerName wrapper element := by
  rw [containerName, containerName, h.nameOf_eq he]

/-- A type of another kind that was found by the name of a container still is. -/
lemma interns (h : old.KeepsTypes new) (hold : old.WellFormed) (he : element < old.nodes.size)
    (hnew : new.Interns wrapper element) : old.Interns wrapper element := by
  intro id hid
  rw [← h.kind_eq (hold.lt_of_names hid)]
  exact hnew id (by rw [h.containerName_eq he]; exact h.names_le _ id hid)

end KeepsTypes

/-! ## The steps -/

namespace NamesContainers

/-- Adding a type keeps the names of containers, if a new container is made with its own name, and
that leads to no such container. -/
lemma add (h : model.NamesContainers) (hwf : model.WellFormed)
    (hk : ∀ wrapper element, kind = .container wrapper element → element < model.nodes.size ∧
      base = model.containerName wrapper element ∧
      ∀ id, model.names[base]? = some id → (model.node id).kind ≠ .container wrapper element) :
    (model.add base kind schema).2.NamesContainers := by
  have hkeeps : model.KeepsTypes (model.add base kind schema).2 := .add model base kind schema
  intro id wrapper element hid
  rw [nameOf]
  rw [node_add] at hid ⊢
  split_ifs at hid ⊢ with hnew
  · obtain ⟨he, hbase, hnot⟩ := hk wrapper element hid
    rw [hkeeps.containerName_eq he, ← hbase]
    by_cases hmem : base ∈ model.names
    · refine Or.inr ⟨fun hc => ?_, exists_uniqueName_eq_of_mem hmem⟩
      obtain ⟨other, hother⟩ := Option.isSome_iff_exists.mp
        (Std.TreeMap.mem_iff_isSome_getElem?.mp hmem)
      exact hnot other hother (hkeeps.interns hwf he hc other (hbase ▸ hother))
    · exact Or.inl (uniqueName_of_not_mem hmem)
  · have hlt : id < model.nodes.size :=
      lt_size_of_kind_ne (by rw [hid]; exact TypeKind.noConfusion)
    have he := Nat.lt_trans (hwf.element_lt id wrapper element hid) hlt
    rw [hkeeps.containerName_eq he]
    exact (h id wrapper element hid).imp_right
      (And.imp_left fun hnot hc => hnot (hkeeps.interns hwf he hc))

/-- Adding a type that is no container keeps the names of containers. -/
lemma add_of_ne (h : model.NamesContainers) (hwf : model.WellFormed)
    (hk : ∀ wrapper element, kind ≠ .container wrapper element) :
    (model.add base kind schema).2.NamesContainers :=
  h.add hwf fun wrapper element he => absurd he (hk wrapper element)

/-- Adding a container that is not found keeps the names of containers. -/
lemma add_container (h : model.NamesContainers) (hwf : model.WellFormed)
    (he : element < model.nodes.size)
    (hnot : ∀ id, model.names[model.containerName wrapper element]? = some id →
      (model.node id).kind ≠ .container wrapper element) :
    (model.add (model.containerName wrapper element) (.container wrapper element)
      schema).2.NamesContainers :=
  h.add hwf fun wrapper element hk => by
    obtain ⟨rfl, rfl⟩ := TypeKind.container.inj hk
    exact ⟨he, rfl, hnot⟩

/-- Where the types have the same names and kinds, the containers have the same names. -/
lemma congr (h : old.NamesContainers) (hnames : new.names = old.names)
    (hkind : ∀ id, (new.node id).kind = (old.node id).kind)
    (hname : ∀ id, new.nameOf id = old.nameOf id) : new.NamesContainers := by
  intro id wrapper element hid
  rw [hkind] at hid
  have hcontainer : new.containerName wrapper element = old.containerName wrapper element := by
    rw [containerName, containerName, hname]
  have hinterns : new.Interns wrapper element ↔ old.Interns wrapper element := by
    simp only [Interns, hcontainer, hnames, hkind]
  rw [hname, hcontainer, hinterns]
  exact h id wrapper element hid

/-- Changing the contents of a type keeps the names of containers. -/
lemma modify (h : model.NamesContainers) {change : TypeNode → TypeNode}
    (hbare : ∀ node, (change node).bare = node.bare) : (model.modify id change).NamesContainers :=
  h.congr rfl (fun i => (congrArg TypeNode.kind (node_modify_keeps TypeNode.bare hbare i) :))
    fun i => (congrArg TypeNode.name (node_modify_keeps TypeNode.bare hbare i) :)

end NamesContainers

/-- Each step of reading a document keeps the names of containers. -/
theorem isKeptByReading_namesContainers : IsKeptByReading NamesContainers where
  intrinsic _ h hmodel := hmodel.add_of_ne h.toWellFormed fun _ _ => TypeKind.noConfusion
  container _ _ h he hnot hmodel := hmodel.add_container h.toWellFormed he hnot
  fill _ _ hmodel := hmodel.modify fun _ => rfl
  report _ _ _ _ hmodel := hmodel
  use _ _ _ hmodel := hmodel.modify fun _ => rfl
  tag _ _ _ hmodel := hmodel
  method _ hmodel := hmodel

/-- The built-in types are no containers. -/
lemma namesContainers_initial (document : Document) :
    (Model.initial document).NamesContainers :=
  isKeptByReading_namesContainers.initial fun id wrapper element hk => by
    simp [node, default] at hk

/-- Models that can be reached name their containers. -/
theorem isInvariant_namesContainers : IsInvariant fun _ model => model.NamesContainers where
  container _ _ h he hnot hmodel := hmodel.add_container h.toWellFormed he hnot
  register h _ hmodel := hmodel.add_of_ne h.toWellFormed fun _ _ => TypeKind.noConfusion
  fill _ _ _ _ _ hmodel := hmodel.congr rfl (fun i => kind_fillWrite i) fun i => nameOf_fillWrite i
  registerRequest _ h hmodel := hmodel.add_of_ne h.toWellFormed fun _ _ => TypeKind.noConfusion
  fillRequest _ _ _ hmodel := hmodel.modify fun _ => rfl
  initial document := namesContainers_initial document
  ofDocument document := isKeptByReading_namesContainers.ofDocument
    (fun _ _ h hmodel => hmodel.add_of_ne h.toWellFormed fun _ _ => TypeKind.noConfusion)
    (namesContainers_initial document)
  intrinsic _ h hmodel := hmodel.add_of_ne h.toWellFormed fun _ _ => TypeKind.noConfusion
  retain _ _ _ hmodel := hmodel

/-! ## Lookups -/

/-- There is one container of a shape and of elements at most, if its name leads to no type of
another kind. -/
theorem NamesContainers.unique (h : model.NamesContainers) (hwf : model.WellFormed)
    (hi : model.Interns wrapper element) {first second : Nat}
    (h₁ : (model.node first).kind = .container wrapper element)
    (h₂ : (model.node second).kind = .container wrapper element) : first = second := by
  have hlt : ∀ {id : Nat}, (model.node id).kind = .container wrapper element →
      id < model.nodes.size :=
    fun hk => lt_size_of_kind_ne (by rw [hk]; exact TypeKind.noConfusion)
  have hname : ∀ {id : Nat}, (model.node id).kind = .container wrapper element →
      model.nameOf id = model.containerName wrapper element :=
    fun hk => (h _ wrapper element hk).resolve_right fun hc => hc.1 hi
  exact hwf.nameOf_injOn (hlt h₁) (hlt h₂) ((hname h₁).trans (hname h₂).symm)

/-- A container is found by its name in any model that has the same types. -/
lemma fst_container_of_names (hn : later.names[later.containerName wrapper element]? = some id)
    (hk : (later.node id).kind = .container wrapper element) :
    (later.container wrapper element).1 = id := by
  rcases container_cases later wrapper element with ⟨found, hfound, -, he⟩ | ⟨hnot, -⟩
  · rw [he]
    exact Option.some.inj (hfound.symm.trans hn)
  · exact absurd hk (hnot id hn)

/-- A container that has been looked up is found again exactly if its name led to no type of
another kind.

**Proof sketch.** The name leads to the container after the first lookup, unless it leads to a type
of another kind. That stays so, and then the second lookup adds a type. -/
theorem fst_container_later (hwf : model.WellFormed) (he : element < model.nodes.size)
    (hk : (model.container wrapper element).2.KeepsTypes later) :
    (later.container wrapper element).1 = (model.container wrapper element).1 ↔
      model.Interns wrapper element := by
  rcases container_cases model wrapper element with ⟨found, hn, hkind, heq⟩ | ⟨hnot, heq⟩ <;>
    rw [heq] at hk ⊢
  · -- The container was there.
    have hfound : later.names[later.containerName wrapper element]? = some found := by
      rw [hk.containerName_eq he]
      exact hk.names_le _ found hn
    refine iff_of_true (fst_container_of_names hfound ?_) fun id hid => ?_
    · rw [hk.kind_eq (hwf.lt_of_names hn), hkind]
    · obtain rfl := Option.some.inj (hn.symm.trans hid)
      exact hkind
  · have hadd : model.KeepsTypes (model.add (model.containerName wrapper element)
        (.container wrapper element) .null).2 := .add _ _ _ _
    have hall := hadd.trans hk
    cases hn : model.names[model.containerName wrapper element]? with
    | none =>
      -- The name was free, so the new container has it.
      have hfree : model.containerName wrapper element ∉ model.names := by
        rw [Std.TreeMap.mem_iff_isSome_getElem?, hn]
        exact Bool.noConfusion
      refine iff_of_true (fst_container_of_names ?_ ?_) fun id hid => absurd hid (by simp [hn])
      · rw [hall.containerName_eq he]
        refine hk.names_le _ _ ?_
        rw [getElem?_names_add, uniqueName_of_not_mem hfree, if_pos rfl, fst_add]
      · rw [hk.kind_eq (by rw [fst_add, size_nodes_add]; exact Nat.lt_succ_self _), fst_add,
          node_add_self]
    | some other =>
      -- A type of another kind has the name, then as now.
      have hother : later.names[later.containerName wrapper element]? = some other := by
        rw [hall.containerName_eq he]
        exact hall.names_le _ other hn
      have hne : (later.node other).kind ≠ .container wrapper element := by
        rw [hall.kind_eq (hwf.lt_of_names hn)]
        exact hnot other hn
      refine iff_of_false (fun hc => ?_) fun hi => hnot other hn (hi other hn)
      rcases container_cases later wrapper element with ⟨found, hfound, hkind, -⟩ | ⟨-, hlater⟩
      · obtain rfl := Option.some.inj (hfound.symm.trans hother)
        exact hne hkind
      · rw [hlater, fst_add, fst_add] at hc
        have hle := hk.size_le
        rw [size_nodes_add, hc] at hle
        exact Nat.not_succ_le_self _ hle

end Model

/-! ## Plain names -/

/-- The name ends, and not with a bracket that the name of a container has at its end or after the
name of its elements. -/
def EndsPlainly (name : String) : Prop :=
  ∃ last, name.toList.getLast? = some last ∧ last ≠ '[' ∧ last ≠ ']' ∧ last ≠ '>'

/-- The character that ends the name of a container. -/
def Wrapper.closing : Wrapper → Char
  | .list => ']'
  | .delimited => '>'
  | .map => ']'

/-- The name of a container ends with its bracket. -/
lemma Wrapper.getLast?_nameOf (wrapper : Wrapper) (name : String) :
    (wrapper.nameOf name).toList.getLast? = some wrapper.closing := by
  cases wrapper <;>
    rw [nameOf, String.toList_append, List.getLast?_append_of_ne_nil _ (by decide)] <;> rfl

/-- A name with a number after it ends with a digit. -/
lemma exists_getLast?_numbered (name : String) (n : Nat) :
    ∃ last : Char, (name ++ toString n).toList.getLast? = some last ∧ last.isDigit = true := by
  have hrepr : (toString n).toList = Nat.toDigits 10 n := Nat.toList_repr
  have hne : Nat.toDigits 10 n ≠ [] := Nat.toDigits_ne_nil
  refine ⟨(Nat.toDigits 10 n).getLast hne, ?_,
    Nat.isDigit_of_mem_toDigits (by decide) (by decide) (List.getLast_mem hne)⟩
  rw [String.toList_append, hrepr, List.getLast?_append_of_ne_nil _ hne,
    List.getLast?_eq_some_getLast hne]

/-- A list does not have the name of a map whose elements have a name that does not end with an
opening bracket. -/
lemma Wrapper.nameOf_list_ne_map {name other : String}
    (hother : ∃ last, other.toList.getLast? = some last ∧ last ≠ '[') :
    Wrapper.list.nameOf name ≠ Wrapper.map.nameOf other := by
  intro h
  obtain ⟨last, hlast, hne⟩ := hother
  have hnil : other.toList ≠ [] := by
    intro hc
    rw [hc] at hlast
    exact absurd hlast (by simp)
  have hlist : (name.toList ++ ['[']) ++ [']'] = ("Hash[".toList ++ other.toList) ++ [']'] := by
    have htexts := congrArg String.toList h
    simp only [nameOf, String.toList_append] at htexts
    simpa using htexts
  have hends := congrArg List.getLast? (List.append_cancel_right hlist)
  rw [List.getLast?_concat, List.getLast?_append_of_ne_nil _ hnil, hlast] at hends
  exact hne (Option.some.inj hends).symm

/-- The names of containers tell their shapes and the names of their elements, if the latter end
with something else than an opening bracket. -/
lemma Wrapper.nameOf_inj {first second : Wrapper} {name other : String}
    (hname : ∃ last, name.toList.getLast? = some last ∧ last ≠ '[')
    (hother : ∃ last, other.toList.getLast? = some last ∧ last ≠ '[')
    (h : first.nameOf name = second.nameOf other) : first = second ∧ name = other := by
  have hclosing : first.closing = second.closing := by
    rw [← Option.some_inj, ← first.getLast?_nameOf name, h, second.getLast?_nameOf]
  cases first with
  | list =>
    cases second with
    | list => exact ⟨rfl, String.append_left_inj _ |>.mp h⟩
    | delimited => exact absurd hclosing (by decide)
    | map => exact absurd h (nameOf_list_ne_map hother)
  | delimited =>
    cases second with
    | delimited => exact ⟨rfl, (String.append_right_inj _).mp ((String.append_left_inj _).mp h)⟩
    | _ => exact absurd hclosing (by decide)
  | map =>
    cases second with
    | list => exact absurd h.symm (nameOf_list_ne_map hname)
    | delimited => exact absurd hclosing (by decide)
    | map => exact ⟨rfl, (String.append_right_inj _).mp ((String.append_left_inj _).mp h)⟩

namespace Model

/-- If the types that are no containers have plain names, the names of all containers lead to no
types of other kinds.

**Proof sketch.** A type with the name of a container is itself a container, since no plain name
ends like that, and has no number after its name. So it has the name of a container of its own
shape and elements, which are those of the other. -/
theorem NamesContainers.interns_of_endsPlainly (h : model.NamesContainers) (hwf : model.WellFormed)
    (hplain : ∀ id : TypeId, id < model.nodes.size → (model.node id).element? = none →
      EndsPlainly (model.nameOf id))
    (he : element < model.nodes.size) : model.Interns wrapper element := by
  -- No name ends with an opening bracket.
  have hend : ∀ id : TypeId, id < model.nodes.size →
      ∃ last, (model.nameOf id).toList.getLast? = some last ∧ last ≠ '[' := by
    intro id hid
    cases hk : (model.node id).element? with
    | none =>
      obtain ⟨last, hlast, hne, -⟩ := hplain id hid hk
      exact ⟨last, hlast, hne⟩
    | some inner =>
      obtain ⟨shape, hshape⟩ := exists_container hk
      rcases h id shape inner hshape with hname | ⟨-, n, hname⟩ <;> rw [hname]
      · exact ⟨_, shape.getLast?_nameOf _, by cases shape <;> decide⟩
      · obtain ⟨last, hlast, hdigit⟩ := exists_getLast?_numbered
          (model.containerName shape inner) n
        exact ⟨last, hlast, by rintro rfl; exact absurd hdigit (by decide)⟩
  intro other hother
  obtain ⟨hlt, hname⟩ := (hwf.names_iff _ other).mp hother
  have hlast : (model.nameOf other).toList.getLast? = some wrapper.closing := by
    rw [hname]
    exact wrapper.getLast?_nameOf _
  cases hk : (model.node other).element? with
  | none =>
    obtain ⟨last, hl, -, hsquare, hangle⟩ := hplain other hlt hk
    rw [hl] at hlast
    obtain rfl := Option.some.inj hlast
    cases wrapper <;> contradiction
  | some inner =>
    obtain ⟨shape, hshape⟩ := exists_container hk
    have hinner := Nat.lt_trans (hwf.element_lt other shape inner hshape) hlt
    rcases h other shape inner hshape with hown | ⟨-, n, hnumber⟩
    · obtain ⟨rfl, hsame⟩ := Wrapper.nameOf_inj (hend element he) (hend inner hinner)
        (hname.symm.trans hown)
      rwa [hwf.nameOf_injOn he hinner hsame]
    · obtain ⟨last, hl, hdigit⟩ := exists_getLast?_numbered (model.containerName shape inner) n
      rw [hnumber, hl] at hlast
      obtain rfl := Option.some.inj hlast
      exact absurd hdigit (by cases wrapper <;> decide)

end Model

/-! ## Schemas -/

/-- The shape of the container that a schema stands for, and the schema of its elements. -/
def Schema.layer? (style : Option Style) : Schema → Option (Wrapper × Schema)
  | .list items => some (Model.listWrapper style, items)
  | .map values => some (.map, values)
  | _ => none

namespace Model

/-- A schema of a container is resolved by resolving that of its elements. -/
lemma resolveForm_of_layer {follow : String → Model → Resolved} {form items : Schema}
    {style : Option Style} (hl : form.layer? style = some (wrapper, items)) (model : Model) :
    resolveForm follow form style model =
      wrapResolved wrapper (resolveForm follow items none model) := by
  cases form with
  | list inner =>
    obtain ⟨rfl, rfl⟩ := Prod.mk.inj (Option.some.inj hl)
    rfl
  | map inner =>
    obtain ⟨rfl, rfl⟩ := Prod.mk.inj (Option.some.inj hl)
    rfl
  | _ => exact absurd hl (by simp [Schema.layer?])

/-- After a schema of a container has been resolved, it is resolved to the same container exactly if
the schema of the elements is resolved to the same type, and the name of the container led to no
type of another kind.

**Proof sketch.** A container tells its elements, so those must be the same. Then the container is
looked up in a model with the types of the one in which it was looked up first. -/
theorem Reachable.resolve_container_later (h : model.Reachable) {style : Option Style}
    {items : Schema} (hl : (Schema.ofJson schema).layer? style = some (wrapper, items))
    (hfirst : (model.resolve schema style).1 = .ok id) :
    ∃ element mid, resolveForm resolveReference items none model = (.ok element, mid) ∧
      ∀ later : Model, (model.resolve schema style).2.Continues later →
        ((later.resolve schema style).1 = .ok id ↔
          (resolveForm resolveReference items none later).1 = .ok element ∧
            mid.Interns wrapper element) := by
  have hwf := h.settled.toWellFormed
  have hinner := resolves_resolveForm hwf (resolves_resolveReference hwf) items none
  have hreach := h.resolve schema style
  rw [Model.resolve, resolveForm_of_layer hl] at hfirst hreach ⊢
  rcases hr : resolveForm resolveReference items none model with ⟨error | element, mid⟩ <;>
    rw [hr] at hfirst hinner hreach
  · exact absurd hfirst (by simp [wrapResolved])
  have hmid := hinner.grows.wellFormed hwf
  have he : element < mid.nodes.size := hinner.lt_size element rfl element List.mem_cons_self
  refine ⟨element, mid, rfl, fun later hlater => ?_⟩
  obtain rfl : (mid.container wrapper element).1 = id := Except.ok.inj hfirst
  have hkept : (mid.container wrapper element).2.KeepsTypes later := hlater.keepsTypes hreach
  have hset := (hlater.reachable hreach).settled.toWellFormed
  have hagain := resolves_resolveForm hset (resolves_resolveReference hset) items none
  rw [Model.resolve, resolveForm_of_layer hl]
  rcases hr' : resolveForm resolveReference items none later with ⟨error | other, last⟩ <;>
    rw [hr'] at hagain
  · exact iff_of_false (by simp [wrapResolved]) (by simp)
  have hlast : (mid.container wrapper element).2.KeepsTypes last := hkept.trans (.grow hagain.grows)
  have hiff := fst_container_later hmid he hlast
  constructor
  · intro hsame
    have hids : (last.container wrapper other).1 = (mid.container wrapper element).1 :=
      Except.ok.inj hsame
    have hgrows : last.GrowsTo (last.container wrapper other).2 := GrowsTo.refl.container wrapper
      (hagain.lt_size other rfl other List.mem_cons_self)
    have hkind := (hlast.trans (.grow hgrows)).kind_eq (fst_container_lt mid wrapper element)
    rw [kind_container, ← hids, kind_container] at hkind
    obtain ⟨-, rfl⟩ := TypeKind.container.inj hkind
    exact ⟨rfl, hiff.mp hids⟩
  · rintro ⟨hother, hi⟩
    obtain rfl := Except.ok.inj hother
    exact congrArg Except.ok (hiff.mpr hi)

/-- There is one container of a shape and of elements at most, unless its name leads to a type of
another kind. A schema of a container is resolved to the same container again, whatever has been
done in between, exactly if that of the elements is resolved to the same type, and the name of the
container led to no type of another kind. It never does if the types that are no containers have
plain names. -/
theorem Reachable.containers_interned (h : model.Reachable) :
    (∀ (wrapper : Wrapper) (element : TypeId), model.Interns wrapper element →
      ∀ first second : TypeId, (model.node first).kind = .container wrapper element →
        (model.node second).kind = .container wrapper element → first = second) ∧
    (∀ (schema : Json) (style : Option Style) (wrapper : Wrapper) (items : Schema),
      (Schema.ofJson schema).layer? style = some (wrapper, items) →
        ∀ id : TypeId, (model.resolve schema style).1 = .ok id →
          ∃ element mid, resolveForm resolveReference items none model = (.ok element, mid) ∧
            ∀ later : Model, (model.resolve schema style).2.Continues later →
              ((later.resolve schema style).1 = .ok id ↔
                (resolveForm resolveReference items none later).1 = .ok element ∧
                  mid.Interns wrapper element)) ∧
    ((∀ id : TypeId, id < model.nodes.size → (model.node id).element? = none →
        EndsPlainly (model.nameOf id)) →
      ∀ (wrapper : Wrapper) (element : TypeId), element < model.nodes.size →
        model.Interns wrapper element) := by
  have hnames : model.NamesContainers := isInvariant_namesContainers.of_reachable h
  have hwf := h.settled.toWellFormed
  exact ⟨fun _ _ hi _ _ h₁ h₂ => hnames.unique hwf hi h₁ h₂,
    fun _ _ _ _ hl _ hfirst => h.resolve_container_later hl hfirst,
    fun hplain _ _ he => hnames.interns_of_endsPlainly hwf hplain he⟩

/-! ## A sample -/

/-- A document that declares a type with the name of a list of users. -/
def takenDocument : Document where
  root := .object [("components", .object [("schemas", .object [
    ("User", .object []), ("User[]", .object [])])])]

/-- A list of users. -/
def takenSchema : Json :=
  .object [("type", .string "array"),
    ("items", .object [("$ref", .string "#/components/schemas/User")])]

/-- The model of the document after the list of users has been resolved. -/
def takenModel : Model := ((Model.ofDocument takenDocument).resolve takenSchema none).2

/-- The list of users is resolved to one container and then to another one, since its name leads to
the declared type. -/
theorem Reachable.containers_interned_taken :
    (takenModel.resolve takenSchema none).1.toOption = some 25 ∧
      takenModel.nameOf 24 = "User[]2" ∧
      (takenModel.resolve takenSchema none).2.nameOf 25 = "User[]3" ∧
      ¬(takenModel.resolve takenSchema none).2.Interns .list 22 := by
  have hfacts : (takenModel.resolve takenSchema none).1.toOption = some 25 ∧
      takenModel.nameOf 24 = "User[]2" ∧
      (takenModel.resolve takenSchema none).2.nameOf 25 = "User[]3" ∧
      ((takenModel.resolve takenSchema none).2.node 24).kind = .container .list 22 ∧
      ((takenModel.resolve takenSchema none).2.node 25).kind = .container .list 22 := by
    decide
  obtain ⟨hagain, hfirst, hsecond, h₁, h₂⟩ := hfacts
  have hreach : (takenModel.resolve takenSchema none).2.Reachable :=
    ((Reachable.ofDocument takenDocument).resolve takenSchema none).resolve takenSchema none
  refine ⟨hagain, hfirst, hsecond, fun hi => ?_⟩
  exact absurd ((containers_interned hreach).1 .list 22 hi 24 25 h₁ h₂) (by decide)

end Model

end ClientGen
