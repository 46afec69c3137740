import ClientGen.Proofs.Reachable

/-!
# Deriving a write type comes to an end

To derive the write type of a container is to derive that of its elements. To derive the write type
of any other type is to derive those of the types of its properties, unless the type has none, or
its shape already leads to one. Types refer to themselves and to each other, so nothing in the types
bounds this recursion. What ends it is that the shape of a type is registered before its properties
are looked at, and stays what it is while the new types are unfinished. So no type is made a write
type for twice.

The recursion is written here without a bound, as calls that come to an end.

## Main definitions

* `ClientGen.Model.Visit`, `ClientGen.Model.newSources` — the types that a call looks at, and those
  of them that it makes a write type for.
* `ClientGen.Model.WriteCall`, `ClientGen.Model.WriteCalls` — calls that come to an end, for one
  type and for the types of properties.
* `ClientGen.Model.writeSources` — the types that the write types from a number on are made for.
* `ClientGen.Model.Explores` — what the visits of a call tell of the model after it.

## Main results

* `ClientGen.Model.WriteCall.unique` — a call has one result and one course.
* `ClientGen.Model.exists_writeCall` — deriving a write type in the course of another derivation
  comes to an end.
* `ClientGen.Model.Reachable.writeType_terminates` — deriving a write type in a model that can be
  reached comes to an end, and each write type that it adds is that of another type.
-/

set_option autoImplicit false

namespace ClientGen

/-- The type that a write type is made for. -/
def TypeKind.source? : TypeKind → Option TypeId
  | .write source => some source
  | _ => none

namespace Model

variable {limit depth : Nat} {pending : List TypeId} {model old mid new : Model} {id : Nat}
  {derive : TypeId → Model → Derivation}

/-! ## Calls -/

/-- A look at a type while write types are derived. -/
structure Visit where
  /-- The type that is looked at. -/
  type : TypeId
  /-- Whether a write type is made for it, since its shape leads nowhere. -/
  isNew : Bool := false

/-- The types that a write type is made for, in order. -/
def newSources (visits : List Visit) : List TypeId := (visits.filter (·.isNew)).map (·.type)

mutual

/-- Deriving the write type of a type in a model comes to an end, with a result and after looking
at some types. -/
inductive WriteCall : TypeId → Model → Derivation → List Visit → Prop
  /-- The elements of a container have no write type. -/
  | bare {id element : TypeId} {wrapper : Wrapper} {model mid : Model} {visits : List Visit} :
      (model.node id).kind = .container wrapper element →
        WriteCall element model (none, mid) visits →
          WriteCall id model (none, mid) ({ type := id } :: visits)
  /-- The elements of a container have a write type. -/
  | wrapped {id element write : TypeId} {wrapper : Wrapper} {model mid : Model}
      {visits : List Visit} :
      (model.node id).kind = .container wrapper element →
        WriteCall element model (some write, mid) visits →
          WriteCall id model
            (some (mid.container wrapper write).1, (mid.container wrapper write).2)
            ({ type := id } :: visits)
  /-- A type that is no container has no write type. -/
  | without {id : TypeId} {model : Model} :
      (model.node id).element? = none → ¬model.HasWriteType id →
        WriteCall id model (none, model) [{ type := id }]
  /-- The shape of a type that is no container leads to a derived type. -/
  | recorded {id write : TypeId} {model : Model} :
      (model.node id).element? = none → model.HasWriteType id →
        model.derived[model.writeKey id]? = some write →
          WriteCall id model (some write, model) [{ type := id }]
  /-- The shape of a type that is no container leads nowhere. A write type is registered, and gets
  its properties once their types have been looked at. -/
  | made {id : TypeId} {model mid : Model} {properties : List Property} {visits : List Visit} :
      (model.node id).element? = none → model.HasWriteType id →
        model.derived[model.writeKey id]? = none →
          WriteCalls (model.writtenProperties id) (model.registerWrite id) (properties, mid)
            visits →
            WriteCall id model
              (some model.nodes.size,
                mid.fillWrite id model.nodes.size (model.node id) properties)
              ({ type := id, isNew := true } :: visits)

/-- Deriving the write types of the types of properties, one after the other, comes to an end. -/
inductive WriteCalls :
    List Property → Model → List Property × Model → List Visit → Prop
  /-- There are no properties. -/
  | nil {model : Model} : WriteCalls [] model ([], model) []
  /-- The type of the first property is looked at, then those of the others are. -/
  | cons {property : Property} {rest properties : List Property} {write : Option TypeId}
      {model mid new : Model} {first second : List Visit} :
      WriteCall property.type model (write, mid) first →
        WriteCalls rest mid (properties, new) second →
          WriteCalls (property :: rest) model
            ({ property with type := write.getD property.type } :: properties, new)
            (first ++ second)

end

/-- A call for a container is a call for its elements and looks up a container of what that finds. -/
lemma WriteCall.of_container {wrapper : Wrapper} {element : TypeId} {result : Derivation}
    {visits : List Visit} (hk : (model.node id).kind = .container wrapper element)
    (h : WriteCall id model result visits) :
    ∃ found mid inner, WriteCall element model (found, mid) inner ∧
      visits = { type := id } :: inner ∧
      result = match found with
        | none => (none, mid)
        | some write => (some (mid.container wrapper write).1, (mid.container wrapper write).2) := by
  have hnot : (model.node id).element? ≠ none := fun hleaf =>
    kind_ne_container hleaf wrapper element hk
  cases h with
  | bare hk' hcall =>
    obtain ⟨rfl, rfl⟩ := TypeKind.container.inj (hk'.symm.trans hk)
    exact ⟨_, _, _, hcall, rfl, rfl⟩
  | wrapped hk' hcall =>
    obtain ⟨rfl, rfl⟩ := TypeKind.container.inj (hk'.symm.trans hk)
    exact ⟨_, _, _, hcall, rfl, rfl⟩
  | without hleaf => exact absurd hleaf hnot
  | recorded hleaf => exact absurd hleaf hnot
  | made hleaf => exact absurd hleaf hnot

/-- A call for a type that is no container and has no write type finds nothing. -/
lemma WriteCall.of_not {result : Derivation} {visits : List Visit}
    (hleaf : (model.node id).element? = none) (hno : ¬model.HasWriteType id)
    (h : WriteCall id model result visits) :
    result = (none, model) ∧ visits = [{ type := id }] := by
  cases h with
  | bare hk => exact absurd hk (kind_ne_container hleaf _ _)
  | wrapped hk => exact absurd hk (kind_ne_container hleaf _ _)
  | without => exact ⟨rfl, rfl⟩
  | recorded _ hw => exact absurd hw hno
  | made _ hw => exact absurd hw hno

/-- A call for a type that is no container, whose shape leads to a derived type, finds that. -/
lemma WriteCall.of_recorded {write : TypeId} {result : Derivation} {visits : List Visit}
    (hleaf : (model.node id).element? = none) (hw : model.HasWriteType id)
    (hkey : model.derived[model.writeKey id]? = some write)
    (h : WriteCall id model result visits) :
    result = (some write, model) ∧ visits = [{ type := id }] := by
  cases h with
  | bare hk => exact absurd hk (kind_ne_container hleaf _ _)
  | wrapped hk => exact absurd hk (kind_ne_container hleaf _ _)
  | without _ hno => exact absurd hw hno
  | recorded _ _ hkey' =>
    obtain rfl := Option.some.inj (hkey'.symm.trans hkey)
    exact ⟨rfl, rfl⟩
  | made _ _ hkey' => exact absurd (hkey'.symm.trans hkey) (by simp)

/-- A call for a type that is no container, whose shape leads nowhere, makes a write type. -/
lemma WriteCall.of_new {result : Derivation} {visits : List Visit}
    (hleaf : (model.node id).element? = none) (hw : model.HasWriteType id)
    (hkey : model.derived[model.writeKey id]? = none) (h : WriteCall id model result visits) :
    ∃ properties mid inner, WriteCalls (model.writtenProperties id) (model.registerWrite id)
        (properties, mid) inner ∧
      result = (some model.nodes.size,
        mid.fillWrite id model.nodes.size (model.node id) properties) ∧
      visits = { type := id, isNew := true } :: inner := by
  cases h with
  | bare hk => exact absurd hk (kind_ne_container hleaf _ _)
  | wrapped hk => exact absurd hk (kind_ne_container hleaf _ _)
  | without _ hno => exact absurd hw hno
  | recorded _ _ hkey' => exact absurd (hkey'.symm.trans hkey) (by simp)
  | made _ _ _ hcalls => exact ⟨_, _, _, hcalls, rfl, rfl⟩

/-- Calls for properties are a call for the first one, and calls for the others. -/
lemma WriteCalls.of_cons {property : Property} {rest : List Property}
    {result : List Property × Model} {visits : List Visit}
    (h : WriteCalls (property :: rest) model result visits) :
    ∃ write mid properties new first second,
      WriteCall property.type model (write, mid) first ∧
      WriteCalls rest mid (properties, new) second ∧
      result = ({ property with type := write.getD property.type } :: properties, new) ∧
      visits = first ++ second := by
  cases h with
  | cons hfirst hrest => exact ⟨_, _, _, _, _, _, hfirst, hrest, rfl, rfl⟩

/-- A call has one result and one course.

**Proof sketch.** Induction on the call and on the calls for properties in it. The kind of the type,
whether it has a write type and where its shape leads decide which rule the other call is made
by. -/
theorem WriteCall.unique {result : Derivation} {visits : List Visit}
    (h : WriteCall id model result visits) : ∀ {other : Derivation} {others : List Visit},
      WriteCall id model other others → other = result ∧ others = visits := by
  refine @WriteCall.rec
    (fun id model result visits _ => ∀ {other : Derivation} {others : List Visit},
      WriteCall id model other others → other = result ∧ others = visits)
    (fun sources model result visits _ => ∀ {other : List Property × Model} {others : List Visit},
      WriteCalls sources model other others → other = result ∧ others = visits)
    ?bare ?wrapped ?without ?recorded ?made ?nil ?cons id model result visits h
  case bare =>
    intro id element wrapper model mid visits hk _ ih other others h'
    obtain ⟨found, mid', inner, hcall, rfl, rfl⟩ := h'.of_container hk
    obtain ⟨hr, rfl⟩ := ih hcall
    obtain ⟨rfl, rfl⟩ := Prod.mk.inj hr
    exact ⟨rfl, rfl⟩
  case wrapped =>
    intro id element write wrapper model mid visits hk _ ih other others h'
    obtain ⟨found, mid', inner, hcall, rfl, rfl⟩ := h'.of_container hk
    obtain ⟨hr, rfl⟩ := ih hcall
    obtain ⟨rfl, rfl⟩ := Prod.mk.inj hr
    exact ⟨rfl, rfl⟩
  case without =>
    intro id model hleaf hno other others h'
    exact h'.of_not hleaf hno
  case recorded =>
    intro id write model hleaf hw hkey other others h'
    exact h'.of_recorded hleaf hw hkey
  case made =>
    intro id model mid properties visits hleaf hw hkey _ ih other others h'
    obtain ⟨properties', mid', inner, hcalls, rfl, rfl⟩ := h'.of_new hleaf hw hkey
    obtain ⟨hr, rfl⟩ := ih hcalls
    obtain ⟨rfl, rfl⟩ := Prod.mk.inj hr
    exact ⟨rfl, rfl⟩
  case nil =>
    intro model other others h'
    cases h'
    exact ⟨rfl, rfl⟩
  case cons =>
    intro property rest properties write model mid new first second _ _ ihFirst ihRest other
      others h'
    obtain ⟨write', mid', properties', new', first', second', hfirst, hrest, rfl, rfl⟩ := h'.of_cons
    obtain ⟨hr, rfl⟩ := ihFirst hfirst
    obtain ⟨rfl, rfl⟩ := Prod.mk.inj hr
    obtain ⟨hr, rfl⟩ := ihRest hrest
    obtain ⟨rfl, rfl⟩ := Prod.mk.inj hr
    exact ⟨rfl, rfl⟩

/-! ## What a call adds -/

/-- The types that the write types from a number on are made for, in the order of their making. -/
def writeSources (model : Model) (first : Nat) : List TypeId :=
  (List.range' first (model.nodes.size - first)).filterMap fun id => (model.node id).kind.source?

/-- One more type is one more source, if it is a write type. -/
lemma writeSources_add (base : String) (kind : TypeKind) (schema : Json) {first : Nat}
    (h : first ≤ model.nodes.size) : (model.add base kind schema).2.writeSources first =
      model.writeSources first ++ kind.source?.toList := by
  have hsize : model.nodes.size + 1 - first = model.nodes.size - first + 1 := by omega
  have hlast : first + (model.nodes.size - first) = model.nodes.size := by omega
  rw [writeSources, size_nodes_add, hsize, List.range'_1_concat, List.filterMap_append, hlast]
  congr 1
  · apply List.filterMap_congr
    intro id hid
    rw [List.mem_range'_1] at hid
    rw [node_add_of_ne (by omega)]
  · simp only [List.filterMap_cons, List.filterMap_nil, node_add_self]
    cases kind.source? <;> rfl

/-- Write types are made for the same types in models of the same kinds. -/
lemma writeSources_congr (hsize : new.nodes.size = old.nodes.size)
    (hkind : ∀ id : TypeId, (new.node id).kind = (old.node id).kind) (first : Nat) :
    new.writeSources first = old.writeSources first := by
  simp only [writeSources, hsize, hkind]

/-- What an extension adds comes after what was added before. -/
lemma Extends.writeSources_eq (h : Extends limit mid new) {first : Nat}
    (hle : first ≤ mid.nodes.size) :
    new.writeSources first = mid.writeSources first ++ new.writeSources mid.nodes.size := by
  have hsize := h.size_le
  have hsplit : new.nodes.size - first =
      (mid.nodes.size - first) + (new.nodes.size - mid.nodes.size) := by omega
  have hmid : first + (mid.nodes.size - first) = mid.nodes.size := by omega
  rw [writeSources, hsplit, ← List.range'_append_1, List.filterMap_append, hmid]
  congr 1
  apply List.filterMap_congr
  intro id hid
  rw [List.mem_range'_1] at hid
  rw [h.kind_eq (by omega)]

/-- The visits of a call that takes one model to another: they are of types below the limit, the
shapes of those that a write type is made for led nowhere before the call and lead somewhere after
it, and there is one new write type for each of these, in order. -/
structure Explores (limit : Nat) (old : Model) (visits : List Visit) (new : Model) : Prop where
  type_lt : ∀ visit ∈ visits, visit.type < limit
  leaf : ∀ source ∈ newSources visits, (old.node source).element? = none
  unrecorded : ∀ source ∈ newSources visits, old.derived[old.writeKey source]? = none
  recorded : ∀ source ∈ newSources visits, new.derived[old.writeKey source]? ≠ none
  nodup : (newSources visits).Nodup
  sources_eq : new.writeSources old.nodes.size = newSources visits

namespace Explores

variable {visits first second : List Visit}

/-- Nothing is looked at, and nothing is made. -/
lemma nil (limit : Nat) (model : Model) : Explores limit model [] model :=
  ⟨by simp, by simp [newSources], by simp [newSources], by simp [newSources], .nil,
    by simp [writeSources, newSources]⟩

/-- A type is looked at that no write type is made for. -/
lemma look (h : Explores limit old visits new) (hid : id < limit) :
    Explores limit old ({ type := id } :: visits) new :=
  ⟨List.forall_mem_cons.mpr ⟨hid, h.type_lt⟩, h.leaf, h.unrecorded, h.recorded, h.nodup,
    h.sources_eq⟩

/-- No other write type is made, and shapes lead where they led. -/
lemma keep (h : Explores limit old visits mid) (hderived : new.derived = mid.derived)
    (hsources : new.writeSources old.nodes.size = mid.writeSources old.nodes.size) :
    Explores limit old visits new :=
  ⟨h.type_lt, h.leaf, h.unrecorded, fun source hs => hderived ▸ h.recorded source hs, h.nodup,
    hsources.trans h.sources_eq⟩

/-- One call after another.

**Proof sketch.** The shape of a type that the first call makes a write type for leads somewhere
afterwards, and it is still the shape of that type. So the second call does not make another one
for it. -/
theorem trans (h₁ : Explores limit old first mid) (h₂ : Explores limit mid second new)
    (hold : old.ClosedBelow limit) (hmid : mid.WellFormed) (he₁ : old.Extends limit mid)
    (he₂ : mid.Extends limit new) : Explores limit old (first ++ second) new := by
  have happend : newSources (first ++ second) = newSources first ++ newSources second := by
    simp [newSources]
  have hlt : ∀ source ∈ newSources second, source < limit := by
    intro source hs
    obtain ⟨visit, hvisit, rfl⟩ := List.mem_map.mp hs
    exact h₂.type_lt visit (List.mem_filter.mp hvisit).1
  have hkey : ∀ source ∈ newSources second, mid.writeKey source = old.writeKey source := by
    intro source hs
    exact hold.writeKey_eq he₁ hmid (hlt source hs)
  have hstays : ∀ key : String, mid.derived[key]? ≠ none → new.derived[key]? ≠ none := by
    intro key hk
    obtain ⟨write, hwrite⟩ := Option.ne_none_iff_exists'.mp hk
    rw [he₂.derived_le key write hwrite]
    simp
  refine ⟨?_, ?_, ?_, ?_, ?_, ?_⟩
  · intro visit hvisit
    exact (List.mem_append.mp hvisit).elim (h₁.type_lt visit) (h₂.type_lt visit)
  · intro source hs
    rw [happend, List.mem_append] at hs
    rcases hs with hs | hs
    · exact h₁.leaf source hs
    · rw [← he₁.element?_eq (Nat.lt_of_lt_of_le (hlt source hs) hold.limit_le)]
      exact h₂.leaf source hs
  · intro source hs
    rw [happend, List.mem_append] at hs
    rcases hs with hs | hs
    · exact h₁.unrecorded source hs
    · cases hc : old.derived[old.writeKey source]? with
      | none => rfl
      | some write =>
        have hnone := h₂.unrecorded source hs
        rw [hkey source hs, he₁.derived_le _ write hc] at hnone
        exact absurd hnone (by simp)
  · intro source hs
    rw [happend, List.mem_append] at hs
    rcases hs with hs | hs
    · exact hstays _ (h₁.recorded source hs)
    · rw [← hkey source hs]
      exact h₂.recorded source hs
  · rw [happend]
    refine List.nodup_append.mpr ⟨h₁.nodup, h₂.nodup, ?_⟩
    rintro source hs₁ other hs₂ rfl
    apply h₁.recorded source hs₁
    rw [← hkey source hs₂]
    exact h₂.unrecorded source hs₂
  · rw [he₂.writeSources_eq he₁.size_le, h₁.sources_eq, h₂.sources_eq, happend]

end Explores

/-! ## Calls come to an end -/

/-- Deriving write types with `derive` comes to an end where few shapes lead nowhere. -/
def CallsWithin (limit depth : Nat) (derive : TypeId → Model → Derivation) : Prop :=
  ∀ {pending : List TypeId} {model : Model}, model.Coherent limit pending →
    unrecorded limit model < depth → ∀ id : TypeId, id < limit →
      ∃ visits, WriteCall id model (derive id model) visits ∧
        Explores limit model visits (derive id model).2

/-- Pointing properties at write types comes to an end, if deriving these does. -/
lemma exists_writeCalls (hwrites : WritesWithin limit depth derive)
    (hcalls : CallsWithin limit depth derive) (sources : List Property) :
    ∀ {model : Model}, model.Coherent limit pending → unrecorded limit model < depth →
      (∀ p ∈ sources, p.type < limit) →
        ∃ visits, WriteCalls sources model (pointAtWriteTypes derive sources model) visits ∧
          Explores limit model visits (pointAtWriteTypes derive sources model).2 := by
  induction sources with
  | nil =>
    intro model _ _ _
    exact ⟨[], .nil, .nil limit model⟩
  | cons source rest ih =>
    intro model h hm ht
    have hsource : source.type < limit := ht source List.mem_cons_self
    obtain ⟨first, hcall, hexplores⟩ := hcalls h hm source.type hsource
    have hfirst := hwrites h hm source.type hsource
    rw [pointAtWriteTypes]
    generalize derive source.type model = derived at hcall hexplores hfirst
    obtain ⟨write, mid⟩ := derived
    have hmono := h.toClosedBelow.unrecorded_mono hfirst.toExtends hfirst.coherent.toWellFormed
    have hm' : unrecorded limit mid < depth := Nat.lt_of_le_of_lt hmono hm
    have hrest : ∀ p ∈ rest, p.type < limit := fun p hp => ht p (List.mem_cons_of_mem _ hp)
    obtain ⟨second, hcalls', hexplores'⟩ := ih hfirst.coherent hm' hrest
    have hothers := pointAtWriteTypes_spec hwrites rest hfirst.coherent hm' hrest
    dsimp only
    generalize pointAtWriteTypes derive rest mid = others at hcalls' hexplores' hothers
    obtain ⟨properties, new⟩ := others
    exact ⟨first ++ second, .cons hcall hcalls', hexplores.trans hexplores' h.toClosedBelow
      hfirst.coherent.toWellFormed hfirst.toExtends hothers.toExtends⟩

/-- Registering a write type is to look at its source, which a write type is made for. -/
lemma Coherent.explores_registerWrite (h : model.Coherent limit pending) (hid : id < limit)
    (hleaf : (model.node id).element? = none) (hw : model.HasWriteType id)
    (hk : model.derived[model.writeKey id]? = none) :
    Explores limit model [{ type := id, isNew := true }] (model.registerWrite id) := by
  obtain ⟨-, -, -, -, hkey⟩ := h.registerWrite hid hleaf hw hk
  have hnew : newSources [{ type := id, isNew := true }] = [id] := rfl
  refine ⟨by simpa using hid, ?_, ?_, ?_, ?_, ?_⟩
  · simpa [hnew] using hleaf
  · simpa [hnew] using hk
  · rw [hnew, List.forall_mem_singleton, hkey]
    simp
  · simp [hnew]
  · have hadd := writeSources_add ("Write" ++ (model.node id).name) (.write id)
      (describedAs (writeDescription (model.node id) (model.writtenProperties id)))
      (Nat.le_refl model.nodes.size)
    rw [hnew]
    refine Eq.trans hadd ?_
    simp [writeSources, TypeKind.source?]

/-- Deriving the write type of a type that is no container comes to an end, if `derive` does where
one more shape leads somewhere. -/
lemma exists_writeCall_core (hwrites : WritesWithin limit depth derive)
    (hcalls : CallsWithin limit depth derive) (h : model.Coherent limit pending)
    (hm : unrecorded limit model < depth + 1) (hid : id < limit)
    (hleaf : (model.node id).element? = none) :
    ∃ visits, WriteCall id model (writeCore derive id model) visits ∧
      Explores limit model visits (writeCore derive id model).2 := by
  have hseen : Explores limit model [{ type := id }] model := (Explores.nil limit model).look hid
  by_cases hw : model.HasWriteType id
  swap
  · rw [writeCore_of_not hw]
    exact ⟨_, .without hleaf hw, hseen⟩
  cases hk : model.derived[model.writeKey id]? with
  | some write =>
    rw [writeCore_of_recorded hw hk]
    exact ⟨_, .recorded hleaf hw hk, hseen⟩
  | none =>
    rw [writeCore_of_new hw hk]
    obtain ⟨hreg, hext, hfewer, -, -⟩ := h.registerWrite hid hleaf hw hk
    have hless : unrecorded limit (model.registerWrite id) < depth := by omega
    have htypes : ∀ p ∈ model.writtenProperties id, p.type < limit :=
      fun p hp => h.toClosedBelow.writtenType_lt hid hp
    obtain ⟨visits, hpoints, hexplores⟩ := exists_writeCalls hwrites hcalls _ hreg hless htypes
    have hpoint := pointAtWriteTypes_spec hwrites _ hreg hless htypes
    generalize pointAtWriteTypes derive (model.writtenProperties id) (model.registerWrite id) =
      pointed at hpoints hexplores hpoint
    obtain ⟨properties, mid⟩ := pointed
    have hall := (h.explores_registerWrite hid hleaf hw hk).trans hexplores h.toClosedBelow
      hreg.toWellFormed hext hpoint.toExtends
    -- Filling in the write type changes neither the kinds nor where the shapes lead.
    have hsize : (mid.fillWrite id model.nodes.size (model.node id) properties).nodes.size =
        mid.nodes.size := by
      simp [fillWrite, refer]
    exact ⟨_, .made hleaf hw hk hpoints,
      hall.keep rfl (writeSources_congr hsize kind_fillWrite _)⟩

/-! ### Containers -/

/-- Deriving the write type of a type that is no container from that of the type inside. -/
lemma writeAround_of_leaf (hleaf : (model.node id).element? = none) :
    writeAround derive id model = derive id model := by
  rw [writeAround, unwrap_of_not_container hleaf]
  dsimp only
  rcases derive id model with ⟨none | write, new⟩ <;> rfl

/-- Deriving the write type of a container from that of the type inside is to derive that of its
elements first. -/
lemma WellFormed.writeAround_container (h : model.WellFormed) {wrapper : Wrapper}
    {element : TypeId} (hk : (model.node id).kind = .container wrapper element) :
    writeAround derive id model =
      match writeAround derive element model with
      | (none, mid) => (none, mid)
      | (some write, mid) =>
        (some (mid.container wrapper write).1, (mid.container wrapper write).2) := by
  rw [writeAround, writeAround, h.unwrap_container hk]
  dsimp only
  rcases derive (model.unwrap element).2 model with ⟨none | write, mid⟩ <;> rfl

/-- Looking up a container makes no write type. -/
lemma Explores.container {visits : List Visit} (h : Explores limit old visits mid)
    (hle : old.nodes.size ≤ mid.nodes.size) (wrapper : Wrapper) (element : TypeId) :
    Explores limit old visits (mid.container wrapper element).2 := by
  refine keeps_container h fun _ => h.keep rfl ?_
  rw [writeSources_add _ _ _ hle]
  exact List.append_nil _

/-- Deriving the write type of a type comes to an end, if deriving that of the type inside all
containers does.

**Proof sketch.** Induction on the containers around the type, from inside. -/
lemma exists_writeCall_around (h : model.Coherent limit pending) (hid : id < limit)
    (hinner : ∃ visits, WriteCall (model.innermost id) model (derive (model.innermost id) model)
        visits ∧ Explores limit model visits (derive (model.innermost id) model).2)
    (hsize : model.nodes.size ≤ (derive (model.innermost id) model).2.nodes.size) :
    ∃ visits, WriteCall id model (writeAround derive id model) visits ∧
      Explores limit model visits (writeAround derive id model).2 ∧
      model.nodes.size ≤ (writeAround derive id model).2.nodes.size := by
  induction id using h.toWellFormed.container_induction with
  | leaf id hleaf =>
    rw [innermost_of_not_container hleaf] at hinner hsize
    obtain ⟨visits, hcall, hexplores⟩ := hinner
    rw [writeAround_of_leaf hleaf]
    exact ⟨visits, hcall, hexplores, hsize⟩
  | container id wrapper element hk ih =>
    have hsame : model.innermost id = model.innermost element := by
      rw [innermost, h.toWellFormed.unwrap_container hk, innermost]
    have hlt : element < id := h.element_lt id wrapper element hk
    rw [hsame] at hinner hsize
    obtain ⟨visits, hcall, hexplores, hle⟩ := ih (Nat.lt_trans hlt hid) hinner hsize
    rw [h.toWellFormed.writeAround_container hk]
    generalize writeAround derive element model = around at hcall hexplores hle
    obtain ⟨none | write, mid⟩ := around
    · exact ⟨_, .bare hk hcall, hexplores.look hid, hle⟩
    · have hext : mid.Extends 0 (mid.container wrapper write).2 := .container (Nat.zero_le _) _ _
      exact ⟨_, .wrapped hk hcall, (hexplores.container hle wrapper write).look hid,
        Nat.le_trans hle hext.size_le⟩

/-- Deriving write types within a number of levels comes to an end where fewer shapes lead nowhere.

**Proof sketch.** Induction on the number of levels. A level registers a shape that led nowhere, so
fewer of them are left for the next one. -/
theorem callsWithin_writeTypeWithin (limit depth : Nat) :
    CallsWithin limit depth (writeTypeWithin depth) := by
  induction depth with
  | zero =>
    intro pending model h hm
    exact absurd hm (Nat.not_lt_zero _)
  | succ depth ih =>
    intro pending model h hm id hid
    have hwrites : WritesWithin limit depth (writeTypeWithin depth) :=
      writesWithin_writeTypeWithin limit depth
    have hlt : model.innermost id < limit := Nat.lt_of_le_of_lt (h.innermost_le id) hid
    have hleaf := h.element?_innermost id
    have hsize := (writeCore_spec hwrites h hm hlt hleaf).toExtends.size_le
    obtain ⟨visits, hcall, hexplores, -⟩ :=
      exists_writeCall_around h hid (exists_writeCall_core hwrites ih h hm hlt hleaf) hsize
    exact ⟨visits, hcall, hexplores⟩

/-- Deriving the write type of a type below the limit comes to an end, also where other types are
unfinished. -/
theorem exists_writeCall (h : model.Coherent limit pending) (hid : id < limit) :
    ∃ visits, WriteCall id model (model.writeType id) visits ∧
      Explores limit model visits (model.writeType id).2 :=
  callsWithin_writeTypeWithin limit (model.nodes.size + 1) h
    (Nat.lt_succ_of_le (Nat.le_trans (unrecorded_le limit model) h.limit_le)) id hid

/-- Deriving the write type of a type in a model that can be reached comes to an end, with one
result and in one course, whatever types refer to each other. It looks only at types that were there
before, it makes a write type for none of them twice, and for no container, and the write types that
it adds are those.

**Proof sketch.** A type that is there is below the limit if that is the number of types. A number
that no type has leads to no write type, so nothing else is looked at. -/
theorem Reachable.writeType_terminates (h : model.Reachable) (id : TypeId) :
    ∃ visits : List Visit,
      (∀ (result : Derivation) (others : List Visit), WriteCall id model result others ↔
        result = model.writeType id ∧ others = visits) ∧
      (∀ visit ∈ visits, visit.type = id ∨ visit.type < model.nodes.size) ∧
      (newSources visits).Nodup ∧
      (∀ source ∈ newSources visits, source < model.nodes.size ∧
        (model.node source).element? = none) ∧
      (model.writeType id).2.writeSources model.nodes.size = newSources visits := by
  have hrun : ∀ {visits : List Visit}, WriteCall id model (model.writeType id) visits →
      ∀ (result : Derivation) (others : List Visit), WriteCall id model result others ↔
        result = model.writeType id ∧ others = visits := by
    intro visits hcall result others
    constructor
    · intro hother
      exact hcall.unique hother
    · rintro ⟨rfl, rfl⟩
      exact hcall
  by_cases hid : id < model.nodes.size
  · obtain ⟨visits, hcall, he⟩ := exists_writeCall h.settled hid
    refine ⟨visits, hrun hcall, fun visit hv => Or.inr (he.type_lt visit hv), he.nodup, ?_,
      he.sources_eq⟩
    intro source hs
    obtain ⟨visit, hvisit, rfl⟩ := List.mem_map.mp hs
    exact ⟨he.type_lt visit (List.mem_filter.mp hvisit).1, he.leaf _ hs⟩
  · have hno := not_hasWriteType_of_size_le (Nat.le_of_not_lt hid)
    have hleaf : (model.node id).element? = none := by
      rw [node_of_size_le (Nat.le_of_not_lt hid)]
      rfl
    have hinner : model.innermost id = id := innermost_of_not_container hleaf
    have hcall : WriteCall id model (model.writeType id) [{ type := id }] := by
      rw [writeType_of_not hno]
      exact .without hleaf (hinner ▸ hno)
    refine ⟨_, hrun hcall, by simp, by simp [newSources], by simp [newSources], ?_⟩
    rw [writeType_of_not hno]
    simp [writeSources, newSources]

/-- In the model of the sample document users list other users. The call for such a list comes to an
end, and makes one write type, that of users. -/
theorem Reachable.writeType_terminates_sample : ∃ visits : List Visit,
    WriteCall 24 (Model.ofDocument sampleDocument)
      ((Model.ofDocument sampleDocument).writeType 24) visits ∧ newSources visits = [23] := by
  obtain ⟨visits, hcall, -, -, -, hsources⟩ :=
    (Reachable.ofDocument sampleDocument).writeType_terminates 24
  refine ⟨visits, (hcall _ _).mpr ⟨rfl, rfl⟩, ?_⟩
  rw [← hsources]
  decide +kernel

end Model

end ClientGen
