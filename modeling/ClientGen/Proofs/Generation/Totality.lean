import ClientGen.Proofs.Appending
import ClientGen.Proofs.Generation.Imports

/-!
# A pass over types that can be written succeeds

A pass can fail on a built-in type that the language has no word for, on a type without a name, and
on a method that the language cannot express. Both languages have words for the built-in types that
every model begins with. The first two cases are therefore those of a document that brings in other
built-in types, or declares a schema without a name. Whatever is derived on the way has a name, and
adds no built-in types. The last case is that of a stream, and a language without streams is not
asked for any. So a pass over a model without such types gives all files, and it still does after
other types have been derived.

## Main definitions

* `ClientGen.Model.IsRenderable` — models whose types can be written.
* `ClientGen.Rendering.EndsWell` — rendering that ends with a value in any pass over a model that
  comes from deriving types.
* `ClientGen.Backend.IsTotal` — backends that render types and methods so, whatever these are.

## Main results

* `ClientGen.Model.IsRenderable.derivesTo` — deriving types adds none that cannot be written.
* `ClientGen.Rendering.EndsWell.spell` — spelling a type ends with a spelling.
* `ClientGen.Backend.IsTotal.files` — a backend that renders types and methods renders all files.
* `ClientGen.Model.Reachable.generate_succeeds` — a pass over a model whose types can be written
  succeeds in both languages.
-/

set_option autoImplicit false

namespace ClientGen

open Rendering

variable {α β : Type} {start mid model new : Model} {pass : Pass} {id : Nat}

/-! ## Models of types that can be written -/

namespace Model

/-- The built-in types are those that every model begins with, and all types that a file may declare
have names. -/
structure IsRenderable (model : Model) : Prop where
  settled : model.Settled
  builtIn : ∀ id : TypeId, id < model.nodes.size → (model.node id).kind = .intrinsic →
    model.nameOf id ∈ intrinsicNames
  isNamed : model.IsNamed

namespace IsRenderable

/-- Deriving types adds none that cannot be written.

**Proof sketch.** It adds containers, and derived types with names. -/
theorem derivesTo (h : model.IsRenderable) (hd : model.DerivesTo new) : new.IsRenderable := by
  have hkept : IsKeptByDeriving fun _ mid => mid.HasKinds (fun kind name =>
      (kind = .intrinsic → name ∈ intrinsicNames) ∧ (kind.IsDeclarable → name ≠ "")) 0 := by
    apply isKeptByDeriving_hasKinds
    · intro wrapper element name
      exact ⟨TypeKind.noConfusion, False.elim⟩
    · intro kind name hderived hname
      refine ⟨fun hk => ?_, fun _ => hname⟩
      rw [hk] at hderived
      exact hderived.elim
  have hnew := hkept.derivesTo h.settled hd fun id _ hlt => ⟨h.builtIn id hlt, h.isNamed id⟩
  refine ⟨h.settled.derivesTo hd, fun id hlt => (hnew id (Nat.zero_le _) hlt).1, ?_⟩
  intro id hdeclarable
  exact (hnew id (Nat.zero_le _) (Backend.lt_size_of_isDeclarable hdeclarable)).2 hdeclarable

/-- There are as many types at least after types have been derived. -/
lemma size_le (h : model.IsRenderable) (hd : model.DerivesTo new) :
    model.nodes.size ≤ new.nodes.size :=
  (h.settled.extends_of_derivesTo hd).size_le

end IsRenderable

end Model

/-! ## Ending with a value -/

namespace Rendering

/-- In any pass over a model that comes from deriving types, rendering ends with a value, and leaves
a model that comes from deriving more types. -/
def EndsWell (start : Model) (rendering : Rendering α) : Prop :=
  ∀ pass : Pass, start.DerivesTo pass.model →
    rendering.Ensures False pass fun _ after => pass.model.DerivesTo after.model

namespace EndsWell

variable {rendering first : Rendering α} {next : α → Rendering β}

/-! ### Programs -/

/-- A value ends well. -/
lemma pure (value : α) : EndsWell start (Pure.pure value : Rendering α) :=
  fun _ _ => Ensures.pure .refl

/-- One thing after another ends well if both do. -/
lemma bind (hfirst : first.EndsWell start) (hnext : ∀ value, (next value).EndsWell start) :
    (first >>= next).EndsWell start := by
  intro pass hpass
  refine (hfirst pass hpass).bind fun value after hafter => ?_
  exact (hnext value after (hpass.trans hafter)).imp fun _ _ hlast => hafter.trans hlast

/-- What is made of a value ends well if that does. -/
lemma map (hfirst : first.EndsWell start) (f : α → β) : (f <$> first).EndsWell start := by
  rw [← bind_pure_comp]
  exact hfirst.bind fun value => .pure (f value)

/-- Rendering the items of a list ends well if rendering each of them does. -/
lemma mapM {render : α → Rendering β} (items : List α)
    (hrender : ∀ item ∈ items, (render item).EndsWell start) :
    (items.mapM render).EndsWell start := by
  induction items with
  | nil => exact .pure []
  | cons item rest ih =>
    obtain ⟨hitem, hrest⟩ := List.forall_mem_cons.mp hrender
    rw [List.mapM_cons]
    exact hitem.bind fun _ => (ih hrest).bind fun _ => .pure _

/-- Going through the items of a list ends well if each step does. -/
lemma foldlM {step : β → α → Rendering β}
    (hstep : ∀ value item, (step value item).EndsWell start) (items : List α) :
    ∀ value : β, (items.foldlM step value).EndsWell start := by
  induction items with
  | nil =>
    intro value
    exact .pure value
  | cons item rest ih =>
    intro value
    rw [List.foldlM_cons]
    exact (hstep value item).bind ih

/-! ### What a backend asks -/

/-- Looking at the pass ends well if what follows does in that pass. -/
lemma get_bind {next : Pass → Rendering β}
    (h : ∀ pass : Pass, start.DerivesTo pass.model → (next pass).EndsWell pass.model) :
    (MonadState.get >>= next).EndsWell start :=
  fun pass hpass => Ensures.get_bind (h pass hpass pass .refl)

/-- Looking at a type ends well if what follows does with that type. -/
lemma node_bind {next : TypeNode → Rendering β}
    (h : ∀ mid : Model, start.DerivesTo mid → (next (mid.node id)).EndsWell mid) :
    (Rendering.node id >>= next).EndsWell start :=
  fun pass hpass => Ensures.node_bind (h pass.model hpass pass .refl)

/-- Counting a reference ends well. -/
lemma reference (id : TypeId) : (Rendering.reference id).EndsWell start := fun _ _ =>
  Model.DerivesTo.refl

/-- Going on to another file ends well. -/
lemma beginFile (file : FileKind) : (Rendering.beginFile file).EndsWell start := fun _ _ =>
  Model.DerivesTo.refl

/-- Asking a type with a name for one ends well. -/
lemma ensureNamed {node : TypeNode} (h : node.name ≠ "") :
    (Rendering.ensureNamed node).EndsWell start := by
  have hempty : node.name.isEmpty = false := by simpa using h
  rw [Rendering.ensureNamed, hempty]
  exact .pure ()

/-- Looking at a type that a file may declare, and asking it for a name, ends well if what follows
does with that type. -/
lemma namedNode_bind (h : start.IsRenderable) (hd : (start.node id).kind.IsDeclarable)
    {next : TypeNode → Rendering β}
    (hnext : ∀ mid : Model, mid.IsRenderable → (next (mid.node id)).EndsWell mid) :
    (Rendering.node id >>= fun node => Rendering.ensureNamed node >>= fun _ =>
      next node).EndsWell start := by
  refine node_bind fun mid hmid => ?_
  have hlt : id < start.nodes.size := Backend.lt_size_of_isDeclarable hd
  have hkind : (mid.node id).kind = (start.node id).kind :=
    (h.settled.extends_of_derivesTo hmid).kind_eq hlt
  have hnamed : (mid.node id).name ≠ "" := (h.derivesTo hmid).isNamed id (hkind ▸ hd)
  exact (ensureNamed hnamed).bind fun _ => hnext mid (h.derivesTo hmid)

/-- The head of a file ends well. -/
lemma fileHead (head : Banner → String) : (ClientGen.fileHead head).EndsWell start :=
  get_bind fun _ _ => .pure _

/-- Deriving a type ends well if what follows does with that type, in the model with it. -/
lemma derived_bind {derive : Model → Model.Derivation} {next : Option TypeId → Rendering β}
    (hderive : ∀ model : Model, model.DerivesTo (derive model).2)
    (h : ∀ mid : Model, start.DerivesTo mid → (next (derive mid).1).EndsWell (derive mid).2) :
    (Rendering.derived derive >>= next).EndsWell start := by
  intro pass hpass
  have hderived : (Rendering.derived derive).Ensures False pass fun found after =>
      found = (derive pass.model).1 ∧ after.model = (derive pass.model).2 := by
    unfold Rendering.derived
    refine Ensures.get_bind ?_
    generalize derive pass.model = derivation
    obtain ⟨none | found, model⟩ := derivation
    · exact ⟨rfl, rfl⟩
    · exact ⟨rfl, rfl⟩
  refine hderived.bind fun found after hafter => ?_
  obtain ⟨rfl, hmodel⟩ := hafter
  have hnext := h pass.model hpass after (by rw [hmodel]; exact .refl)
  refine hnext.imp fun _ last hlast => ?_
  rw [hmodel] at hlast
  exact (hderive pass.model).trans hlast

/-- Looking for the type that a parameter is sent as ends well if what follows does with a type that
is there. -/
lemma sentType_bind (hstart : start.Settled) {parameter : Parameter}
    (hp : parameter.type < start.nodes.size) {next : TypeId → Rendering β}
    (h : ∀ (mid : Model) (id : Nat), start.DerivesTo mid → id < mid.nodes.size →
      (next id).EndsWell mid) :
    (Rendering.sentType parameter >>= next).EndsWell start := by
  unfold Rendering.sentType
  split
  · rw [writtenType, bind_assoc]
    refine derived_bind (fun _ => .writeType _ .refl) fun mid hmid => ?_
    have hle := (hstart.extends_of_derivesTo hmid).size_le
    have hlt := (Model.writeType_spec (hstart.derivesTo hmid) (Nat.lt_of_lt_of_le hp hle)).lt_size
    exact h _ _ (hmid.writeType parameter.type) hlt
  · exact h start parameter.type .refl hp

/-- Looking for the name of a request type ends well. -/
lemma requestName (takesRequests : Bool) (method : Method) :
    (ClientGen.requestName takesRequests method).EndsWell start := by
  unfold ClientGen.requestName
  split
  · refine derived_bind (fun _ => .requestType _ .refl) fun mid _ => ?_
    split
    · exact node_bind fun _ _ => .pure _
    · exact .pure _
  · exact .pure _

/-! ### Spelling -/

/-- Spelling a type ends with a spelling, if the language has words for the built-in types that
every model begins with.

**Proof sketch.** Induction on the bound. The elements of a container have a smaller number, so the
bound is met at a type that is no container, and that is built in or has a name. -/
theorem spell {spellings : TypeSpellings}
    (hwords : ∀ name ∈ intrinsicNames, (spellings.intrinsic? name).isSome = true)
    (h : start.IsRenderable) (hid : id < start.nodes.size) :
    (spellings.spell id).EndsWell start := by
  have hleaf : ∀ {model : Model} {id : Nat}, model.IsRenderable → id < model.nodes.size →
      (model.node id).element? = none → (spellings.leaf (model.node id)).EndsWell model := by
    intro model id hmodel hlt hleaf
    unfold TypeSpellings.leaf
    split
    next hbuiltIn =>
      have hname := hmodel.builtIn id hlt (by simpa [TypeNode.isIntrinsic] using hbuiltIn)
      obtain ⟨spelling, hspelling⟩ := Option.isSome_iff_exists.mp (hwords _ hname)
      rw [Model.nameOf] at hspelling
      rw [hspelling]
      exact .pure spelling
    next hbuiltIn =>
      refine (ensureNamed (hmodel.isNamed id ?_)).bind fun _ => get_bind fun _ _ => .pure _
      cases hk : (model.node id).kind with
      | intrinsic => simp [TypeNode.isIntrinsic, hk] at hbuiltIn
      | container wrapper element => exact Model.kind_ne_container hleaf wrapper element hk
      | _ => trivial
  have hwithin : ∀ (depth : Nat) {start : Model} {id : Nat}, start.IsRenderable →
      id < start.nodes.size → id ≤ depth → (spellings.spellWithin depth id).EndsWell start := by
    intro depth
    induction depth with
    | zero =>
      intro start id h hid hle
      refine (reference id).bind fun _ => node_bind fun mid hmid => ?_
      refine hleaf (h.derivesTo hmid) (Nat.lt_of_lt_of_le hid (h.size_le hmid)) ?_
      cases he : (mid.node id).element? with
      | none => rfl
      | some element =>
        obtain ⟨wrapper, hk⟩ := Model.exists_container he
        have hlt := (h.derivesTo hmid).settled.element_lt id wrapper element hk
        exact absurd (Nat.lt_of_lt_of_le hlt hle) (Nat.not_lt_zero _)
    | succ depth ih =>
      intro start id h hid hle
      refine (reference id).bind fun _ => node_bind fun mid hmid => ?_
      have hnew : mid.IsRenderable := h.derivesTo hmid
      have hlt : id < mid.nodes.size := Nat.lt_of_lt_of_le hid (h.size_le hmid)
      split
      next wrapper element hk =>
        have helement : element < id := hnew.settled.element_lt id wrapper element hk
        have hdepth : element ≤ depth := Nat.le_of_lt_succ (Nat.lt_of_lt_of_le helement hle)
        exact (ih hnew (Nat.lt_trans helement hlt) hdepth).bind fun _ =>
          get_bind fun _ _ => .pure _
      next hk => exact hleaf hnew hlt (Model.element?_eq_none hk)
  exact hwithin id h hid (Nat.le_refl id)

end EndsWell

end Rendering

/-! ## Languages -/

/-- A backend renders types and methods, whatever these are, in a model whose types can be written.
It need not render streams if it has none. -/
structure Backend.IsTotal (backend : Backend) : Prop where
  type : ∀ {model : Model}, model.IsRenderable → ∀ (level : Nat) (id : TypeId),
    (model.node id).kind.IsDeclarable → (backend.type level id).EndsWell model
  method : ∀ {model : Model}, model.IsRenderable → ∀ (level : Nat) (method : Method),
    method.TypesBelow model.nodes.size → (backend.method level method).EndsWell model
  streamer : backend.hasStreams = true → ∀ {model : Model}, model.IsRenderable →
    ∀ (level : Nat) (method : Method), method.TypesBelow model.nodes.size →
      (backend.streamer level method).EndsWell model
  methodsHead : ∀ model : Model, backend.methodsHead.EndsWell model
  methodsEnd : ∀ model : Model, backend.methodsEnd.EndsWell model
  streamsHead : ∀ model : Model, backend.streamsHead.EndsWell model
  modelsHead : ∀ model : Model, backend.modelsHead.EndsWell model
  modelsEnd : ∀ model : Model, backend.modelsEnd.EndsWell model

namespace Python

variable {method : Method} {parameter : Parameter}

/-- There are words for the built-in types. -/
lemma isSome_intrinsic? : ∀ name ∈ intrinsicNames, (intrinsic? name).isSome = true := by
  decide

/-- Spelling a type ends with a spelling. -/
lemma endsWell_spell (h : model.IsRenderable) (hid : id < model.nodes.size) :
    (spellings.spell id).EndsWell model :=
  .spell isSome_intrinsic? h hid

/-- A type is rendered as a class. -/
lemma endsWell_type (h : model.IsRenderable) (level : Nat)
    (hd : (model.node id).kind.IsDeclarable) : (type level id).EndsWell model := by
  refine EndsWell.namedNode_bind h hd fun mid hmid => ?_
  refine (EndsWell.mapM _ fun p hp => ?_).bind fun _ => .pure _
  have hmem : p ∈ (mid.node id).properties := by
    rcases List.mem_append.mp hp with hp | hp
    · exact (List.mem_filter.mp hp).1
    · exact (List.mem_filter.mp hp).1
  have hp : p.type < mid.nodes.size := hmid.settled.property_lt id p hmem
  exact ((endsWell_spell hmid hp).bind fun _ => .pure _).bind fun _ => .pure _

/-- A parameter is rendered as an argument. -/
lemma endsWell_argumentOf (h : model.IsRenderable) (hp : parameter.type < model.nodes.size) :
    (argumentOf parameter).EndsWell model :=
  EndsWell.sentType_bind h.settled hp fun _ _ hmid hlt =>
    (endsWell_spell (h.derivesTo hmid) hlt).bind fun _ => .pure _

/-- The type of the value that a call returns is rendered. -/
lemma endsWell_returns (h : model.IsRenderable) (hm : method.TypesBelow model.nodes.size) :
    (returns method).EndsWell model := by
  have hspell := endsWell_spell h hm.returnType_lt
  unfold returns
  split
  · exact hspell.bind fun _ => .pure _
  · split
    · exact .pure _
    · exact hspell.bind fun _ => .pure _

/-- A method is rendered. -/
lemma endsWell_method (h : model.IsRenderable) (level : Nat)
    (hm : method.TypesBelow model.nodes.size) : (Python.method level method).EndsWell model := by
  refine EndsWell.bind (EndsWell.bind (endsWell_returns h hm) fun _ => ?_) fun _ => .pure _
  refine (EndsWell.mapM _ fun p hp => ?_).bind fun _ => .pure _
  exact endsWell_argumentOf h (hm.allParameter_lt p hp)

/-- The backend renders whatever there is. -/
theorem isTotal_backend : backend.IsTotal where
  type h level _ hd := endsWell_type h level hd
  method h level _ hm := endsWell_method h level hm
  streamer hstreams := absurd hstreams Bool.false_ne_true
  methodsHead _ := .fileHead _
  methodsEnd _ := .pure _
  streamsHead _ := .pure _
  modelsHead _ := .fileHead _
  modelsEnd _ := .pure _

end Python

namespace TypeScript

variable {method : Method} {parameter : Parameter}

/-- There are words for the built-in types. -/
lemma isSome_intrinsic? : ∀ name ∈ intrinsicNames, (intrinsic? name).isSome = true := by
  decide

/-- Spelling a type ends with a spelling. -/
lemma endsWell_spell (h : model.IsRenderable) (hid : id < model.nodes.size) :
    (spellings.spell id).EndsWell model :=
  .spell isSome_intrinsic? h hid

/-- A type is rendered as an interface. -/
lemma endsWell_type (h : model.IsRenderable) (level : Nat)
    (hd : (model.node id).kind.IsDeclarable) : (type level id).EndsWell model := by
  refine EndsWell.namedNode_bind h hd fun mid hmid => ?_
  refine (EndsWell.mapM _ fun p hp => ?_).bind fun _ => .pure _
  have hp : p.type < mid.nodes.size := hmid.settled.property_lt id p hp
  exact (endsWell_spell hmid hp).bind fun _ => .pure _

/-- The parameters are rendered as arguments. -/
lemma endsWell_arguments (h : model.IsRenderable) (request : String)
    (hm : method.TypesBelow model.nodes.size) : (arguments request method).EndsWell model := by
  unfold arguments
  split
  · refine EndsWell.mapM _ fun p hp => ?_
    exact EndsWell.sentType_bind h.settled (hm.allParameter_lt p hp) fun _ _ hmid hlt =>
      (endsWell_spell (h.derivesTo hmid) hlt).bind fun _ => .pure _
  · exact .pure _

/-- The parts of a method are rendered. -/
lemma endsWell_call (h : model.IsRenderable) (hm : method.TypesBelow model.nodes.size) :
    (call method).EndsWell model := by
  refine (EndsWell.requestName true method).bind fun request => ?_
  refine (endsWell_arguments h request hm).bind fun _ => ?_
  refine (endsWell_spell h hm.returnType_lt).bind fun _ => ?_
  exact (EndsWell.mapM _ fun r hr => endsWell_spell h (hm.error_lt r hr)).bind fun _ => .pure _

/-- The backend renders whatever there is. -/
theorem isTotal_backend : backend.IsTotal where
  type h level _ hd := endsWell_type h level hd
  method h _ _ hm := (endsWell_call h hm).bind fun _ => .pure _
  streamer _ _ h _ _ hm := (endsWell_call h hm).bind fun _ => .pure _
  methodsHead _ := .fileHead _
  methodsEnd _ := .pure _
  streamsHead _ := .fileHead _
  modelsHead _ := .fileHead _
  modelsEnd _ := .pure _

end TypeScript

/-- Both languages render whatever there is. -/
theorem Language.isTotal_backend (language : Language) : language.backend.IsTotal := by
  cases language with
  | python => exact Python.isTotal_backend
  | typeScript => exact TypeScript.isTotal_backend

/-! ## Passes -/

namespace Backend.IsTotal

variable {backend : Backend}

/-- Looking at a type and declaring it ends well. -/
lemma declare (hb : backend.IsTotal) (h : model.IsRenderable) (declarations : Declarations)
    (entry : String × TypeId) : (backend.declare declarations entry).EndsWell model := by
  refine EndsWell.node_bind fun mid hmid => ?_
  dsimp only
  have hmidRenderable : mid.IsRenderable := h.derivesTo hmid
  split
  · exact .pure _
  next tally htally =>
    have hdeclarable : (mid.node entry.2).kind.IsDeclarable := by
      cases hk : (mid.node entry.2).kind with
      | intrinsic => simp [tallied?, hk] at htally
      | container wrapper element => simp [tallied?, hk] at htally
      | _ => trivial
    refine (EndsWell.ensureNamed (hmidRenderable.isNamed _ hdeclarable)).bind fun _ => ?_
    exact (hb.type hmidRenderable 0 entry.2 hdeclarable).bind fun _ => .pure _

/-- Declaring types in rounds ends well. -/
lemma declareRounds (hb : backend.IsTotal) (rounds : Nat) : ∀ {model : Model},
    model.IsRenderable → ∀ declarations : Declarations,
      (backend.declareRounds rounds declarations).EndsWell model := by
  induction rounds with
  | zero =>
    intro model _ declarations
    exact .pure declarations
  | succ rounds ih =>
    intro model h declarations
    refine EndsWell.get_bind fun pass hpass => ?_
    dsimp only
    split
    · exact .pure declarations
    · exact (EndsWell.foldlM (hb.declare (h.derivesTo hpass)) _ _).bind fun walked =>
        ih (h.derivesTo hpass) walked

/-- The file of types ends well. -/
lemma modelsFile (hb : backend.IsTotal) (h : model.IsRenderable) :
    backend.modelsFile.EndsWell model :=
  (EndsWell.beginFile .models).bind fun _ =>
    (EndsWell.get_bind fun _ hpass => hb.declareRounds _ (h.derivesTo hpass) {}).bind fun _ =>
      (hb.modelsHead model).bind fun _ => (hb.modelsEnd model).bind fun _ => .pure _

/-- Rendering the methods of a model ends well if rendering each of them does. -/
lemma endsWell_methods (h : model.IsRenderable) {render : Method → Rendering String}
    (hrender : ∀ method : Method, method.TypesBelow model.nodes.size →
      (render method).EndsWell model) : (model.methods.values.mapM render).EndsWell model :=
  EndsWell.mapM _ fun method hmethod => hrender method (h.settled.typesBelow hmethod)

/-- The file of methods ends well. -/
lemma methodsFile (hb : backend.IsTotal) (h : model.IsRenderable) :
    backend.methodsFile.EndsWell model := by
  refine (EndsWell.beginFile .methods).bind fun _ => EndsWell.get_bind fun pass hpass => ?_
  have hrender := h.derivesTo hpass
  exact (endsWell_methods hrender (hb.method hrender 1)).bind fun _ =>
    (hb.methodsHead _).bind fun _ => (hb.methodsEnd _).bind fun _ => .pure _

/-- The file of streams ends well, if there is one. -/
lemma streamsFile (hb : backend.IsTotal) (h : model.IsRenderable)
    (hstreams : backend.hasStreams = true) : backend.streamsFile.EndsWell model := by
  refine (EndsWell.beginFile .streams).bind fun _ => EndsWell.get_bind fun pass hpass => ?_
  have hrender := h.derivesTo hpass
  exact (endsWell_methods hrender (hb.streamer hstreams hrender 1)).bind fun _ =>
    (hb.streamsHead _).bind fun _ => (hb.methodsEnd _).bind fun _ => .pure _

/-- All files of a pass end well. -/
theorem files (hb : backend.IsTotal) (h : model.IsRenderable) : backend.files.EndsWell model := by
  refine (hb.methodsFile h).bind fun _ => ?_
  dsimp only
  split
  next hstreams =>
    exact ((hb.streamsFile h hstreams).map some).bind fun _ =>
      (hb.modelsFile h).bind fun _ => .pure _
  next =>
    exact (EndsWell.pure none).bind fun _ => (hb.modelsFile h).bind fun _ => .pure _

end Backend.IsTotal

/-- A pass succeeds in both languages, if the built-in types of the model are those that every model
begins with and its declared schemas have names. It does so too after types have been derived and
other passes have been made.

**Proof sketch.** All that is done before the pass, and in it, derives types. So the types of the
model can be written all along. -/
theorem Model.Reachable.generate_succeeds (h : model.Reachable)
    (hbuiltIn : ∀ id : TypeId, id < model.nodes.size → (model.node id).kind = .intrinsic →
      model.nameOf id ∈ intrinsicNames)
    (hnamed : ∀ id : TypeId, (model.node id).kind = .component → model.nameOf id ≠ "")
    (calls : List Call) (hcalls : ∀ call ∈ calls, call.IsDerivation) (language : Language)
    (apiVersion packageName : String) :
    ∃ files after, (model.performAll calls).generate language.backend apiVersion packageName =
      (.ok files, after) := by
  have hmodel : model.IsRenderable := ⟨h.settled, hbuiltIn, h.isNamed hnamed⟩
  have hlater : (model.performAll calls).IsRenderable :=
    hmodel.derivesTo (derivesTo_performAll hcalls)
  obtain ⟨files, after, hrun, -⟩ := (language.isTotal_backend.files hlater
    { model := model.performAll calls, apiVersion, packageName } .refl).exists_ok
  exact ⟨files, after, hrun⟩

/-- The types of the model of the sample document can be written. A pass succeeds in each language
after all types have been derived and a pass for the other language has been made. -/
theorem Model.Reachable.generate_succeeds_sample :
    (∃ files after, ((Model.ofDocument sampleDocument).performAll
      [.deriveAll, .generate .typeScript "4.0" "sample"]).generate Language.python.backend "4.0"
        "sample" = (.ok files, after)) ∧
    ∃ files after, ((Model.ofDocument sampleDocument).performAll
      [.deriveAll, .generate .python "4.0" "sample"]).generate Language.typeScript.backend "4.0"
        "sample" = (.ok files, after) := by
  have hbuiltIn : ∀ id < (Model.ofDocument sampleDocument).nodes.size,
      ((Model.ofDocument sampleDocument).node id).kind = .intrinsic →
        (Model.ofDocument sampleDocument).nameOf id ∈ intrinsicNames := by
    decide
  have hall : ∀ id < (Model.ofDocument sampleDocument).nodes.size,
      (Model.ofDocument sampleDocument).nameOf id ≠ "" := by
    decide
  have hnamed : ∀ id : TypeId, ((Model.ofDocument sampleDocument).node id).kind = .component →
      (Model.ofDocument sampleDocument).nameOf id ≠ "" := by
    intro id hk
    exact hall id (lt_size_of_kind_ne (by rw [hk]; exact TypeKind.noConfusion))
  have h : (Model.ofDocument sampleDocument).Reachable := .ofDocument sampleDocument
  constructor
  · exact h.generate_succeeds hbuiltIn hnamed _ (by simp [Call.IsDerivation]) .python _ _
  · exact h.generate_succeeds hbuiltIn hnamed _ (by simp [Call.IsDerivation]) .typeScript _ _

end ClientGen
