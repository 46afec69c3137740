import ClientGen.Proofs.Reachable

/-!
# The kinds of derived types

Deriving a write type adds write types and containers, and no types of other kinds. Derived types
have names that are not empty, since they begin with a word that says what they are.

## Main definitions

* `ClientGen.TypeKind.IsDeclarable`, `ClientGen.TypeKind.IsWritten` — the kinds that a file may
  declare, and those that deriving a write type adds.
* `ClientGen.Model.HasKinds` — what holds of the kinds and the names of types.
* `ClientGen.Model.IsNamed`, `ClientGen.Model.HasDerivedNames` — models in which the types that a
  file may declare have names, and those in which derived types do.
* `ClientGen.Model.HasNoRequests` — models without request types.

## Main results

* `ClientGen.Model.isKeptByWriting_hasKinds` — what holds of containers and of write types with a
  name is kept by deriving write types.
* `ClientGen.Model.isKeptByDeriving_hasKinds` — what holds of containers and of derived types with a
  name is kept by deriving types.
* `ClientGen.Model.Settled.isWritten_writeType` — the types that deriving a write type adds.
* `ClientGen.Model.Reachable.isNamed` — derived types have names in all models that can be reached.
-/

set_option autoImplicit false

namespace ClientGen

/-- A kind of types that a file of types may declare. -/
def TypeKind.IsDeclarable : TypeKind → Prop
  | .intrinsic => False
  | .container _ _ => False
  | _ => True

/-- A kind of types that deriving a write type adds. -/
def TypeKind.IsWritten : TypeKind → Prop
  | .container _ _ => True
  | .write _ => True
  | _ => False

namespace Model

variable {model : Model} {base : String} {kind : TypeKind} {schema : Json} {id i : Nat}

/-! ## Names -/

/-- A text with another one after it is not empty if it is not. -/
lemma append_ne_empty {first : String} (h : first ≠ "") (second : String) :
    first ++ second ≠ "" := by
  intro hc
  have hlist : first.toList ++ second.toList = [] := by
    rw [← String.toList_append, hc]
    rfl
  exact h (String.toList_inj.mp (List.append_eq_nil_iff.mp hlist).1)

/-- A free name that is made out of another one is not empty if that is not. -/
lemma freeName_ne_empty (h : base ≠ "") :
    ∀ tries number, model.freeName base tries number ≠ ""
  | 0, _ => h
  | tries + 1, number => by
    rw [freeName]
    split
    · exact freeName_ne_empty h tries (number + 1)
    · exact append_ne_empty h _

/-- The name that a new type gets is not empty if the name that it is made with is not. -/
lemma uniqueName_ne_empty (h : base ≠ "") : model.uniqueName base ≠ "" := by
  rw [uniqueName]
  split
  · exact freeName_ne_empty h _ _
  · exact h

/-! ## What is added -/

/-- The kinds and the names of the types from a number on satisfy a predicate. -/
def HasKinds (Q : TypeKind → String → Prop) (first : Nat) (model : Model) : Prop :=
  ∀ id : TypeId, first ≤ id → id < model.nodes.size → Q (model.node id).kind (model.nameOf id)

section HasKinds

variable {Q : TypeKind → String → Prop} {first : Nat}

/-- Adding a type of which the predicate holds. -/
lemma HasKinds.add (h : model.HasKinds Q first) (hnew : Q kind (model.uniqueName base)) :
    (model.add base kind schema).2.HasKinds Q first := by
  intro id hle hlt
  rw [size_nodes_add] at hlt
  rw [nameOf, node_add]
  split_ifs with hid
  · exact hnew
  · exact h id hle (Nat.lt_of_le_of_ne (Nat.le_of_lt_succ hlt) hid)

/-- Registering a type of which the predicate holds. -/
lemma HasKinds.register {key : String} (h : model.HasKinds Q first)
    (hnew : Q kind (model.uniqueName base)) :
    (model.register key base kind schema).HasKinds Q first :=
  h.add hnew

/-- What holds of containers and of write types with a name is kept by deriving write types. -/
theorem isKeptByWriting_hasKinds (first : Nat)
    (hcontainer : ∀ wrapper element name, Q (.container wrapper element) name)
    (hwrite : ∀ source name, name ≠ "" → Q (.write source) name) :
    IsKeptByWriting fun _ model => model.HasKinds Q first where
  container wrapper _ _ _ _ h := h.add (hcontainer wrapper _ _)
  register {_ _ model source} _ _ h := by
    have hname : model.uniqueName ("Write" ++ (model.node source).name) ≠ "" :=
      uniqueName_ne_empty (append_ne_empty (by decide) _)
    exact h.register (hwrite source _ hname)
  fill {_ _ model write source node properties} _ _ _ _ _ h id hle hlt := by
    rw [kind_fillWrite, nameOf_fillWrite]
    refine h id hle ?_
    rwa [fillWrite, refer, size_nodes_modify, size_nodes_modify] at hlt

/-- What holds of containers and of derived types with a name is kept by deriving types. -/
theorem isKeptByDeriving_hasKinds (first : Nat)
    (hcontainer : ∀ wrapper element name, Q (.container wrapper element) name)
    (hderived : ∀ kind name, kind.IsDerived → name ≠ "" → Q kind name) :
    IsKeptByDeriving fun _ model => model.HasKinds Q first where
  toIsKeptByWriting := isKeptByWriting_hasKinds first hcontainer fun _ name =>
    hderived _ name trivial
  registerRequest {model} method _ h := by
    have hname : model.uniqueName (requestName method.operationId) ≠ "" :=
      uniqueName_ne_empty (append_ne_empty (by decide) _)
    exact h.register (hderived _ _ trivial hname)
  fillRequest {_ model request operationId} properties _ _ h id hle hlt := by
    rw [kind_fillRequest, nameOf_fillRequest]
    refine h id hle ?_
    rwa [fillRequest, size_nodes_modify] at hlt

end HasKinds

/-- Deriving a write type adds containers and write types to those that have been added. -/
theorem Settled.isWritten_writeType (h : model.Settled) {first : Nat}
    (hw : model.HasKinds (fun kind _ => kind.IsWritten) first) (id : TypeId) :
    (Model.writeType id model).2.HasKinds (fun kind _ => kind.IsWritten) first :=
  (isKeptByWriting_hasKinds first (fun _ _ _ => trivial) fun _ _ _ => trivial).writeType h id hw

/-- The types that a file may declare have names. -/
def IsNamed (model : Model) : Prop :=
  ∀ id : TypeId, (model.node id).kind.IsDeclarable → model.nameOf id ≠ ""

/-- Deriving a write type adds no types without names that a file may declare. -/
lemma IsNamed.writeType (h : model.IsNamed) (hset : model.Settled) (id : TypeId) :
    (Model.writeType id model).2.IsNamed := by
  intro i hi
  have hkept : IsKeptByWriting fun _ new =>
      new.HasKinds (fun kind name => kind.IsDeclarable → name ≠ "") 0 :=
    isKeptByWriting_hasKinds 0 (fun _ _ _ hc => hc.elim) fun _ _ hname _ => hname
  have hlt : i < (Model.writeType id model).2.nodes.size :=
    lt_size_of_kind_ne fun hk => by rw [hk] at hi; exact hi
  exact hkept.writeType hset id (fun i _ _ => h i) i (Nat.zero_le _) hlt hi

/-- Derived types have names. -/
def HasDerivedNames (model : Model) : Prop :=
  model.HasKinds (fun kind name => kind.IsDerived → name ≠ "") 0

/-- A model without derived types has derived types with names only. -/
lemma Fresh.hasDerivedNames (h : model.Fresh) : model.HasDerivedNames :=
  fun id _ _ hd => absurd hd (h.not_isDerived id)

/-- Derived types have names in all models that can be reached. -/
theorem isInvariant_hasDerivedNames : IsInvariant fun _ model => model.HasDerivedNames where
  toIsKeptByDeriving :=
    isKeptByDeriving_hasKinds 0 (fun _ _ _ hd => hd.elim) fun _ _ _ hname _ => hname
  initial document := (Fresh.initial document).hasDerivedNames
  ofDocument document := (Fresh.ofDocument document).hasDerivedNames
  intrinsic _ _ h := h.add fun hd => hd.elim
  retain _ _ _ h id hle hlt := h id hle hlt

/-- If the declared schemas of a model that can be reached have names, all types that a file may
declare do. -/
theorem Reachable.isNamed (h : model.Reachable)
    (hnamed : ∀ id : TypeId, (model.node id).kind = .component → model.nameOf id ≠ "") :
    model.IsNamed := by
  have hderived := isInvariant_hasDerivedNames.of_reachable h
  intro id hd
  cases hk : (model.node id).kind with
  | component => exact hnamed id hk
  | request operationId =>
    have hi : (model.node id).kind.IsDerived := by rw [hk]; trivial
    exact hderived id (Nat.zero_le _) (lt_size_of_isDerived hi) hi
  | write source =>
    have hi : (model.node id).kind.IsDerived := by rw [hk]; trivial
    exact hderived id (Nat.zero_le _) (lt_size_of_isDerived hi) hi
  | _ => rw [hk] at hd; exact hd.elim

/-- No type is a request type. -/
def HasNoRequests (model : Model) : Prop :=
  ∀ (id : TypeId) (operationId : String), (model.node id).kind ≠ .request operationId

/-- A model without derived types has no request types. -/
lemma Fresh.hasNoRequests (h : model.Fresh) : model.HasNoRequests := fun id operationId hk =>
  h.not_isDerived id (by rw [hk]; trivial)

/-- Deriving a write type adds no request types. -/
lemma HasNoRequests.writeType (h : model.HasNoRequests) (hset : model.Settled) (id : TypeId) :
    (Model.writeType id model).2.HasNoRequests := by
  intro i operationId hi
  have hkept : IsKeptByWriting fun _ new =>
      new.HasKinds (fun kind _ => kind ≠ .request operationId) 0 :=
    isKeptByWriting_hasKinds 0 (fun _ _ _ => TypeKind.noConfusion) fun _ _ _ => TypeKind.noConfusion
  have hlt : i < (Model.writeType id model).2.nodes.size :=
    lt_size_of_kind_ne (by rw [hi]; exact TypeKind.noConfusion)
  exact hkept.writeType hset id (fun i _ _ => h i operationId) i (Nat.zero_le _) hlt hi

end Model

end ClientGen
