import ClientGen.Proofs.Components
import ClientGen.Proofs.Occurrences

/-!
# References to declared types

A declared type is known by a reference: the stem of the document and its name. A `$ref` member
with that reference is looked up among the references and leads to the declared type. The
reference as a text, or as the `$ref` member of the schema of a request body, is looked up among
the names by what it ends with. That finds the declared type if its name has no slash and was free
when the type was declared, and otherwise it does not.

## Main definitions

* `ClientGen.Model.IsKnownAs` — that a declared type has the name that its reference ends with.
* `ClientGen.Model.FindsPlainlyNamed` — outcomes that are no declared type whose name has a slash.

## Main results

* `ClientGen.Model.FindsPlainlyNamed.resolveReferenceWithin` — what a text cannot lead to.
* `ClientGen.Model.Declares.resolveReferenceWithin_iff` — when the reference as a text leads to
  the declared type.
* `ClientGen.Model.component_references` — what each way to refer to a declared type leads to.
-/

set_option autoImplicit false

namespace ClientGen

/-- A schema refers to another by its `$ref` member exactly if that is a text. -/
lemma Schema.ofJson_eq_link_iff {schema : Json} {reference : String} :
    Schema.ofJson schema = .link reference ↔ schema.getString? "$ref" = some reference := by
  cases schema with
  | object members =>
    show _ ↔ stringMember? "$ref" members = some reference
    rw [ofJson]
    cases stringMember? "$ref" members with
    | some other => simp
    | none =>
      split_ifs
      · cases ofMember? "items" false members <;> simp
      · cases ofMember? "additionalProperties" true members <;> simp
      · simp
  | _ => simp [ofJson, Json.getString?, Json.get?]

namespace Model

variable {model : Model} {stem name reference : String} {id : Nat}

/-! ## Texts that refer to types -/

/-- The stem of a reference to a declared schema ends with a slash. -/
lemma exists_schemaReferenceStem_eq (document : Document) :
    ∃ s, document.schemaReferenceStem.toList = s ++ ['/'] := by
  unfold Document.schemaReferenceStem
  split
  · exact ⟨"#/definitions".toList, by decide⟩
  · exact ⟨"#/components/schemas".toList, by decide⟩

/-- The reference to a declared schema whose name has no slash is not one to a request body. -/
lemma isBodyReference_append (document : Document) (hname : '/' ∉ name.toList) :
    isBodyReference (document.schemaReferenceStem ++ name) = false := by
  have hpattern : "/requestBodies/".toList = "/requestBodies".toList ++ ['/'] := by decide
  rw [Bool.eq_false_iff, isBodyReference, ne_eq, Text.contains_iff, String.toList_append, hpattern]
  intro h
  have hstem := Text.infix_of_infix_append h hname
  rw [← hpattern, ← Text.contains_iff] at hstem
  unfold Document.schemaReferenceStem at hstem
  split at hstem
  · exact absurd hstem (by decide)
  · exact absurd hstem (by decide)

/-! ### What a text cannot lead to -/

/-- A type that is not a declared one, or whose name has no slash. -/
def IsPlainlyNamed (model : Model) (id : TypeId) : Prop :=
  (model.node id).kind = .component → '/' ∉ (model.nameOf id).toList

/-- The type that was found, if any, is not a declared one whose name has a slash. -/
def FindsPlainlyNamed (result : Resolved) : Prop :=
  ∀ type, result.1 = .ok type → result.2.IsPlainlyNamed type

namespace FindsPlainlyNamed

/-- A mistake. -/
lemma error (error : SpecError) (model : Model) : FindsPlainlyNamed (.error error, model) :=
  fun _ h => absurd h (by simp)

/-- A type of another kind than the declared ones. -/
lemma of_kind_ne (h : (model.node id).kind ≠ .component) : FindsPlainlyNamed (.ok id, model) :=
  fun _ hok hk => absurd (Except.ok.inj hok ▸ hk) h

/-- A type with the name that a reference ends with. -/
lemma of_name (h : model.WellFormed) (hid : model.names[referenceName reference]? = some id) :
    FindsPlainlyNamed (.ok id, model) := by
  intro type hok _
  obtain rfl := Except.ok.inj hok
  rw [((h.names_iff _ _).mp hid).2]
  exact slash_not_mem_referenceName reference

/-- A built-in type. -/
lemma intrinsic (model : Model) (name : String) :
    FindsPlainlyNamed (.ok (model.intrinsic name).1, (model.intrinsic name).2) := by
  apply of_kind_ne
  rcases add_of_intrinsic model name with ⟨id, hid, he⟩ | he
  · rw [he, (intrinsic?_eq_some hid).2]
    exact TypeKind.noConfusion
  · rw [he, fst_add, node_add_self]
    exact TypeKind.noConfusion

/-- A container. -/
lemma wrap (wrapper : Wrapper) (result : Resolved) :
    FindsPlainlyNamed (wrapResolved wrapper result) := by
  obtain ⟨problem | element, model⟩ := result
  · exact error problem model
  · have hk : ((model.container wrapper element).2.node
        (model.container wrapper element).1).kind ≠ .component := by
      rw [kind_container]
      exact TypeKind.noConfusion
    exact of_kind_ne hk

/-- A schema that is neither a reference nor a container. -/
lemma resolveScalar (type format : Option String) (fragment : Json) (model : Model) :
    FindsPlainlyNamed (Model.resolveScalar type format fragment model) := by
  unfold Model.resolveScalar
  dsimp only
  split
  · exact intrinsic model "int64"
  · exact intrinsic model _
  · exact intrinsic model "datetime"
  · split
    next id hid =>
      obtain ⟨name, -, hname⟩ := List.exists_of_findSome?_eq_some hid
      apply of_kind_ne
      rw [(intrinsic?_eq_some hname).2]
      exact TypeKind.noConfusion
    next => exact error _ model

/-- A schema without a `$ref` member, when texts lead to what they can lead to. -/
lemma resolveForm {follow : String → Model → Resolved}
    (hfollow : ∀ reference, FindsPlainlyNamed (follow reference model)) {schema : Json}
    (hlink : schema.getString? "$ref" = none) (style : Option Style) :
    FindsPlainlyNamed (Model.resolveForm follow (Schema.ofJson schema) style model) := by
  cases hform : Schema.ofJson schema with
  | name reference => exact hfollow reference
  | link reference =>
    rw [Schema.ofJson_eq_link_iff.mp hform] at hlink
    exact absurd hlink (by simp)
  | list items => exact wrap _ _
  | map values => exact wrap _ _
  | scalar type format fragment => exact resolveScalar type format fragment model

/-- A reference as a text, followed through any number of request bodies, does not lead to a
declared type whose name has a slash.

**Proof sketch.** Induction on the number of request bodies. What is found by name has the name
that the reference ends with. The schema of the last body has no `$ref` member, so that it stands
for a container or a built-in type if it is no text itself. -/
theorem resolveReferenceWithin (h : model.WellFormed) :
    ∀ (jumps : Nat) (reference : String),
      FindsPlainlyNamed (Model.resolveReferenceWithin jumps reference model)
  | 0, _ => error _ model
  | jumps + 1, reference => by
    have ih := resolveReferenceWithin h jumps
    rw [Model.resolveReferenceWithin]
    split
    · split
      · exact error _ model
      · split
        next inner _ => exact ih inner
        next hlink => exact resolveForm ih hlink none
    · split
      next id hid => exact of_name h hid
      next => exact error _ model

end FindsPlainlyNamed

/-! ## Ways to refer to a declared type -/

/-- The declared type has the name that its reference ends with. -/
def IsKnownAs (model : Model) (id : TypeId) (name : String) : Prop :=
  '/' ∉ name.toList ∧ model.nameOf id = name

instance (model : Model) (id : TypeId) (name : String) : Decidable (model.IsKnownAs id name) :=
  inferInstanceAs (Decidable (_ ∧ _))

/-- A reference to a request body whose schema has a `$ref` member leads where that leads as a
text. -/
lemma resolve_body {pointer inner : String} {body : Json} (hpointer : isBodyReference pointer)
    (hbody : bodySchema? model.document pointer = some body)
    (hlink : body.getString? "$ref" = some inner) (style : Option Style) :
    model.resolve (.string pointer) style =
      resolveReferenceWithin (model.document.root.size + 1) inner model := by
  show resolveReferenceWithin (model.document.root.size + 2) pointer model = _
  rw [resolveReferenceWithin, if_pos hpointer, hbody]
  dsimp only
  rw [hlink]

namespace Declares

variable {document : Document}

/-- A declared type has the name that its reference ends with exactly if it is found by it. -/
lemma getElem?_names_iff (h : model.Declares stem name id) (hwf : model.WellFormed) :
    model.names[name]? = some id ↔ model.nameOf id = name := by
  rw [hwf.names_iff]
  exact and_iff_right h.lt_size

/-- The reference as a text leads to the declared type exactly if that has the name that the
reference ends with, however many request bodies may be followed.

**Proof sketch.** If the name of the schema has no slash, the reference ends with it and is none to
a request body, so it is looked up among the names. Otherwise it cannot lead to the declared type,
whose name begins with that of the schema. -/
theorem resolveReferenceWithin_iff (h : model.Declares document.schemaReferenceStem name id)
    (hwf : model.WellFormed) (jumps : Nat) :
    (resolveReferenceWithin (jumps + 1) (document.schemaReferenceStem ++ name) model).1 = .ok id ↔
      model.IsKnownAs id name := by
  by_cases hslash : '/' ∈ name.toList
  · refine iff_of_false (fun hok => ?_) fun hknown => hknown.1 hslash
    have hgrows := (resolves_resolveReferenceWithin hwf (jumps + 1)
      (document.schemaReferenceStem ++ name)).grows
    have hkeeps : model.KeepsTypes _ := .grow hgrows
    obtain ⟨suffix, hsuffix⟩ := h.name_eq
    refine FindsPlainlyNamed.resolveReferenceWithin hwf _ _ id hok ?_ ?_
    · rw [hkeeps.kind_eq h.lt_size, h.kind_eq]
    · rw [hkeeps.nameOf_eq h.lt_size, hsuffix, String.toList_append]
      exact List.mem_append_left _ hslash
  · rw [resolveReferenceWithin, if_neg (by rw [isBodyReference_append document hslash]; simp),
      referenceName_append (exists_schemaReferenceStem_eq document) hslash, IsKnownAs,
      and_iff_right hslash, ← h.getElem?_names_iff hwf]
    cases model.names[name]? <;> simp

/-- A `$ref` member with the reference leads to the declared type and changes nothing. -/
lemma resolve_link (h : model.Declares stem name id) {schema : Json}
    (hlink : schema.getString? "$ref" = some (stem ++ name)) (style : Option Style) :
    model.resolve schema style = (.ok id, model) := by
  rw [resolve, Schema.ofJson_eq_link_iff.mpr hlink, resolveForm, h.refs_eq]

end Declares

/-! ## All ways to refer to a declared type -/

/-- In the model of a document, and in all that it goes on to be, the reference to a declared
schema leads to one and the same declared type.

* A `$ref` member with the reference always leads to it.
* The reference as a text does, and so does a reference to a request body whose schema has such a
  member, exactly if the type got the name that the reference ends with, and that has no slash.
* That is so for all names without a slash if the schemas have different names that are not those
  of built-in types.

**Proof sketch.** Declaring the schemas makes the types, and nothing that is done later changes
their numbers, names and kinds or the references. So the reference is looked up as it was when
the document had been read, among the references for a `$ref` member and among the names for a
text. -/
theorem component_references {document : Document} {entry : String × Json}
    (h : (Model.ofDocument document).Continues model)
    (hentry : entry ∈ document.schemas?.getD []) :
    let reference := document.schemaReferenceStem ++ entry.1
    ∃ id : TypeId,
      (Model.ofDocument document).refs[reference]? = some id ∧
      model.refs[reference]? = some id ∧ (model.node id).kind = .component ∧
      (∀ (schema : Json) (style : Option Style), schema.getString? "$ref" = some reference →
        model.resolve schema style = (.ok id, model)) ∧
      (∀ style : Option Style, (model.resolve (.string reference) style).1 = .ok id ↔
        (Model.ofDocument document).IsKnownAs id entry.1) ∧
      (∀ (pointer : String) (body : Json) (style : Option Style), isBodyReference pointer →
        bodySchema? document pointer = some body → body.getString? "$ref" = some reference →
          ((model.resolve (.string pointer) style).1 = .ok id ↔
            (Model.ofDocument document).IsKnownAs id entry.1)) ∧
      (((document.schemas?.getD []).map (·.1)).Nodup →
        (∀ other ∈ document.schemas?.getD [], other.1 ∉ intrinsicNames) →
          '/' ∉ entry.1.toList → (Model.ofDocument document).IsKnownAs id entry.1) := by
  intro reference
  have hstart : (Model.ofDocument document).Reachable := .ofDocument document
  have hwf : model.WellFormed := (h.reachable hstart).settled.toWellFormed
  have hkeeps : (Model.ofDocument document).KeepsTypes model := h.keepsTypes hstart
  have hdocument : model.document = document := hkeeps.document_eq.trans (document_ofDocument _)
  obtain ⟨id, hdeclares⟩ := declares_ofDocument document hentry
  have hnow := hdeclares.keepsTypes hkeeps
  have hknown : model.IsKnownAs id entry.1 ↔ (Model.ofDocument document).IsKnownAs id entry.1 := by
    rw [IsKnownAs, hkeeps.nameOf_eq hdeclares.lt_size, IsKnownAs]
  refine ⟨id, hdeclares.refs_eq, hnow.refs_eq, hnow.kind_eq,
    fun schema style hlink => hnow.resolve_link hlink style, fun style => ?_,
    fun pointer body style hpointer hbody hlink => ?_,
    fun hnodup hfree hslash => ⟨hslash, nameOf_ofDocument hnodup hfree hentry hdeclares⟩⟩
  · exact (hnow.resolveReferenceWithin_iff hwf _).trans hknown
  · rw [resolve_body hpointer (hdocument.symm ▸ hbody) hlink]
    exact (hnow.resolveReferenceWithin_iff hwf _).trans hknown

/-! ### A sample -/

/-- A reference to a schema of the sample document, as a member. -/
def sampleLink (name : String) : Json :=
  .object [("$ref", .string ("#/components/schemas/" ++ name))]

/-- A request body of the sample document. -/
def sampleBody (name : String) : Json :=
  .object [("content", .object [("application/json", .object [("schema", sampleLink name)])])]

/-- A document that declares a schema with the name of a built-in type, and another one, and a
request body for each. -/
def componentsDocument : Document where
  root := .object [("components", .object [
    ("schemas", .object [("string", .object []), ("User", .object [])]),
    ("requestBodies", .object [("Text", sampleBody "string"), ("User", sampleBody "User")])])]

/-- What the model of the sample document is after the list of users has been resolved. -/
def componentsModel : Model :=
  ((Model.ofDocument componentsDocument).resolve
    (.object [("type", .string "array"), ("items", sampleLink "User")]) none).2

/-- The declared types of the sample document, and how they are known. -/
lemma componentsDocument_declared :
    (Model.ofDocument componentsDocument).refs["#/components/schemas/User"]? = some 23 ∧
      (Model.ofDocument componentsDocument).refs["#/components/schemas/string"]? = some 22 ∧
      (Model.ofDocument componentsDocument).IsKnownAs 23 "User" ∧
      ¬(Model.ofDocument componentsDocument).IsKnownAs 22 "string" := by
  decide

/-- In the sample model all references to users lead to one type. Those to the type with the name
of a built-in one, which is `string2`, lead to it only as a `$ref` member. -/
theorem component_references_sample :
    (componentsModel.resolve (sampleLink "User") none = (.ok 23, componentsModel) ∧
      (componentsModel.resolve (.string "#/components/schemas/User") none).1 = .ok 23 ∧
      (componentsModel.resolve (.string "#/components/requestBodies/User") none).1 = .ok 23) ∧
    componentsModel.resolve (sampleLink "string") none = (.ok 22, componentsModel) ∧
      (componentsModel.resolve (.string "#/components/schemas/string") none).1 ≠ .ok 22 ∧
      (componentsModel.resolve (.string "#/components/requestBodies/Text") none).1 ≠ .ok 22 := by
  have hcontinues : (Model.ofDocument componentsDocument).Continues componentsModel :=
    .resolve _ none .refl
  have hdeclared : componentsDocument.schemas?.getD [] =
      [("string", .object []), ("User", .object [])] := by rfl
  have huser : ("User", Json.object []) ∈ componentsDocument.schemas?.getD [] := by
    rw [hdeclared]
    simp
  have htext : ("string", Json.object []) ∈ componentsDocument.schemas?.getD [] := by
    rw [hdeclared]
    simp
  obtain ⟨user, hid, -, -, hlink, hname, hbody, -⟩ := component_references hcontinues huser
  obtain ⟨text, hotherId, -, -, hotherLink, hotherName, hotherBody, -⟩ :=
    component_references hcontinues htext
  obtain ⟨huserId, htextId, hknown, hunknown⟩ := componentsDocument_declared
  obtain rfl : user = 23 := Option.some.inj (hid.symm.trans huserId)
  obtain rfl : text = 22 := Option.some.inj (hotherId.symm.trans htextId)
  exact ⟨⟨hlink _ none rfl, (hname none).mpr hknown,
      (hbody "#/components/requestBodies/User" _ none (by decide) rfl rfl).mpr hknown⟩,
    hotherLink _ none rfl, fun hc => hunknown ((hotherName none).mp hc), fun hc => hunknown
      ((hotherBody "#/components/requestBodies/Text" _ none (by decide) rfl rfl).mp hc)⟩

end Model

end ClientGen
