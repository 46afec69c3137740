import ClientGen.Proofs.Generation.Calls
import ClientGen.Proofs.Permanence

/-!
# Two ways to send a body

The body of a method is sent as a property of a request object, or as an argument of its own. The
property is pointed at its write type once, when the request type is derived. The argument asks for
the write type each time it is written, in a model that may have grown since. Both are written as
the same type. What they ask for may be different containers, since a container whose name is taken
is made anew, but these are the same containers around the same type.

## Main results

* `ClientGen.Model.IsKeptIn.spelled_eq` — a type is written the same in later models.
* `ClientGen.Model.Settled.spelled_sent` — what a body is sent as is written like what has been sent
  in its place.
* `ClientGen.Model.Reachable.bodies_agree` — the property of a request type and the argument for a
  body are written as the same type in all later models.
-/

set_option autoImplicit false

namespace ClientGen

namespace Model

variable {model old new : Model} {id sent place : Nat} {operationId : String} {method : Method}
  {parameter : Parameter}

/-! ## Spelling in later models -/

/-- A type is written the same in a model that it is kept in. -/
lemma IsKeptIn.spelled_eq (h : old.IsKeptIn new) (hold : old.WellFormed)
    (spellings : TypeSpellings) (file : FileKind) (hid : id < old.nodes.size) :
    spellings.spelled file new id = spellings.spelled file old id := by
  have hlt : old.innermost id < old.nodes.size := Nat.lt_of_le_of_lt (hold.innermost_le id) hid
  have hin : new.innermost id = old.innermost id := congrArg Prod.snd (h.unwrap_eq id hid)
  rw [TypeSpellings.spelled, TypeSpellings.spelled, h.unwrap_eq id hid, hin,
    spellings.leafIn_congr file (h.bare_eq _ hlt)]

/-- What a body is sent as is written like any type that is sent in its place.

**Proof sketch.** Asking for the write type extends the model, so that the other type is still sent
in place of that of the body. The two are the same containers around the same type there. -/
theorem Settled.spelled_sent (h : model.Settled) (spellings : TypeSpellings) (file : FileKind)
    (hbody : parameter.location = .body) (hp : parameter.type < model.nodes.size)
    (hsent : sent < model.nodes.size) (hresent : model.IsResent parameter.type sent) :
    spellings.spelled file (model.sent parameter).2 (model.sent parameter).1 =
      spellings.spelled file model sent := by
  have hspec := Model.writeType_spec h hp
  have hnew := hspec.coherent.toWellFormed
  have hlater := hresent.of_extends h.toClosedBelow hspec.toExtends hnew hp hsent
  rw [Model.sent, if_pos hbody]
  refine spellings.spelled_of_extends file hspec.toExtends h.toWellFormed hsent ?_
  rw [hspec.isResent.unwrap_eq hlater, hspec.toExtends.unwrap_eq h.toWellFormed hnew hsent]

/-- The property of a request type at the place of a parameter has its name and the type that it is
sent as. -/
lemma Settled.exists_property (h : model.Settled) (hk : (model.node id).kind = .request operationId)
    (hm : model.methods[operationId]? = some method)
    (hp : method.allParameters[place]? = some parameter) :
    ∃ property, (model.node id).properties[place]? = some property ∧
      property.name = parameter.name ∧ model.IsResent parameter.type property.type := by
  obtain ⟨-, hall⟩ := h.forall₂_of_request hk hm
  rw [requestProperties, List.forall₂_map_left_iff, List.forall₂_iff_get] at hall
  obtain ⟨hlength, hget⟩ := hall
  obtain ⟨hplace, rfl⟩ := List.getElem?_eq_some_iff.mp hp
  have hplace' : place < (model.node id).properties.length := hlength ▸ hplace
  obtain ⟨hresent, hproperty⟩ := hget place hplace hplace'
  exact ⟨_, List.getElem?_eq_getElem hplace', congrArg Property.name hproperty, hresent⟩

end Model

/-! ## Arguments -/

namespace TypeScript

variable {pass : Pass} {parameter : Parameter}

/-- The spelling of a type does not depend on the file. -/
lemma spelled_file (file other : FileKind) (model : Model) (id : TypeId) :
    spellings.spelled file model id = spellings.spelled other model id := rfl

/-- The argument for a parameter of the given type. -/
def argumentText (level : Nat) (parameter : Parameter) (type : String) : String :=
  indent level ++ argumentName parameter.name ++ (if parameter.required then "" else "?") ++ ": " ++
    type

/-- A parameter is written as an argument of the type that it is sent as. -/
lemma run_parameter (level : Nat) (method : Method) (h : pass.model.Settled) :
    ((TypeScript.parameter level method parameter).run.run pass).1 =
      (spellings.spelled pass.file (pass.model.sent parameter).2 (pass.model.sent parameter).1).map
        fun spelling => argumentText level parameter spelling.name := by
  have hspell : ((Rendering.sentType parameter >>= spellings.spell).run.run pass).1 = _ :=
    Rendering.run_spellSent spellings h
  have htext : ∀ type : String, indent level ++
      (Argument.mk (argumentName parameter.name) type (!parameter.required)).render =
        argumentText level parameter type := by
    intro type
    cases hr : parameter.required <;>
      simp only [Argument.render, argumentText, hr, String.append_assoc] <;> rfl
  rw [TypeScript.parameter, argumentOf_eq, bind_assoc, ExceptT.run_bind, StateT.run_bind,
    ← hspell]
  rcases (Rendering.sentType parameter >>= spellings.spell).run.run pass with
    ⟨failure | spelling, after⟩
  · rfl
  · exact congrArg Except.ok (htext spelling.name)

end TypeScript

/-! ## Bodies -/

namespace Model

variable {model : Model} {id place : Nat} {operationId : String} {method : Method}
  {parameter : Parameter}

/-- In a model that can be reached, the property of the request type of a method at the place of a
body is there for good, and in all later models the type of that property is written as the type of
the argument for the body, or both fail in the same way. The method may have been left out in
between.

**Proof sketch.** The property is of the type that the body is sent as, which stays so in later
models and is written the same there. The argument is of the type that asking for the write type
leads to, and that is written like any type that is sent in place of that of the body. -/
theorem Reachable.bodies_agree (h : model.Reachable)
    (hk : (model.node id).kind = .request operationId)
    (hm : model.methods[operationId]? = some method)
    (hp : method.allParameters[place]? = some parameter) (hbody : parameter.location = .body) :
    ∃ property, (model.node id).properties[place]? = some property ∧
      property.name = parameter.name ∧
      ∀ first second : Pass, model.Continues first.model → model.Continues second.model →
        (first.model.node id).properties[place]? = some property ∧
        ∀ level : Nat,
          ((TypeScript.backend.parameter level method parameter).run.run second).1 =
            ((TypeScript.backend.spell property.type).run.run first).1.map fun spelling =>
              TypeScript.argumentText level parameter spelling.name := by
  have hset := h.settled
  obtain ⟨property, hproperty, hname, hresent⟩ := hset.exists_property hk hm hp
  have hid : id < model.nodes.size := lt_size_of_kind_ne (by rw [hk]; exact TypeKind.noConfusion)
  have hdeclared : parameter.type < model.nodes.size :=
    hset.parameter_lt operationId method hm parameter
      (Method.mem_allParameters.mp (List.mem_of_getElem? hp))
  have hsent : property.type < model.nodes.size :=
    hset.property_lt id property (List.mem_of_getElem? hproperty)
  refine ⟨property, hproperty, hname, fun first second hfirst hsecond => ?_⟩
  have hkept := hfirst.isKeptIn h
  have hkept' := hsecond.isKeptIn h
  have hset' := (hsecond.reachable h).settled
  refine ⟨by rw [hkept.properties_eq id hid, hproperty], fun level => ?_⟩
  have hargument : TypeScript.spellings.spelled second.file (second.model.sent parameter).2
      (second.model.sent parameter).1 =
        TypeScript.spellings.spelled second.file model property.type := by
    rw [hset'.spelled_sent TypeScript.spellings second.file hbody
      (Nat.lt_of_lt_of_le hdeclared hkept'.size_le) (Nat.lt_of_lt_of_le hsent hkept'.size_le)
      (hkept'.isResent _ _ hdeclared hsent hresent),
      hkept'.spelled_eq hset.toWellFormed TypeScript.spellings second.file hsent]
  obtain ⟨inner, hspell, -⟩ := Rendering.run_spell TypeScript.spellings
    (hfirst.reachable h).settled.toWellFormed property.type
  have htype : ((TypeScript.spellings.spell property.type).run.run first).1 =
      TypeScript.spellings.spelled first.file model property.type := by
    rw [hspell, hkept.spelled_eq hset.toWellFormed TypeScript.spellings first.file hsent]
  show ((TypeScript.parameter level method parameter).run.run second).1 =
    ((TypeScript.spellings.spell property.type).run.run first).1.map _
  rw [TypeScript.run_parameter level method hset', hargument, htype,
    TypeScript.spelled_file second.file first.file]

/-- A reference to a schema of the document whose method has a body. -/
def schemaReference (name : String) : Json :=
  .object [("$ref", .string ("#/components/schemas/" ++ name))]

/-- A document with a method whose body is a list of users. The name of the list of what is sent is
taken by another type. -/
def savingDocument : Document where
  root := .object [
    ("openapi", .string "3.0.0"),
    ("components", .object [("schemas", .object [
      ("WriteUser[]", .object [("properties", .object [
        ("name", .object [("type", .string "string")])])]),
      ("User", .object [("properties", .object [
        ("id", .object [("type", .string "string"), ("readOnly", .bool true)]),
        ("team", .object [("type", .string "array"), ("items", schemaReference "User")])])])])]),
    ("paths", .object [("/users", .object [("post", .object [
      ("operationId", .string "save"),
      ("parameters", .array [Language.textParameter "draft" "query" false,
        Language.textParameter "note" "query" false]),
      ("requestBody", .object [("content", .object [("application/json", .object [
        ("schema", .object [("type", .string "array"), ("items", schemaReference "User")])])])]),
      ("responses", .object [("200", .object [("content", .object [("application/json", .object [
        ("schema", schemaReference "User")])])])])])])])]

/-- The model of that document with the request type of the method. -/
def savingModel : Model := ((ofDocument savingDocument).requestType "save").2

/-- That model can be reached. -/
lemma reachable_savingModel : savingModel.Reachable := by
  rw [savingModel]
  exact (Reachable.ofDocument savingDocument).requestType "save"

/-- A pass over what that model goes on to be when the method is left out. -/
def savingPass : Pass where
  model := savingModel.retain [] ["save"]
  apiVersion := "4.0"
  packageName := "sample"

/-- What there is in that model, and what the body is sent as later. -/
lemma savingModel_nodes : (savingModel.node 25).kind = .request "save" ∧
    (savingModel.node 25).properties.map (·.type) = [28, 0, 0] ∧
    ((savingModel.retain [] ["save"]).writeType 24).1 = some 29 := by
  decide +kernel

/-- The method of that model has a body. -/
lemma exists_savingMethod : ∃ (method : Method) (parameter : Parameter),
    savingModel.methods["save"]? = some method ∧ method.allParameters[0]? = some parameter ∧
      parameter.location = .body ∧ parameter.type = 24 := by
  have hfirst : ((ofDocument savingDocument).methods["save"]?.bind (·.allParameters[0]?)).map
      (fun p => (p.location, p.type)) = some (.body, 24) := by
    decide
  obtain ⟨parameter, hparameter, hfields⟩ := Option.map_eq_some_iff.mp hfirst
  obtain ⟨method, hm, hp⟩ := Option.bind_eq_some_iff.mp hparameter
  rw [Prod.mk.injEq] at hfields
  have hset := (Reachable.ofDocument savingDocument).settled
  rw [savingModel, (hset.requestType_spec "save").2.methods_eq]
  exact ⟨method, parameter, hm, hp, hfields⟩

/-- The property of the request type for the body is of another type than the argument for it is,
and both are written the same. -/
theorem Reachable.bodies_agree_saving : ∃ (method : Method) (parameter : Parameter)
    (property : Property), savingModel.methods["save"]? = some method ∧
      method.allParameters[0]? = some parameter ∧ parameter.location = .body ∧
      (savingPass.model.node 25).properties[0]? = some property ∧
      (savingPass.model.sent parameter).1 ≠ property.type ∧
      ((TypeScript.backend.parameter 1 method parameter).run.run savingPass).1 =
        ((TypeScript.backend.spell property.type).run.run savingPass).1.map fun spelling =>
          TypeScript.argumentText 1 parameter spelling.name := by
  obtain ⟨hk, htypes, hwrite⟩ := savingModel_nodes
  obtain ⟨method, parameter, hm, hp, hbody, htype⟩ := exists_savingMethod
  have hlater : savingModel.Continues savingPass.model := Continues.refl.retain [] ["save"]
  obtain ⟨property, hproperty, -, hagree⟩ := bodies_agree reachable_savingModel hk hm hp hbody
  obtain ⟨hstays, htext⟩ := hagree savingPass savingPass hlater hlater
  have hdeclared : property.type = 28 := by
    have hmap := congrArg (·[0]?) htypes
    simpa only [List.getElem?_map, hproperty, Option.map_some, List.getElem?_cons_zero,
      Option.some.injEq] using hmap
  have hsent : (savingPass.model.sent parameter).1 = 29 := by
    rw [Model.sent, if_pos hbody, htype, savingPass, hwrite]
    rfl
  refine ⟨method, parameter, property, hm, hp, hbody, hstays, ?_, htext 1⟩
  rw [hsent, hdeclared]
  decide

end Model

end ClientGen
