import ClientGen.Proofs.Generation.Calls
import ClientGen.Proofs.Generation.ClosedFiles
import ClientGen.Proofs.Generation.Comments
import ClientGen.Proofs.Traversal

/-!
# Comments in files

The files for a model have the comment on each type and each method in them, and on each property of
a type in TypeScript. A comment in a file ends early exactly if what ends a comment occurs in one of
the texts that the comment is made of.

## Main definitions

* `ClientGen.Language.Carries` — that a text has a comment in it.
* `ClientGen.Documented.IsWritten` — what the files for a model are made of.

## Main results

* `ClientGen.Language.rendersComments`, `ClientGen.Language.ensures_methods` — items have the
  comments on what they stand for in them.
* `ClientGen.Language.carries_of_generate` — the files have the comments in them.
* `ClientGen.Language.documentation_enclosed` — when a text is enclosed in its comment.
-/

set_option autoImplicit false

namespace ClientGen

open Rendering

variable {pass : Pass} {method : Method} {old new : Model}

/-! ## Texts with a comment -/

/-- A text has the comment with the given text at a level of indentation in it. -/
def Language.Carries (language : Language) (level : Nat) (comment text : String) : Prop :=
  Text.contains (language.documentation (language.docMargin level) comment) text = true

namespace Language

variable {language : Language} {level : Nat} {comment part text : String}

/-- What is part of a text brings its comments with it. -/
lemma Carries.within (h : language.Carries level comment part)
    (hpart : part.toList <:+: text.toList) : language.Carries level comment text :=
  Text.contains_iff.mpr ((Text.contains_iff.mp h).trans hpart)

/-- A blank comment is in every text. -/
lemma carries_of_isBlank (h : Text.isBlank comment = true) :
    language.Carries level comment text := by
  rw [Carries, documentation_of_isBlank language h]
  exact Text.contains_iff.mpr List.nil_infix

end Language

/-- A text is part of what it is put together to with others. -/
lemma infix_intercalate_of_mem {separator text : String} {texts : List String} (h : text ∈ texts) :
    text.toList <:+: (separator.intercalate texts).toList := by
  induction texts with
  | nil => exact absurd h List.not_mem_nil
  | cons first rest ih =>
    cases rest with
    | nil =>
      obtain rfl := List.mem_singleton.mp h
      rw [String.intercalate_singleton]
    | cons next rest =>
      rw [String.intercalate_cons_cons, String.toList_append]
      rcases List.mem_cons.mp h with rfl | h
      · rw [String.toList_append]
        exact (List.prefix_append _ _).isInfix.trans (List.prefix_append _ _).isInfix
      · exact (ih h).trans (List.suffix_append _ _).isInfix

/-- An item is part of the file that it is put into. -/
lemma infix_assemble {head header item ending : String} {items : List String} (h : item ∈ items) :
    item.toList <:+: (assemble head header items ending).toList := by
  have hitem : item.toList <:+: ("\n\n".intercalate items).toList := infix_intercalate_of_mem h
  rw [assemble, String.toList_append]
  refine List.IsInfix.trans ?_ (List.prefix_append _ _).isInfix
  by_cases hempty : ("\n\n".intercalate items).isEmpty
  · rw [String.isEmpty_iff.mp hempty] at hitem
    rw [List.infix_nil.mp hitem]
    exact List.nil_infix
  · refine hitem.trans (infix_intercalate_of_mem ?_)
    rw [List.mem_filter, Bool.not_eq_true']
    exact ⟨by simp, Bool.eq_false_iff.mpr hempty⟩

/-! ## Later models -/

/-- The type that a method returns is named the same in an extension. -/
lemma TypeScript.returnedName_of_extends (he : old.Extends old.nodes.size new)
    (hold : old.WellFormed) (hnew : new.WellFormed) (hbelow : method.TypesBelow old.nodes.size) :
    returnedName new method = returnedName old method := by
  rw [returnedName, returnedName, spellings.spelled_of_extends .methods he hold hbelow.returnType_lt
    (he.unwrap_eq hold hnew hbelow.returnType_lt)]

/-- A type has the same comment in an extension. -/
lemma Documented.comment_type_of_extends (language : Language) {id : Nat}
    (he : old.Extends old.nodes.size new) (hid : id < old.nodes.size) :
    (Documented.type id).comment language new = (Documented.type id).comment language old := by
  have hschema : (new.node id).schema = (old.node id).schema :=
    (congrArg TypeNode.schema (he.bare_eq id hid) :)
  rw [comment, comment, TypeNode.deprecated, TypeNode.description, hschema]
  rfl

/-- A method has the same comment in an extension. -/
lemma Documented.comment_method_of_extends (language : Language)
    (he : old.Extends old.nodes.size new) (hold : old.WellFormed) (hnew : new.WellFormed)
    (hbelow : method.TypesBelow old.nodes.size) :
    (Documented.method method).comment language new =
      (Documented.method method).comment language old := by
  cases language with
  | python => rfl
  | typeScript =>
    rw [comment, comment, Language.headings, Language.headings, TypeScript.heading,
      TypeScript.heading, TypeScript.returnedName_of_extends he hold hnew hbelow]

/-! ## Python -/

namespace Python

/-- Some lines before others. -/
lemma intercalate_append {lines back : List String} (hback : back ≠ []) :
    "\n".intercalate (lines ++ back) =
      String.join (lines.map (· ++ "\n")) ++ "\n".intercalate back := by
  induction lines with
  | nil => simp
  | cons line rest ih =>
    rw [List.cons_append, String.intercalate_cons_of_ne_nil (by simp [hback]), ih, List.map_cons,
      String.join_cons]
    simp only [String.append_assoc]

/-- Lines between others that are a documentation string. -/
lemma carries_intercalate (level : Nat) (comment : String) (front : List String)
    {back : List String} (hback : back ≠ []) : Language.python.Carries level comment
      ("\n".intercalate (front ++ docstringLines (indent (level + 1)) comment ++ back)) := by
  rw [List.append_assoc, intercalate_append (by simp [hback]), intercalate_append hback,
    Language.Carries, Text.contains_iff, String.toList_append, String.toList_append]
  exact (List.prefix_append _ _).isInfix.trans (List.suffix_append _ _).isInfix

/-- A class has the comment on its type in it. -/
lemma carries_type (level : Nat) (id : TypeId) (pass : Pass) :
    (Python.type level id).Ensures True pass fun text _ => Language.python.Carries level
      ((Documented.type id).comment .python pass.model) text := by
  refine Ensures.node_bind (Ensures.ensureNamed_bind (fun _ => trivial) ?_)
  refine (ensures_true _ _).bind fun attributes _ _ => Ensures.pure ?_
  rw [show (Documented.type id).comment .python pass.model = withDeprecation
    (pass.model.node id).deprecated (pass.model.node id).description from rfl]
  generalize withDeprecation (pass.model.node id).deprecated
    (pass.model.node id).description = comment
  generalize [indent level ++ "@attr.s(auto_attribs=True, kw_only=True)",
    indent level ++ "class " ++ (pass.model.node id).name ++ "(model.Model):"] = head
  have hbody :
      (if attributes.isEmpty then [indent (level + 1) ++ "pass"] else attributes) ≠ [] := by
    split_ifs with h
    · exact List.cons_ne_nil _ _
    · rwa [List.isEmpty_iff] at h
  generalize (if attributes.isEmpty then [indent (level + 1) ++ "pass"] else attributes) = body at *
  -- The empty line after the comment is there only if the comment is.
  split_ifs with h
  · have hcarries := carries_intercalate level comment head hbody
    rwa [List.isEmpty_iff.mp h] at hcarries
  · rw [← List.append_assoc, List.append_assoc]
    exact carries_intercalate level comment head (List.cons_ne_nil "" body)

/-- A method has its comment in it. -/
lemma carries_method (level : Nat) (method : Method) (pass : Pass) :
    (Python.method level method).Ensures True pass fun text _ =>
      Language.python.Carries level ((Documented.method method).comment .python pass.model)
        text := by
  have hdoc : (definition method).Ensures True pass fun definition _ =>
      definition.doc = (Documented.method method).comment .python pass.model := by
    unfold definition
    refine (ensures_true _ _).bind fun returns _ _ => ?_
    refine (ensures_true _ _).bind fun arguments _ _ => ?_
    exact Ensures.pure rfl
  refine hdoc.bind fun definition _ hdefinition => Ensures.pure ?_
  rw [← hdefinition]
  exact carries_intercalate level definition.doc (definition.signature level) (List.cons_ne_nil _ _)

end Python

/-! ## TypeScript -/

namespace TypeScript

/-- What begins with a documentation comment has it in it. -/
lemma carries_docComment (level : Nat) (comment back : String) :
    Language.typeScript.Carries level comment (docComment level comment ++ back) := by
  rw [Language.Carries, Text.contains_iff, String.toList_append]
  exact (List.prefix_append _ _).isInfix

/-- A member of an interface has the comment on its property in it. -/
lemma carries_property (level : Nat) (model : Model) (property : Property) (pass : Pass) :
    (TypeScript.property level property).Ensures True pass fun text _ =>
      Language.typeScript.Carries level
        ((Documented.property property).comment .typeScript model) text := by
  refine (ensures_true _ _).bind fun spelling _ _ => Ensures.pure ?_
  simp only [String.append_assoc]
  exact carries_docComment level _ _

/-- An interface has the comments on its type and on its properties in it. -/
lemma carries_type (level : Nat) (id : TypeId) (pass : Pass) :
    (TypeScript.type level id).Ensures True pass fun text _ =>
      Language.typeScript.Carries level
          ((Documented.type id).comment .typeScript pass.model) text ∧
        ∀ p ∈ (pass.model.node id).properties, Language.typeScript.Carries (level + 1)
          ((Documented.property p).comment .typeScript pass.model) text := by
  refine Ensures.node_bind (Ensures.ensureNamed_bind (fun _ => trivial) ?_)
  have hmembers : ((pass.model.node id).properties.mapM (property (level + 1))).Ensures True pass
      fun members _ => True ∧ List.Forall₂ (fun p member => Language.typeScript.Carries (level + 1)
        ((Documented.property p).comment .typeScript pass.model) member)
          (pass.model.node id).properties members :=
    Ensures.mapM (fun p mid _ => (carries_property (level + 1) pass.model p mid).imp
      fun _ _ h => ⟨trivial, h⟩) _ trivial
  refine hmembers.bind fun members _ hall => Ensures.pure ⟨?_, fun p hp => ?_⟩
  · simp only [String.append_assoc]
    exact carries_docComment level _ _
  · obtain ⟨member, hmember, hcarries⟩ := exists_of_mem_left hall.2 hp
    have hsome : ¬members.isEmpty = true := fun hempty =>
      List.not_mem_nil (List.isEmpty_iff.mp hempty ▸ hmember)
    have hlines : member.toList <:+: ("\n".intercalate members).toList :=
      infix_intercalate_of_mem hmember
    rw [if_neg hsome]
    refine hcarries.within (hlines.trans ⟨(docComment level (withDeprecation
      (pass.model.node id).deprecated (pass.model.node id).description) ++ indent level ++
        "export interface " ++ (pass.model.node id).name ++ " " ++ "\x7b\n").toList,
      ("\n" ++ indent level ++ "\x7d").toList, ?_⟩)
    simp only [String.toList_append, List.append_assoc]

/-- The comment on a method names the type that the method returns as the model has it, though the
request type is derived first.

**Proof sketch.** Rendering the arguments only derives types, so it extends the model, and a type is
written the same in an extension. -/
lemma ensures_doc (hset : pass.model.Settled) (htypes : method.TypesBelow pass.model.nodes.size) :
    (call method).Ensures True pass fun call _ =>
      call.doc = (Documented.method method).comment .typeScript pass.model := by
  unfold call
  have hasked : (requestName true method).Advances Model.DerivesTo :=
    .requestName (fun operationId model => .requestType operationId .refl) true method
  refine (Ensures.of_advances hasked).bind fun request asked hderives => ?_
  have harguments : (arguments request method).Advances Model.DerivesTo :=
    advances_arguments (fun id model => .writeType id .refl) request method
  refine (Ensures.of_advances harguments).bind fun arguments mid hmore => ?_
  have hextends := hset.extends_of_derivesTo (hderives.trans hmore)
  have hmid := hset.derivesTo (hderives.trans hmore)
  refine (ensures_true _ _).with_run.bind fun returned after hrun => ?_
  refine (ensures_true _ _).bind fun errors _ _ => Ensures.pure ?_
  have hlater : spellings.spelled mid.file mid.model method.returnType = .ok returned := by
    obtain ⟨inner, hspell, -⟩ := run_spell spellings hmid.toWellFormed method.returnType
    exact (congrArg Prod.fst hspell).symm.trans (congrArg Prod.fst hrun.1)
  have hname : returnedName mid.model method = returned.name := by
    rw [returnedName, show spellings.spelled .methods mid.model method.returnType =
      .ok returned from hlater]
  rw [returnedName_of_extends hextends hset.toWellFormed hmid.toWellFormed htypes] at hname
  show withDeprecation method.deprecated (paragraphs
    [method.verb.name ++ " " ++ method.endpoint ++ " -> " ++ returned.name, method.summary,
      method.description]) = _
  rw [← hname]
  rfl

/-- A method in one of the classes has its comment in it. -/
lemma carries_method (hset : pass.model.Settled)
    (htypes : method.TypesBelow pass.model.nodes.size) {render : Call → String} {level : Nat}
    (hrender : ∀ call, call.renderMethod level = render call ∨
      call.renderStreamer level = render call) :
    (call method >>= fun call => pure (render call) : Rendering String).Ensures True pass
      fun text _ => Language.typeScript.Carries level
        ((Documented.method method).comment .typeScript pass.model) text := by
  refine (ensures_doc hset htypes).bind fun call _ hdoc => Ensures.pure ?_
  rw [← hdoc]
  rcases hrender call with h | h <;> rw [← h]
  · unfold Call.renderMethod
    simp only [String.append_assoc]
    exact carries_docComment level _ _
  · unfold Call.renderStreamer
    simp only [String.append_assoc]
    exact carries_docComment level _ _

end TypeScript

/-! ## Both languages -/

namespace Language

variable (language : Language)

/-- The item of a type has the comments on the type and on its properties in it. -/
lemma rendersComments : language.backend.RendersTypes True fun model id text =>
    language.Carries 0 ((Documented.type id).comment language model) text ∧
      ∀ p ∈ (model.node id).properties,
        language.Carries 1 ((Documented.property p).comment language model) text where
  type pass id _ _ := by
    have hmodel : (language.backend.type 0 id).Ensures True pass fun _ after =>
        pass.model = after.model := by
      cases language with
      | python => exact .of_advances (Python.advances_type 0 id)
      | typeScript => exact .of_advances (TypeScript.advances_type 0 id)
    have hcarries : (language.backend.type 0 id).Ensures True pass fun text _ =>
        language.Carries 0 ((Documented.type id).comment language pass.model) text ∧
          ∀ p ∈ (pass.model.node id).properties,
            language.Carries 1 ((Documented.property p).comment language pass.model) text := by
      cases language with
      | python =>
        exact (Python.carries_type 0 id pass).imp fun _ _ h =>
          ⟨h, fun _ _ => carries_of_isBlank rfl⟩
      | typeScript => exact TypeScript.carries_type 0 id pass
    refine (hmodel.and hcarries).imp fun text after h => ⟨Or.inl h.1.symm, ?_⟩
    rw [← h.1]
    exact h.2
  item old new id text _ _ he hd h := by
    have hlt : id < old.nodes.size := Backend.lt_size_of_isDeclarable hd
    rw [Documented.comment_type_of_extends language he hlt, he.properties_eq id hlt]
    exact ⟨h.1, fun p hp => by cases language <;> exact h.2 p hp⟩

/-- The item of a method has the comment on the method in it, in either class. -/
lemma carries_method (hset : pass.model.Settled)
    (htypes : method.TypesBelow pass.model.nodes.size) {render : Nat → Method → Rendering String}
    (hrender : render = language.backend.method ∨ render = language.backend.streamer)
    (level : Nat) : (render level method).Ensures True pass fun text _ =>
      language.Carries level ((Documented.method method).comment language pass.model) text := by
  rcases hrender with rfl | rfl <;> cases language
  case inl.python => exact Python.carries_method level method pass
  case inl.typeScript => exact TypeScript.carries_method hset htypes fun _ => Or.inl rfl
  case inr.python => exact Ensures.throw trivial
  case inr.typeScript => exact TypeScript.carries_method hset htypes fun _ => Or.inr rfl

/-- The items of the methods of a model have the comments on the methods in them. While they are
rendered, types are derived, which changes none of the comments. -/
lemma ensures_methods (hset : pass.model.Settled) {render : Nat → Method → Rendering String}
    (hrender : render = language.backend.method ∨ render = language.backend.streamer) :
    (pass.model.methods.values.mapM (render 1)).Ensures True pass fun texts _ =>
      ∀ method ∈ pass.model.methods.values, ∃ text ∈ texts,
        language.Carries 1 ((Documented.method method).comment language pass.model) text := by
  have hadvances : ∀ method, (render 1 method).Advances Model.DerivesTo := by
    rcases hrender with rfl | rfl
    · exact language.onlyDerives_backend.method 1
    · exact language.onlyDerives_backend.streamer 1
  have hitem : ∀ (method : Method) (mid : Pass), pass.model.DerivesTo mid.model →
      (render 1 method).Ensures True mid fun text after => pass.model.DerivesTo after.model ∧
        (method ∈ pass.model.methods.values → language.Carries 1
          ((Documented.method method).comment language pass.model) text) := by
    intro method mid hderives
    refine ((Ensures.of_advances (hadvances method)).imp fun _ _ h => hderives.trans h).and ?_
    by_cases hmethod : method ∈ pass.model.methods.values
    · have hbelow := hset.toWellFormed.typesBelow hmethod
      have hextends := hset.extends_of_derivesTo hderives
      have hmid := hset.derivesTo hderives
      rw [← Documented.comment_method_of_extends language hextends hset.toWellFormed
        hmid.toWellFormed hbelow]
      exact (language.carries_method hmid (hbelow.mono hextends.size_le) hrender 1).imp
        fun _ _ h _ => h
    · exact (ensures_true _ _).imp fun _ _ _ h => absurd h hmethod
  have hall := Ensures.mapM hitem pass.model.methods.values .refl
  refine hall.imp fun texts _ h method hmethod => ?_
  obtain ⟨text, htext, hcarries⟩ := exists_of_mem_left h.2 hmethod
  exact ⟨text, htext, hcarries hmethod⟩

/-- A file of the methods of a model has the comments on the methods in it. -/
lemma ensures_assemble (pass : Pass) (hset : pass.model.Settled)
    {render : Nat → Method → Rendering String}
    (hrender : render = language.backend.method ∨ render = language.backend.streamer)
    (header : String) (head ending : Rendering String) :
    (do
      let items ← pass.model.methods.values.mapM (render 1)
      let head ← head
      let ending ← ending
      return assemble head header items ending : Rendering String).Ensures True pass fun text _ =>
        ∀ method ∈ pass.model.methods.values,
          language.Carries 1 ((Documented.method method).comment language pass.model) text := by
  refine (language.ensures_methods hset hrender).bind fun items _ hitems => ?_
  refine (ensures_true _ _).bind fun head _ _ => (ensures_true _ _).bind fun ending _ _ => ?_
  refine Ensures.pure fun method hmethod => ?_
  obtain ⟨item, hitem, hcarries⟩ := hitems method hmethod
  exact hcarries.within (infix_assemble hitem)

/-- The files of methods and of streams have the comments on the methods in them. -/
lemma ensures_methodsFile (hset : pass.model.Settled) {file : Rendering String}
    (hfile : file = language.backend.methodsFile ∨ file = language.backend.streamsFile) :
    file.Ensures True pass fun text _ => ∀ method ∈ pass.model.methods.values,
      language.Carries 1 ((Documented.method method).comment language pass.model) text := by
  rcases hfile with rfl | rfl
  · exact Ensures.beginFile_bind (Ensures.get_bind (language.ensures_assemble
      { pass with file := .methods, counts := ∅ } hset (Or.inl rfl) _ _ _))
  · exact Ensures.beginFile_bind (Ensures.get_bind (language.ensures_assemble
      { pass with file := .streams, counts := ∅ } hset (Or.inr rfl) _ _ _))

end Language

/-! ## Files -/

namespace Documented

/-- What the files for a model in a language are made of: the types that are declared with their
properties, and the methods, a second time if there are streams. -/
def IsWritten (language : Language) (model : Model) : Documented → Prop
  | .type id => language.backend.Declares (model.node id).kind
  | .property p => ∃ id : TypeId, language.backend.Declares (model.node id).kind ∧
      p ∈ (model.node id).properties
  | .method m => m ∈ model.methods.values
  | .streamer m => language.backend.hasStreams = true ∧ m ∈ model.methods.values

/-- The text of the file that it is in, if there is one. -/
def fileOf? (files : Files) : Documented → Option String
  | .type _ | .property _ => some files.models
  | .method _ => some files.methods
  | .streamer _ => files.streams

end Documented

namespace Language

variable {model : Model} {files : Files} {final : Pass} {apiVersion packageName : String}

/-- The file of streams, if there is one, has the comments on the methods in it. -/
lemma ensures_streams (language : Language) (hset : pass.model.Settled)
    (hstreams : language.backend.hasStreams = true) :
    (if language.backend.hasStreams then some <$> language.backend.streamsFile else pure none :
      Rendering (Option String)).Ensures True pass fun found _ => ∃ text, found = some text ∧
        ∀ method ∈ pass.model.methods.values, language.Carries 1
          ((Documented.method method).comment language pass.model) text := by
  rw [if_pos hstreams, ← bind_pure_comp]
  exact (language.ensures_methodsFile hset (Or.inr rfl)).bind fun text _ h =>
    Ensures.pure ⟨text, rfl, h⟩

/-- The files for a model have the comment on whatever they are made of in them.

**Proof sketch.** Each file is made in a model that derivations lead to the last one from, and the
methods and the comments on them are the same in both. The file of types has an item for each type
of the last model that is declared. -/
theorem carries_of_generate (language : Language) (hset : model.Settled)
    (h : model.generate language.backend apiVersion packageName = (.ok files, final))
    (item : Documented) (hitem : item.IsWritten language final.model) :
    ∃ text, item.fileOf? files = some text ∧
      language.Carries item.level (item.comment language final.model) text := by
  have hstart : ({ model, apiVersion, packageName } : Pass).model.Settled := hset
  have hfiles := (language.rendersComments.files
    (Backend.OnlyDerives.iff_advances.mp language.onlyDerives_backend) language.modelsFrame.1
    language.modelsFrame.2 hstart).of_ok h
  obtain ⟨items, head, ending, afterMethods, afterStreams, hmethods, hstreams, -, htext, hlists,
    hfirst, hsecond, hthird⟩ := hfiles
  have hmid : afterMethods.model.Settled := hset.derivesTo hfirst
  have hlast : final.model.Settled := hmid.derivesTo (hsecond.trans hthird)
  have htypes : ∀ id : TypeId, language.backend.Declares (final.model.node id).kind →
      language.Carries 0 ((Documented.type id).comment language final.model) files.models ∧
        ∀ p ∈ (final.model.node id).properties, language.Carries 1
          ((Documented.property p).comment language final.model) files.models := by
    intro id hd
    obtain ⟨text, hmem⟩ := hlists.exists_item id hd
    obtain ⟨other, hd', hname, hcarries⟩ := hlists.item _ hmem
    obtain rfl : other = id := hlast.toWellFormed.nameOf_injOn
      (Backend.lt_size_of_isDeclarable (Backend.isDeclarable_of_declares hd'))
      (Backend.lt_size_of_isDeclarable (Backend.isDeclarable_of_declares hd)) hname
    have hpart : text.toList <:+: files.models.toList := by
      rw [htext]
      exact infix_assemble (List.mem_map_of_mem hmem)
    exact ⟨hcarries.1.within hpart, fun p hp => (hcarries.2 p hp).within hpart⟩
  -- The comments on methods are the same in an earlier model.
  have hearlier : ∀ old : Model, old.Settled → old.DerivesTo final.model →
      ∀ method ∈ final.model.methods.values, method ∈ old.methods.values ∧
        (Documented.method method).comment language final.model =
          (Documented.method method).comment language old := by
    intro old hold hderives method hmethod
    have hextends := hold.extends_of_derivesTo hderives
    rw [hextends.methods_eq] at hmethod
    exact ⟨hmethod, Documented.comment_method_of_extends language hextends hold.toWellFormed
      hlast.toWellFormed (hold.toWellFormed.typesBelow hmethod)⟩
  cases item with
  | type id => exact ⟨files.models, rfl, (htypes id hitem).1⟩
  | property property =>
    obtain ⟨id, hd, hproperty⟩ := hitem
    exact ⟨files.models, rfl, (htypes id hd).2 property hproperty⟩
  | method method =>
    obtain ⟨hmethod, hcomment⟩ :=
      hearlier model hset (hfirst.trans (hsecond.trans hthird)) method hitem
    refine ⟨files.methods, rfl, ?_⟩
    rw [hcomment]
    exact (language.ensures_methodsFile hstart (Or.inl rfl)).of_ok hmethods method hmethod
  | streamer method =>
    obtain ⟨hmethod, hcomment⟩ :=
      hearlier afterMethods.model hmid (hsecond.trans hthird) method hitem.2
    obtain ⟨text, hfound, hcarries⟩ := (language.ensures_streams hmid hitem.1).of_ok hstreams
    refine ⟨text, hfound, ?_⟩
    show language.Carries 1 ((Documented.method method).comment language final.model) text
    rw [hcomment]
    exact hcarries method hmethod

/-- A text is enclosed in its comment exactly if it is free of what ends a comment: three quotes
occur in the block at the end of its first and of its last line only, and a star with a slash at the
end of its last line only.

The files for a model have the comments on types and methods in them, and on properties in
TypeScript. Such a comment ends early exactly if what ends a comment occurs in the summary or the
description of what the comment is on or, for a method in TypeScript, in its path or in the name of
the type that it returns. -/
theorem documentation_enclosed (language : Language) :
    (∀ margin text : String, Text.isBlank margin = true →
      (language.IsEnclosed margin (language.documentation margin text) ↔
        Text.contains language.docTerminator text = false)) ∧
    ∀ (model : Model) (apiVersion packageName : String) (files : Files) (final : Pass),
      model.Reachable →
      model.generate language.backend apiVersion packageName = (.ok files, final) →
      ∀ item : Documented, item.IsWritten language final.model →
        let margin := language.docMargin item.level
        let block := language.documentation margin (item.comment language final.model)
        (∃ text, item.fileOf? files = some text ∧ Text.contains block text = true) ∧
        (language.IsEnclosed margin block ↔
          ∀ source ∈ item.sources language final.model,
            Text.contains language.docTerminator source = false) := by
  refine ⟨fun margin text hmargin => language.isEnclosed_documentation_iff hmargin, ?_⟩
  intro model apiVersion packageName files final hreachable hgenerate item hitem
  refine ⟨language.carries_of_generate hreachable.settled hgenerate item hitem, ?_⟩
  rw [language.isEnclosed_documentation_iff (language.isBlank_docMargin _), ← Bool.not_eq_true,
    language.contains_comment_iff]
  simp only [not_exists, not_and, Bool.not_eq_true]

/-- A document with a method that is described with what ends a comment in TypeScript. -/
def wildcardDocument : Document where
  root := .object [("paths", .object [("/files", .object [("get", .object [
    ("operationId", .string "find"),
    ("summary", .string "Finds files"),
    ("description", .string "Like /files/*/versions"),
    ("responses", .object [("200", .object [("content", .object [("application/json",
      .object [("schema", .object [("type", .string "string")])])])])])])])])]

/-- The comment on that method, and what it is made of. -/
def wildcardComment : Language → String × List String
  | .python =>
    ("Finds files\n\nLike /files/*/versions", ["Finds files", "Like /files/*/versions"])
  | .typeScript =>
    ("GET /files -> string\n\nFinds files\n\nLike /files/*/versions",
      ["/files", "string", "Finds files", "Like /files/*/versions"])

/-- There are files for that document, with that comment. -/
lemma exists_wildcardFiles (language : Language) : ∃ (files : Files) (final : Pass)
    (method : Method),
    (Model.ofDocument wildcardDocument).generate language.backend "4.0" "sample" =
      (.ok files, final) ∧
    method ∈ final.model.methods.values ∧
    (Documented.method method).comment language final.model = (wildcardComment language).1 ∧
    (Documented.method method).sources language final.model = (wildcardComment language).2 := by
  have hfacts :
      ((Model.ofDocument wildcardDocument).generate language.backend "4.0" "sample").1.isOk =
        true ∧
      ((Model.ofDocument wildcardDocument).generate language.backend "4.0"
        "sample").2.model.methods.values.map (fun method =>
          ((Documented.method method).comment language ((Model.ofDocument
              wildcardDocument).generate language.backend "4.0" "sample").2.model,
            (Documented.method method).sources language ((Model.ofDocument
              wildcardDocument).generate language.backend "4.0" "sample").2.model)) =
        [wildcardComment language] := by
    cases language <;> decide +kernel
  obtain ⟨hok, hmethods⟩ := hfacts
  rcases hgenerate : (Model.ofDocument wildcardDocument).generate language.backend "4.0" "sample"
    with ⟨error | files, final⟩
  · rw [hgenerate] at hok
    exact absurd hok Bool.false_ne_true
  · rw [hgenerate] at hmethods
    obtain ⟨method, hmethod, hcomment⟩ := List.map_eq_singleton_iff.mp hmethods
    exact ⟨files, final, method, rfl, by rw [hmethod]; exact List.mem_singleton_self _,
      congrArg Prod.fst hcomment, congrArg Prod.snd hcomment⟩

/-- The description of that method ends its comment in the file for TypeScript early. In the one for
Python it is enclosed in its comment, like any text that is free of three quotes. -/
theorem documentation_enclosed_wildcard :
    Language.python.IsEnclosed "\t" (Language.python.documentation "\t" "Finds\nfiles") ∧
    (∃ files final, (Model.ofDocument wildcardDocument).generate Language.python.backend "4.0"
        "sample" = (.ok files, final) ∧
      Text.contains (Language.python.documentation "        "
        "Finds files\n\nLike /files/*/versions") files.methods = true ∧
      Language.python.IsEnclosed "        " (Language.python.documentation "        "
        "Finds files\n\nLike /files/*/versions")) ∧
    ∃ files final, (Model.ofDocument wildcardDocument).generate Language.typeScript.backend "4.0"
        "sample" = (.ok files, final) ∧
      Text.contains (Language.typeScript.documentation "  "
        "GET /files -> string\n\nFinds files\n\nLike /files/*/versions") files.methods = true ∧
      ¬Language.typeScript.IsEnclosed "  " (Language.typeScript.documentation "  "
        "GET /files -> string\n\nFinds files\n\nLike /files/*/versions") := by
  have hreachable := Model.Reachable.ofDocument wildcardDocument
  refine ⟨((documentation_enclosed .python).1 _ _ (by decide)).mpr (by decide), ?_, ?_⟩
  · obtain ⟨files, final, method, hgenerate, hmethod, hcomment, hsources⟩ :=
      exists_wildcardFiles .python
    obtain ⟨⟨text, htext, hcontains⟩, hiff⟩ := (documentation_enclosed .python).2 _ _ _ _ _
      hreachable hgenerate (.method method) hmethod
    obtain rfl : files.methods = text := Option.some.inj htext
    rw [hcomment] at hcontains hiff
    rw [hsources] at hiff
    exact ⟨files, final, hgenerate, hcontains, hiff.mpr (by decide)⟩
  · obtain ⟨files, final, method, hgenerate, hmethod, hcomment, hsources⟩ :=
      exists_wildcardFiles .typeScript
    obtain ⟨⟨text, htext, hcontains⟩, hiff⟩ := (documentation_enclosed .typeScript).2 _ _ _ _ _
      hreachable hgenerate (.method method) hmethod
    obtain rfl : files.methods = text := Option.some.inj htext
    rw [hcomment] at hcontains hiff
    rw [hsources] at hiff
    exact ⟨files, final, hgenerate, hcontains, fun henclosed =>
      absurd (hiff.mp henclosed) (by decide)⟩

end Language

end ClientGen
