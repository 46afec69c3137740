import ClientGen.Language
import ClientGen.Proofs.Lines
import ClientGen.Proofs.Generation.Referring

/-!
# Documentation in comments

Types, methods and, in TypeScript, properties are written with a comment that says what they are.
The comment is made of texts of the document, and these are copied line by line as they are: nothing
in them is escaped. So a text with the characters that end a comment ends it early. That is the only
way in which a comment ends early: white space and the marks before lines never make up these
characters together with a text.

## Main definitions

* `ClientGen.Language.docTerminator` — what ends a comment.
* `ClientGen.Language.IsEnclosed` — that a comment ends where it should.
* `ClientGen.Documented` — what is written with a comment.
* `ClientGen.Documented.sources` — the texts that the comment is made of.

## Main results

* `ClientGen.Language.isEnclosed_documentation_iff` — a text is enclosed in its comment exactly if
  it is free of what ends a comment.
* `ClientGen.Language.escapes_documentation` — texts that are not.
* `ClientGen.Language.contains_comment_iff` — what ends a comment occurs in the text of a comment
  exactly if it occurs in a text that this is made of.
-/

set_option autoImplicit false

namespace ClientGen

/-! ## Comments -/

namespace Language

/-- What ends a comment. -/
def docTerminator : Language → String
  | .python => "\"\"\""
  | .typeScript => "*/"

/-- What a comment begins with. -/
def docOpening : Language → String
  | .python => "\"\"\""
  | .typeScript => "/**"

/-- The white space before what ends a comment. -/
def docClosingMargin : Language → String
  | .python => ""
  | .typeScript => " "

/-- A line of a comment after the given white space. -/
def docLine : Language → String → String → String
  | .python => Python.docstringLine
  | .typeScript => TypeScript.docCommentLine

/-- A text as a comment after the given white space. -/
def documentation : Language → String → String → String
  | .python => Python.docstring
  | .typeScript => TypeScript.docBlock

/-- What ends a comment occurs in the block at the end of its last line only, and at the beginning
if a comment begins with the same. -/
def IsEnclosed (language : Language) (margin block : String) : Prop :=
  ∀ before after : String, block = before ++ language.docTerminator ++ after →
    after = "\n" ∨ language.docOpening = language.docTerminator ∧ before = margin

variable (language : Language) {margin text content : String}

/-- What ends a comment has no white space. -/
lemma isSolid_docTerminator : Text.IsSolid language.docTerminator.toList := by
  have hall : language.docTerminator.toList.all (!Unicode.isWhiteSpace ·) = true := by
    cases language <;> decide
  refine ⟨by cases language <;> decide, fun c hc => ?_⟩
  rw [Bool.not_eq_true, ← Bool.not_eq_true']
  exact List.all_eq_true.mp hall c hc

/-- The lines of a comment, with the text between the first and the last of them. -/
lemma toList_documentation (h : ¬Text.isBlank text = true) :
    (language.documentation margin text).toList =
      ((margin ++ language.docOpening).toList ::
        (Text.lines (Text.trimEnd text)).map (fun line => (language.docLine margin line).toList) ++
        [(margin ++ language.docClosingMargin).toList ++ language.docTerminator.toList]).flatMap
          (· ++ ['\n']) := by
  cases language with
  | python =>
    rw [documentation, Python.docstring, Python.docstringLines, if_neg h]
    simp [String.toList_join, List.flatMap_map, docOpening, docTerminator, docClosingMargin,
      docLine]
  | typeScript =>
    rw [documentation, TypeScript.docBlock, TypeScript.docCommentLines, if_neg h]
    simp [String.toList_join, List.flatMap_map, docOpening, docTerminator, docClosingMargin,
      docLine]

/-- A blank text has no comment. -/
lemma documentation_of_isBlank (h : Text.isBlank text = true) :
    language.documentation margin text = "" := by
  cases language with
  | python => rw [documentation, Python.docstring, Python.docstringLines, if_pos h]; rfl
  | typeScript => rw [documentation, TypeScript.docBlock, TypeScript.docCommentLines, if_pos h]; rfl

/-- What ends a comment occurs in a line of it exactly if it occurs in the content of that line. -/
lemma infix_docLine (hmargin : Text.isBlank margin = true) :
    language.docTerminator.toList <:+: (language.docLine margin content).toList ↔
      language.docTerminator.toList <:+: content.toList := by
  have hsolid := language.isSolid_docTerminator
  cases language with
  | python =>
    rw [docLine, Python.docstringLine]
    split
    next hblank => exact iff_of_false (by decide) (hsolid.not_infix_blank hblank)
    next => rw [String.toList_append, hsolid.infix_blank_append hmargin]
  | typeScript =>
    have hstar : ¬(docTerminator .typeScript).toList <:+: (margin ++ " *").toList := by
      rw [String.toList_append, hsolid.infix_blank_append hmargin]
      decide
    rw [docLine, TypeScript.docCommentLine]
    split
    next hblank => exact iff_of_false hstar (hsolid.not_infix_blank hblank)
    next =>
      have hsplit : (margin ++ " * " ++ content).toList =
          (margin ++ " *").toList ++ ' ' :: content.toList := by simp
      rw [hsplit, hsolid.infix_append_cons (by decide), or_iff_right hstar]

/-- What ends a comment occurs in the first line of one if a comment begins with the same, and then
only where it stands. -/
lemma exists_opening_eq_iff (hmargin : Text.isBlank margin = true) {before : List Char} :
    (∃ rest, (margin ++ language.docOpening).toList =
        before ++ language.docTerminator.toList ++ rest) ↔
      language.docOpening = language.docTerminator ∧ before = margin.toList := by
  have hsolid := language.isSolid_docTerminator
  rw [String.toList_append]
  cases language with
  | python =>
    constructor
    · rintro ⟨rest, he⟩
      exact ⟨rfl, (hsolid.eq_of_blank_append hmargin he).1⟩
    · rintro ⟨-, rfl⟩
      exact ⟨[], (List.append_nil _).symm⟩
  | typeScript =>
    refine iff_of_false ?_ (fun h => absurd h.1 (by decide))
    rintro ⟨rest, he⟩
    have hoccurs := (hsolid.infix_blank_append hmargin).mp ⟨before, rest, he.symm⟩
    exact absurd hoccurs (by decide)

/-- Where what ends a comment may occur in an enclosed block, in terms of characters. -/
lemma isEnclosed_iff_toList {block : String} : language.IsEnclosed margin block ↔
    ∀ before after : List Char, block.toList = before ++ language.docTerminator.toList ++ after →
      after = ['\n'] ∨ language.docOpening = language.docTerminator ∧ before = margin.toList := by
  have hend : "\n".toList = ['\n'] := rfl
  constructor
  · intro h before after he
    have hwhere := h (String.ofList before) (String.ofList after)
      (String.toList_inj.mp (by simp [he]))
    simpa only [← String.toList_inj, String.toList_ofList, hend] using hwhere
  · intro h before after he
    have hwhere := h before.toList after.toList (by rw [he]; simp)
    simpa only [← String.toList_inj, hend] using hwhere

/-- A text is enclosed in its comment exactly if it is free of what ends a comment.

**Proof sketch.** What ends a comment has no white space, so it occurs in the text exactly if it
occurs in one of the lines of the comment between the first and the last. In the last line there is
nothing but white space before it. The first line has it at its end or not at all. -/
theorem isEnclosed_documentation_iff (hmargin : Text.isBlank margin = true) :
    language.IsEnclosed margin (language.documentation margin text) ↔
      Text.contains language.docTerminator text = false := by
  have hsolid := language.isSolid_docTerminator
  rw [isEnclosed_iff_toList, ← Bool.not_eq_true, ← hsolid.exists_contains_lines]
  by_cases hblank : Text.isBlank text = true
  · rw [documentation_of_isBlank language hblank, hsolid.exists_contains_lines, Text.contains_iff]
    exact iff_of_true (fun _ _ he => absurd he hsolid.nil_ne) (hsolid.not_infix_blank hblank)
  · have hclosing :
        (margin ++ language.docClosingMargin).toList.all Unicode.isWhiteSpace = true := by
      rw [String.toList_append, List.all_append, Bool.and_eq_true]
      exact ⟨hmargin, by cases language <;> decide⟩
    simp only [toList_documentation language hblank, ← exists_opening_eq_iff language hmargin]
    rw [hsolid.framed_iff hclosing]
    simp only [List.forall_mem_map, infix_docLine language hmargin, Text.contains_iff, not_exists,
      not_and]

/-- Texts with what ends a comment are not enclosed in theirs: the comment ends at the quotes, or
after the star. -/
theorem escapes_documentation :
    Language.python.documentation "    " "Says \"\"\" aloud" =
      "    \"\"\"\n    Says " ++ "\"\"\"" ++ " aloud\n    \"\"\"\n" ∧
    ¬Language.python.IsEnclosed "    "
      (Language.python.documentation "    " "Says \"\"\" aloud") ∧
    Language.typeScript.documentation "  " "Lists /files/*/versions" =
      "  /**\n   * Lists /files/" ++ "*/" ++ "versions\n   */\n" ∧
    ¬Language.typeScript.IsEnclosed "  "
      (Language.typeScript.documentation "  " "Lists /files/*/versions") := by
  have hpython : Language.python.documentation "    " "Says \"\"\" aloud" =
      "    \"\"\"\n    Says " ++ "\"\"\"" ++ " aloud\n    \"\"\"\n" := by decide
  have htypeScript : Language.typeScript.documentation "  " "Lists /files/*/versions" =
      "  /**\n   * Lists /files/" ++ "*/" ++ "versions\n   */\n" := by decide
  refine ⟨hpython, fun h => ?_, htypeScript, fun h => ?_⟩
  · exact absurd (h _ _ hpython) (by decide)
  · exact absurd (h _ _ htypeScript) (by decide)

end Language

/-! ## What is written with a comment -/

/-- What is written with a comment. -/
inductive Documented where
  /-- A type. -/
  | type (id : TypeId)
  /-- A property of a type. -/
  | property (property : Property)
  /-- A method. -/
  | method (method : Method)
  /-- A method that hands its response over as a stream. -/
  | streamer (method : Method)

namespace Language

/-- The white space before the comment on what is written at a level of indentation. -/
def docMargin : Language → Nat → String
  | .python, level => Python.indent (level + 1)
  | .typeScript, level => TypeScript.indent level

/-- Before a comment there is nothing but white space. -/
lemma isBlank_docMargin (language : Language) (level : Nat) :
    Text.isBlank (language.docMargin level) = true := by
  have hrepeated : ∀ (count : Nat) (white : String), Text.isBlank white = true →
      Text.isBlank (Text.repeated count white) = true := by
    intro count white hwhite
    rw [Text.isBlank, Text.repeated, String.toList_join, List.all_eq_true]
    intro c hc
    obtain ⟨piece, hpiece, hc⟩ := List.mem_flatMap.mp hc
    rw [List.eq_of_mem_replicate hpiece] at hc
    exact List.all_eq_true.mp hwhite c hc
  cases language with
  | python => exact hrepeated _ _ (by decide)
  | typeScript => exact hrepeated _ _ (by decide)

/-- A text, followed by a mark for what should no longer be used. -/
def withDeprecation : Language → Bool → String → String
  | .python => Python.withDeprecation
  | .typeScript => TypeScript.withDeprecation

end Language

/-- The type of the value that a call returns, as a comment names it. -/
def TypeScript.returnedName (model : Model) (method : Method) : String :=
  match spellings.spelled .methods model method.returnType with
  | .ok spelling => spelling.name
  | .error _ => ""

/-- The line that the comment on a method begins with. -/
def TypeScript.heading (model : Model) (method : Method) : String :=
  method.verb.name ++ " " ++ method.endpoint ++ " -> " ++ returnedName model method

namespace Language

/-- The lines that the comment on a method begins with. -/
def headings (language : Language) (model : Model) (method : Method) : List String :=
  match language with
  | .python => []
  | .typeScript => [TypeScript.heading model method]

/-- The texts that these lines are made of. -/
def headingSources (language : Language) (model : Model) (method : Method) : List String :=
  match language with
  | .python => []
  | .typeScript => [method.endpoint, TypeScript.returnedName model method]

end Language

namespace Documented

/-- The level of indentation that it is written at. -/
def level : Documented → Nat
  | .type _ => 0
  | .property _ | .method _ | .streamer _ => 1

/-- The text in the comment. -/
def comment (language : Language) (model : Model) : Documented → String
  | .type id => language.withDeprecation (model.node id).deprecated (model.node id).description
  | .property p =>
    match language with
    | .python => ""
    | .typeScript => language.withDeprecation p.deprecated p.description
  | .method m | .streamer m => language.withDeprecation m.deprecated
      (paragraphs (language.headings model m ++ [m.summary, m.description]))

/-- The texts that the comment is made of. -/
def sources (language : Language) (model : Model) : Documented → List String
  | .type id => [(model.node id).description]
  | .property p =>
    match language with
    | .python => []
    | .typeScript => [p.description]
  | .method m | .streamer m => language.headingSources model m ++ [m.summary, m.description]

end Documented

namespace Language

variable (language : Language)

/-- A mark for what should no longer be used does not end a comment. -/
lemma contains_withDeprecation {deprecated : Bool} {text : String} :
    Text.contains language.docTerminator (language.withDeprecation deprecated text) = true ↔
      Text.contains language.docTerminator text = true := by
  have hmark : ∀ mark : List Char, ¬language.docTerminator.toList <:+: mark →
      (language.docTerminator.toList <:+: text.toList ++ '\n' :: mark ↔
        language.docTerminator.toList <:+: text.toList) := fun mark hmark => by
    rw [language.isSolid_docTerminator.infix_append_cons (by decide), or_iff_left hmark]
  rw [Text.contains_iff, Text.contains_iff]
  cases deprecated with
  | false => cases language <;> rfl
  | true =>
    cases language with
    | python =>
      rw [withDeprecation, Python.withDeprecation, if_pos rfl, String.toList_append]
      exact hmark "\nDeprecated.".toList (by decide)
    | typeScript =>
      rw [withDeprecation, TypeScript.withDeprecation, if_pos rfl, String.toList_append]
      exact hmark "\n@deprecated".toList (by decide)

/-- What ends a comment occurs in paragraphs exactly if it occurs in one of them. -/
lemma contains_paragraphs {texts : List String} :
    Text.contains language.docTerminator (paragraphs texts) = true ↔
      ∃ text ∈ texts, Text.contains language.docTerminator text = true := by
  have hsolid := language.isSolid_docTerminator
  have hempty : ∀ text : String, language.docTerminator.toList <:+: text.toList →
      text.isEmpty = false := by
    intro text hoccurs
    rw [Bool.eq_false_iff, Ne, String.isEmpty_iff]
    rintro rfl
    exact hsolid.ne_nil (List.infix_nil.mp hoccurs)
  rw [Text.contains_iff, paragraphs, String.toList_intercalate,
    hsolid.infix_intercalate (by decide) (by decide)]
  simp only [List.mem_map, exists_exists_and_eq_and, List.mem_filter, Text.contains_iff]
  refine exists_congr fun text => ⟨fun h => ⟨h.1.1, h.2⟩, fun h => ⟨⟨h.1, ?_⟩, h.2⟩⟩
  rw [hempty text h.2, Bool.not_false]

/-- What ends a comment occurs in the lines that the comment on a method begins with exactly if it
occurs in a text that they are made of. -/
lemma exists_contains_headings (model : Model) (method : Method) :
    (∃ text ∈ language.headings model method, Text.contains language.docTerminator text = true) ↔
      ∃ text ∈ language.headingSources model method,
        Text.contains language.docTerminator text = true := by
  cases language with
  | python => rfl
  | typeScript =>
    have hsolid := isSolid_docTerminator .typeScript
    have hsplit : (TypeScript.heading model method).toList = method.verb.name.toList ++
        ' ' :: (method.endpoint.toList ++ ' ' :: ("->".toList ++
          ' ' :: (TypeScript.returnedName model method).toList)) := by
      simp [TypeScript.heading]
    have hverb : ¬(docTerminator .typeScript).toList <:+: method.verb.name.toList := by
      cases method.verb <;> decide
    simp only [headings, headingSources, List.mem_cons, List.not_mem_nil, or_false,
      exists_eq_left, exists_eq_or_imp, Text.contains_iff]
    rw [hsplit, hsolid.infix_append_cons (by decide), or_iff_right hverb,
      hsolid.infix_append_cons (by decide), hsolid.infix_append_cons (by decide),
      or_iff_right (by decide : ¬(docTerminator .typeScript).toList <:+: "->".toList)]

/-- What ends a comment occurs in the text of a comment exactly if it occurs in a text that this is
made of. -/
theorem contains_comment_iff (item : Documented) (model : Model) :
    Text.contains language.docTerminator (item.comment language model) = true ↔
      ∃ source ∈ item.sources language model,
        Text.contains language.docTerminator source = true := by
  have hmethod : ∀ method : Method, Text.contains language.docTerminator
      (language.withDeprecation method.deprecated
        (paragraphs (language.headings model method ++ [method.summary, method.description]))) =
          true ↔
      ∃ source ∈ language.headingSources model method ++ [method.summary, method.description],
        Text.contains language.docTerminator source = true := by
    intro method
    rw [contains_withDeprecation, contains_paragraphs]
    simp only [List.mem_append, or_and_right, exists_or, exists_contains_headings]
  cases item with
  | type id =>
    rw [Documented.comment, contains_withDeprecation, Documented.sources]
    simp only [List.mem_singleton, exists_eq_left]
  | property property =>
    cases language with
    | python => exact iff_of_false Bool.false_ne_true fun ⟨_, hmem, _⟩ => List.not_mem_nil hmem
    | typeScript =>
      rw [Documented.comment, contains_withDeprecation, Documented.sources]
      simp only [List.mem_singleton, exists_eq_left]
  | method method => exact hmethod method
  | streamer method => exact hmethod method

end Language

end ClientGen
