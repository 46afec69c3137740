import Mathlib.Tactic.Lemma
import ClientGen.Generation.Endpoint
import ClientGen.Proofs.Occurrences

/-!
# Endpoints are filled in all at once

The parameters of an endpoint are replaced one after the other, each in the text that the ones
before it have left behind. The images have braces of their own. Still nothing but the endpoint
itself decides what is replaced: a name in braces is text between an opening brace and the next
closing one, and what an image puts between braces is no name of a parameter.

## Main definitions

* `ClientGen.exchange` — a text in which all names in braces are exchanged for their images at
  once.
* `ClientGen.IsSealed` — images that replacing further names leaves as they are.
* `ClientGen.IsPlainName` — names without braces and parentheses.

## Main results

* `ClientGen.replaceChars_eq_exchange` — replacing one name in braces.
* `ClientGen.exchange_exchange` — exchanging some names and then others is exchanging all of them.
* `ClientGen.fillEndpoint_eq` — filling in the parameters one after the other is filling them in
  all at once.
* `ClientGen.expression_occurs` — the image of a parameter that the endpoint names is in the path.
-/

set_option autoImplicit false

namespace ClientGen

variable {held name img text rest : List Char} {image first second : List Char → Option (List Char)}

/-! ## Exchanging names in braces -/

/-- The text in which every name in braces that has an image is exchanged for it. If a brace has
been opened, `held` is what has been read since then. -/
def exchange (image : List Char → Option (List Char)) : Option (List Char) → List Char → List Char
  | none, [] => []
  | some held, [] => '\x7b' :: held
  | none, c :: rest =>
    if c = '\x7b' then exchange image (some []) rest else c :: exchange image none rest
  | some held, c :: rest =>
    if c = '\x7b' then '\x7b' :: held ++ exchange image (some []) rest
    else if c = '\x7d' then
      (image held).getD ('\x7b' :: held ++ ['\x7d']) ++ exchange image none rest
    else exchange image (some (held ++ [c])) rest

attribute [local simp] exchange

/-- A text without braces. -/
def IsBraceFree (text : List Char) : Prop := '\x7b' ∉ text ∧ '\x7d' ∉ text

instance (text : List Char) : Decidable (IsBraceFree text) := inferInstanceAs (Decidable (_ ∧ _))

/-- A name in braces. -/
def inBraces (name : List Char) : List Char := '\x7b' :: name ++ ['\x7d']

/-- What follows a name in braces. -/
lemma inBraces_append : inBraces name ++ rest = '\x7b' :: (name ++ '\x7d' :: rest) := by
  simp [inBraces]

namespace IsBraceFree

/-- The first character of a text without braces is none. -/
lemma cons_iff {c : Char} : IsBraceFree (c :: text) ↔ (c ≠ '\x7b' ∧ c ≠ '\x7d') ∧
    IsBraceFree text := by
  simp only [IsBraceFree, List.mem_cons, not_or, eq_comm (b := c)]
  tauto

/-- A text is without braces if its parts are. -/
lemma append_iff : IsBraceFree (held ++ text) ↔ IsBraceFree held ∧ IsBraceFree text := by
  simp only [IsBraceFree, List.mem_append, not_or]
  tauto

/-- Nothing is without braces. -/
lemma nil : IsBraceFree [] := ⟨List.not_mem_nil, List.not_mem_nil⟩

end IsBraceFree

/-- Reading on within braces. -/
lemma exchange_held_append (hname : IsBraceFree name) :
    exchange image (some held) (name ++ rest) = exchange image (some (held ++ name)) rest := by
  induction name generalizing held with
  | nil => rw [List.nil_append, List.append_nil]
  | cons c name ih =>
    obtain ⟨⟨hopen, hclose⟩, hrest⟩ := IsBraceFree.cons_iff.mp hname
    rw [List.cons_append, exchange, if_neg hopen, if_neg hclose, ih hrest, List.append_assoc,
      List.singleton_append]

/-- Text without an opening brace stays. -/
lemma exchange_append (htext : '\x7b' ∉ text) :
    exchange image none (text ++ rest) = text ++ exchange image none rest := by
  induction text with
  | nil => rfl
  | cons c text ih =>
    obtain ⟨hc, htext⟩ := not_or.mp (mt List.mem_cons.mpr htext)
    rw [List.cons_append, exchange, if_neg (Ne.symm hc), ih htext, List.cons_append]

/-- A name in braces is exchanged for its image, if it has one. -/
lemma exchange_inBraces (hname : IsBraceFree name) :
    exchange image none (inBraces name ++ rest) =
      (image name).getD (inBraces name) ++ exchange image none rest := by
  rw [inBraces_append, exchange, if_pos rfl, exchange_held_append hname, List.nil_append, exchange,
    if_neg (by decide), if_pos rfl]
  rfl

/-- An opening brace begins anew. -/
lemma exchange_append_open (pending : Option (List Char)) :
    exchange image pending (text ++ '\x7b' :: rest) =
      exchange image pending text ++ exchange image (some []) rest := by
  induction text generalizing pending with
  | nil => cases pending <;> simp
  | cons c text ih =>
    cases pending with
    | none =>
      simp only [List.cons_append, exchange]
      split_ifs
      · exact ih _
      · rw [ih, List.cons_append]
    | some held =>
      simp only [List.cons_append, exchange]
      split_ifs
      · rw [ih, List.cons_append, List.append_assoc]
      · rw [ih, List.append_assoc]
      · exact ih _

/-- The image of a name in braces that occurs in a text occurs in the text afterwards. -/
theorem infix_exchange (hname : IsBraceFree name) (himage : image name = some img)
    (h : inBraces name <:+: text) : img <:+: exchange image none text := by
  obtain ⟨before, after, rfl⟩ := h
  have hsplit : exchange image none (before ++ inBraces name ++ after) =
      exchange image none before ++ exchange image none (inBraces name ++ after) := by
    rw [List.append_assoc, inBraces_append, exchange_append_open, exchange, if_pos rfl]
  rw [hsplit, exchange_inBraces hname, himage, Option.getD_some]
  exact ⟨_, _, by rw [List.append_assoc]⟩

/-- If nothing has an image, the text stays as it is. -/
lemma exchange_none : exchange (fun _ => none) none text = text := by
  have hboth : ∀ text : List Char, exchange (fun _ => none) none text = text ∧
      ∀ held, exchange (fun _ => none) (some held) text = '\x7b' :: held ++ text := by
    intro text
    induction text with
    | nil => simp
    | cons c text ih =>
      obtain ⟨hnone, hsome⟩ := ih
      constructor
      · rw [exchange, hnone, hsome]
        split_ifs with hc
        · rw [hc, List.singleton_append]
        · rfl
      · intro held
        rw [exchange, hsome, hsome, hnone]
        split_ifs with hopen hclose
        · simp [hopen]
        · simp [hclose]
        · simp
  exact (hboth text).1

/-! ## Replacing one name -/

/-- The one name that has an image. -/
def only (name img : List Char) (other : List Char) : Option (List Char) :=
  if other = name then some img else none

/-- Dropping the characters that are to be skipped. -/
lemma replaceFrom_skip (pattern image : List Char) (dropped rest : List Char) :
    Text.replaceFrom pattern image dropped.length (dropped ++ rest) =
      Text.replaceFrom pattern image 0 rest := by
  induction dropped with
  | nil => rfl
  | cons c dropped ih => rw [List.length_cons, List.cons_append, Text.replaceFrom, ih]

/-- An open brace after which no name with an image goes on is one like all others. -/
lemma exchange_of_not_prefix
    (h : ∀ name img, image name = some img → ¬name ++ ['\x7d'] <+: held ++ rest) :
    exchange image (some held) rest = '\x7b' :: held ++ exchange image none rest := by
  induction rest generalizing held with
  | nil => simp
  | cons c rest ih =>
    rw [exchange, exchange]
    by_cases hopen : c = '\x7b'
    · rw [if_pos hopen, if_pos hopen]
    · rw [if_neg hopen, if_neg hopen]
      by_cases hclose : c = '\x7d'
      · have hnone : image held = none := by
          refine Option.eq_none_iff_forall_ne_some.mpr fun img himage => h held img himage ?_
          exact hclose ▸ ⟨rest, by rw [List.append_assoc, List.singleton_append]⟩
        rw [if_pos hclose, hnone, Option.getD_none, hclose]
        simp
      · have hrest : ∀ name img, image name = some img →
            ¬name ++ ['\x7d'] <+: held ++ [c] ++ rest := by
          rwa [List.append_assoc, List.singleton_append]
        rw [if_neg hclose, ih hrest]
        simp

/-- Replacing a name in braces is exchanging it for its image.

**Proof sketch.** Induction on the length of the text. Where the name in braces begins, it is
replaced and skipped. Elsewhere the first character stays, and if that is an opening brace, it is
not the one of the name in braces. -/
theorem replaceChars_eq_exchange (hname : IsBraceFree name) :
    ∀ text : List Char, Text.replaceChars (inBraces name) img text =
      exchange (only name img) none text := by
  suffices h : ∀ (n : Nat) (text : List Char), text.length ≤ n →
      Text.replaceFrom (inBraces name) img 0 text = exchange (only name img) none text from
    fun text => h text.length text (Nat.le_refl _)
  intro n
  induction n with
  | zero =>
    intro text hlen
    rw [List.length_eq_zero_iff.mp (Nat.le_zero.mp hlen)]
    simp [Text.replaceFrom]
  | succ n ih =>
    intro text hlen
    cases text with
    | nil => simp [Text.replaceFrom]
    | cons c rest =>
      have hrest : rest.length ≤ n := Nat.le_of_succ_le_succ hlen
      rw [Text.replaceFrom]
      by_cases hprefix : inBraces name <+: c :: rest
      · rw [if_pos (List.isPrefixOf_iff_prefix.mpr hprefix)]
        obtain ⟨after, hafter⟩ := hprefix
        rw [← hafter, exchange_inBraces hname, only, if_pos rfl, Option.getD_some]
        rw [inBraces_append, List.cons.injEq, List.append_cons] at hafter
        have hlength : (inBraces name).length - 1 = (name ++ ['\x7d']).length := by
          simp [inBraces]
        have hshort : after.length ≤ n := by
          rw [← hafter.2, List.length_append] at hrest
          omega
        rw [← hafter.2, hlength, replaceFrom_skip, ih after hshort]
      · rw [if_neg fun hp => hprefix (List.isPrefixOf_iff_prefix.mp hp), ih rest hrest, exchange]
        split_ifs with hopen
        · rw [hopen, exchange_of_not_prefix, List.singleton_append]
          rintro other other' himage ⟨after, hafter⟩
          unfold only at himage
          split_ifs at himage with hother
          refine hprefix ⟨after, ?_⟩
          rw [hopen, inBraces_append, List.append_cons, ← hother, hafter, List.nil_append]
        · rfl

/-! ## Replacing one name after another -/

/-- An image that ends with something in braces which is no name with an image of its own, and has
no other braces. -/
def IsSealed (image : List Char → Option (List Char)) (img : List Char) : Prop :=
  ∃ front block, IsBraceFree front ∧ IsBraceFree block ∧ image block = none ∧
    img = front ++ inBraces block

/-- A sealed image stays. -/
lemma IsSealed.exchange_append (h : IsSealed image img) :
    exchange image none (img ++ rest) = img ++ exchange image none rest := by
  obtain ⟨front, block, hfront, hblock, hnone, rfl⟩ := h
  rw [List.append_assoc, ClientGen.exchange_append hfront.1, exchange_inBraces hblock, hnone,
    Option.getD_none, List.append_assoc]

/-- Whatever is read within braces, the first brace in the result is an opening one. -/
lemma exists_exchange_held_eq (hsealed : ∀ name img, first name = some img → IsSealed second img)
    (text : List Char) : ∀ held, ∃ front after, IsBraceFree front ∧
      exchange first (some held) text = front ++ '\x7b' :: after := by
  induction text with
  | nil => exact fun held => ⟨[], held, IsBraceFree.nil, rfl⟩
  | cons c text ih =>
    intro held
    rw [exchange]
    split_ifs
    · exact ⟨[], _, IsBraceFree.nil, rfl⟩
    · cases himage : first held with
      | none => exact ⟨[], _, IsBraceFree.nil, rfl⟩
      | some img =>
        obtain ⟨front, block, hfront, -, -, rfl⟩ := hsealed held img himage
        refine ⟨front, block ++ '\x7d' :: exchange first none text, hfront, ?_⟩
        rw [Option.getD_some, List.append_assoc, inBraces_append]
    · exact ih _

/-- What is read within braces before an opening one stays. -/
lemma exchange_held_open {front after : List Char} (hfront : IsBraceFree front) :
    exchange image (some held) (front ++ '\x7b' :: after) =
      '\x7b' :: held ++ exchange image none (front ++ '\x7b' :: after) := by
  rw [exchange_held_append hfront, exchange, if_pos rfl, exchange_append hfront.1, exchange,
    if_pos rfl]
  simp

/-- Exchanging some names and then others is exchanging all of them at once, if the images of the
former are sealed.

**Proof sketch.** Induction on the text, of which some may have been read within braces. An image
that has been put in is passed over. What has been read within braces is passed over as well when
the next brace is an opening one, and it is still so when images have been put in, since they begin
with an opening brace. -/
theorem exchange_exchange (hsealed : ∀ name img, first name = some img → IsSealed second img)
    (text : List Char) : exchange second none (exchange first none text) =
      exchange (fun name => (first name).or (second name)) none text := by
  suffices h : ∀ text : List Char,
      exchange second none (exchange first none text) =
          exchange (fun name => (first name).or (second name)) none text ∧
        ∀ held, IsBraceFree held → exchange second none (exchange first (some held) text) =
          exchange (fun name => (first name).or (second name)) (some held) text from (h text).1
  intro text
  induction text with
  | nil =>
    refine ⟨rfl, fun held hheld => ?_⟩
    have hread : exchange second (some []) (held ++ []) = exchange second (some held) [] :=
      exchange_held_append hheld
    rw [List.append_nil] at hread
    rw [exchange]
    exact hread
  | cons c text ih =>
    obtain ⟨hnone, hsome⟩ := ih
    refine ⟨?_, fun held hheld => ?_⟩
    · rw [exchange, exchange]
      split_ifs with hopen
      · exact hsome [] IsBraceFree.nil
      · rw [exchange, if_neg hopen, hnone]
    · rw [exchange, exchange]
      split_ifs with hopen hclose
      · obtain ⟨front, after, hfront, heq⟩ := exists_exchange_held_eq hsealed text []
        rw [List.cons_append, exchange, if_pos rfl, exchange_held_append hheld, List.nil_append,
          heq, exchange_held_open hfront, ← heq, hsome [] IsBraceFree.nil, List.cons_append]
      · cases himage : first held with
        | none =>
          rw [Option.getD_none, Option.none_or, ← hnone]
          exact exchange_inBraces hheld
        | some img =>
          rw [Option.getD_some, Option.some_or, Option.getD_some, ← hnone]
          exact (hsealed held img himage).exchange_append
      · exact hsome _ (IsBraceFree.append_iff.mpr
          ⟨hheld, IsBraceFree.cons_iff.mpr ⟨⟨hopen, hclose⟩, IsBraceFree.nil⟩⟩)

/-! ## The parameters of an endpoint -/

/-- A name without braces and parentheses. -/
def IsPlainName (name : String) : Prop :=
  IsBraceFree name.toList ∧ '(' ∉ name.toList ∧ ')' ∉ name.toList

instance (name : String) : Decidable (IsPlainName name) := inferInstanceAs (Decidable (_ ∧ _ ∧ _))

/-- An expression that may stand for a parameter in a path: something in braces that is no plain
name, since it has a parenthesis, with text without braces before it. -/
def IsExpression (expression : String) : Prop :=
  ∃ front block, IsBraceFree front ∧ IsBraceFree block ∧ '(' ∈ block ∧
    expression.toList = front ++ inBraces block

/-- The expression for the first of the parameters that has a name. -/
def expressionFor? (expression : Parameter → String) (parameters : List Parameter)
    (name : List Char) : Option (List Char) :=
  (parameters.find? (·.name.toList = name)).map fun p => (expression p).toList

section Fill

variable {expression : Parameter → String} {parameters : List Parameter} {parameter : Parameter}

/-- A parameter as an endpoint names it is its name in braces. -/
lemma toList_placeholder (parameter : Parameter) :
    (placeholder parameter).toList = inBraces parameter.name.toList := by
  rw [placeholder, String.toList_append, String.toList_append, inBraces]
  rfl

/-- The name of a parameter has its expression, if parameters of one name have one expression. -/
lemma expressionFor?_of_mem
    (hname : ∀ p ∈ parameters, ∀ q ∈ parameters, p.name = q.name → expression p = expression q)
    (hmem : parameter ∈ parameters) :
    expressionFor? expression parameters parameter.name.toList =
      some (expression parameter).toList := by
  rw [expressionFor?]
  cases hfind : parameters.find? (·.name.toList = parameter.name.toList) with
  | none => simpa using List.find?_eq_none.mp hfind parameter hmem
  | some q =>
    have hq : q.name.toList = parameter.name.toList := by simpa using List.find?_some hfind
    rw [Option.map_some, hname q (List.mem_of_find?_eq_some hfind) parameter hmem
      (String.toList_inj.mp hq)]

/-- An expression is sealed, if all parameters have plain names. -/
lemma IsExpression.isSealed {text : String} (h : IsExpression text)
    (hplain : ∀ p ∈ parameters, IsPlainName p.name) :
    IsSealed (expressionFor? expression parameters) text.toList := by
  obtain ⟨front, block, hfront, hblock, hparen, heq⟩ := h
  refine ⟨front, block, hfront, hblock, ?_, heq⟩
  rw [expressionFor?, Option.map_eq_none_iff, List.find?_eq_none]
  intro p hp hname
  rw [← of_decide_eq_true hname] at hparen
  exact (hplain p hp).2.1 hparen

/-- The call of a function with a value is an expression. -/
lemma isExpression_call {opening front function value : String}
    (hopening : opening.toList = front.toList ++ '\x7b' :: function.toList ++ ['('])
    (hfront : IsBraceFree front.toList) (hfunction : IsBraceFree function.toList)
    (hvalue : IsBraceFree value.toList) : IsExpression (opening ++ value ++ ")\x7d") := by
  have hclosing : ")\x7d".toList = [')', '\x7d'] := by decide
  refine ⟨front.toList, function.toList ++ '(' :: value.toList ++ [')'], hfront, ?_, by simp, ?_⟩
  · rw [IsBraceFree.append_iff, IsBraceFree.append_iff, IsBraceFree.cons_iff]
    exact ⟨⟨hfunction, by decide, hvalue⟩, by constructor <;> decide⟩
  · simp only [String.toList_append, hopening, hclosing, inBraces]
    simp

/-- Filling in the parameters of an endpoint one after the other is exchanging all their names in
braces for their expressions at once. Of several parameters with one name the first one counts.

**Proof sketch.** Induction on the parameters: the first one is replaced in the endpoint, and its
expressions stay when the others are. -/
theorem fillEndpoint_eq (hplain : ∀ p ∈ parameters, IsPlainName p.name)
    (hexpression : ∀ p ∈ parameters, IsExpression (expression p)) (endpoint : String) :
    fillEndpoint expression parameters endpoint =
      String.ofList (exchange (expressionFor? expression parameters) none endpoint.toList) := by
  induction parameters generalizing endpoint with
  | nil =>
    show endpoint = String.ofList (exchange (fun _ => none) none endpoint.toList)
    rw [exchange_none, String.ofList_toList]
  | cons p parameters ih =>
    have hplain' : ∀ p ∈ parameters, IsPlainName p.name :=
      fun q hq => hplain q (List.mem_cons_of_mem _ hq)
    have hsealed : ∀ name img, only p.name.toList (expression p).toList name = some img →
        IsSealed (expressionFor? expression parameters) img := by
      intro name img himage
      unfold only at himage
      split_ifs at himage
      obtain rfl := Option.some.inj himage
      exact (hexpression p List.mem_cons_self).isSealed hplain'
    have hboth : (fun name => (only p.name.toList (expression p).toList name).or
        (expressionFor? expression parameters name)) =
          expressionFor? expression (p :: parameters) := by
      funext name
      rw [expressionFor?, expressionFor?, List.find?_cons, only]
      by_cases hname : name = p.name.toList
      · simp [hname]
      · simp [hname, Ne.symm hname]
    have hone : Text.replaceChars (placeholder p).toList (expression p).toList endpoint.toList =
        exchange (only p.name.toList (expression p).toList) none endpoint.toList := by
      rw [toList_placeholder]
      exact replaceChars_eq_exchange (hplain p List.mem_cons_self).1 _
    show fillEndpoint expression parameters (Text.replace _ _ endpoint) = _
    rw [ih hplain' (fun q hq => hexpression q (List.mem_cons_of_mem _ hq)), Text.replace, hone,
      String.toList_ofList, exchange_exchange hsealed, hboth]

/-- The expression of a parameter that an endpoint names occurs in the path, if parameters of one
name have one expression. -/
theorem expression_occurs (hplain : ∀ p ∈ parameters, IsPlainName p.name)
    (hexpression : ∀ p ∈ parameters, IsExpression (expression p))
    (hname : ∀ p ∈ parameters, ∀ q ∈ parameters, p.name = q.name → expression p = expression q)
    (hmem : parameter ∈ parameters) {endpoint : String}
    (h : Text.contains (placeholder parameter) endpoint = true) :
    Text.contains (expression parameter) (fillEndpoint expression parameters endpoint) = true := by
  rw [Text.contains_iff, toList_placeholder] at h
  rw [Text.contains_iff, fillEndpoint_eq hplain hexpression, String.toList_ofList]
  exact infix_exchange (hplain parameter hmem).1 (expressionFor?_of_mem hname hmem) h

end Fill

end ClientGen
