import ClientGen.Method.Basic
import ClientGen.Proofs.Words

/-!
# Primary responses

A method is made if some response tells of success and some response is known to be text or binary
data. Its primary response is the first one in the best of three groups: JSON content of success,
other content of success, and successes without content.

## Main definitions

* `ClientGen.Response.IsContent`, `ClientGen.Response.IsJsonContent` — the groups of responses.
* `ClientGen.IsFirst` — the place of the first item that a condition holds of.
* `ClientGen.Response.IsPrimary` — the place of the primary response.

## Main results

* `ClientGen.Unicode.prefix_toLowerAfter_iff` — which texts begin with a word in lower case.
* `ClientGen.Response.primary?_eq_some_iff`, `ClientGen.Response.primary?_eq_none_iff` — which
  response is the primary one, and when there is none.
* `ClientGen.Method.ofParts_selects` — which methods are made, and what of.
-/

set_option autoImplicit false

namespace ClientGen

/-! ## Beginnings up to case -/

namespace Unicode

variable {c d : Char} {word text before : List Char}

/-- The lower case of a character of ASCII. -/
lemma toLowerChars_of_isAscii (hc : isAscii c = true) : toLowerChars c = [c.toLower] := by
  have hall : ∀ n < 128, toLowerChars (Char.ofNat n) = [(Char.ofNat n).toLower] := by
    decide
  have himage := hall c.toNat (of_decide_eq_true hc)
  rwa [Char.ofNat_toNat] at himage

/-- A character that is none of ASCII has no other case there. -/
lemma toLower_of_not_isAscii (hc : isAscii c ≠ true) : c.toLower = c := by
  have hlarge : ¬c.toNat < 128 := fun h => hc (decide_eq_true h)
  refine dif_neg fun hupper => hlarge ?_
  have hle : c.toNat ≤ 'Z'.toNat := UInt32.le_iff_toNat_le.mp hupper.2
  exact hle.trans_lt (by decide)

/-- A word of ASCII to which nothing outside of ASCII is mapped: no other character has a letter of
it for its lower case, but for one that is mapped to an `i` with a dot, and the word does not end
with that letter. -/
structure IsSteady (word : List Char) : Prop where
  ascii : ∀ d ∈ word, isAscii d = true
  misses : ∀ d ∈ word, Misses d [] CaseTable.lowerRuns.tail
  getLast? : word.getLast? ≠ some 'i'

/-- What a steady word ends with is steady. -/
lemma IsSteady.tail (h : IsSteady (d :: word)) : IsSteady word where
  ascii e he := h.ascii e (List.mem_cons_of_mem d he)
  misses e he := h.misses e (List.mem_cons_of_mem d he)
  getLast? := by
    cases word with
    | nil => simp
    | cons e word => simpa using h.getLast?

/-- The run of the capital letters of ASCII is the only one that holds a character of ASCII. -/
lemma mapRuns_tail {n : Nat} (hn : 128 ≤ n) :
    mapRuns CaseTable.lowerRuns n = mapRuns CaseTable.lowerRuns.tail n := by
  have hlarge : ¬n ≤ 0x5A := by omega
  have hcapitals : CaseRun.image? ⟨0x41, 0x5A, 1, 0x61⟩ n = none := if_neg fun h => hlarge h.2.1
  have hruns : CaseTable.lowerRuns = ⟨0x41, 0x5A, 1, 0x61⟩ :: CaseTable.lowerRuns.tail := rfl
  rw [mapRuns, hruns, List.findSome?_cons, hcapitals]
  rfl

/-- The lower case of a character that is none of ASCII does not begin with a steady word. -/
lemma not_prefix_toLowerChars (hword : IsSteady (d :: word)) (hc : isAscii c ≠ true)
    (more : List Char) : ¬d :: word <+: toLowerChars c ++ more := by
  have hlarge : 128 ≤ c.toNat := Nat.le_of_not_lt fun h => hc (decide_eq_true h)
  have hd : d.toNat < 128 := of_decide_eq_true (hword.ascii d List.mem_cons_self)
  rw [toLowerChars, if_neg hc]
  split
  next image hfound =>
    obtain ⟨before, after, hentries, -⟩ := List.lookup_eq_some_iff.mp hfound
    have hall : ∀ entry ∈ CaseTable.lowerSequences, entry.2 = [0x69, 0x307] := by decide
    obtain rfl : image = [0x69, 0x307] :=
      hall (c.toNat, image) (hentries ▸ List.mem_append_right _ List.mem_cons_self)
    show ¬d :: word <+: 'i' :: Char.ofNat 0x307 :: more
    rw [List.cons_prefix_cons]
    rintro ⟨rfl, hprefix⟩
    cases word with
    | nil => exact hword.getLast? rfl
    | cons e word =>
      have he : isAscii e = true := hword.ascii e (by simp)
      rw [(List.cons_prefix_cons.mp hprefix).1] at he
      exact absurd he (by decide)
  next =>
    rw [mapRuns_tail hlarge, List.singleton_append, List.cons_prefix_cons]
    have hmisses := hword.misses d List.mem_cons_self
    exact fun h => ofNat_ne hmisses.1 (hmisses.mapRuns_ne (by omega)) h.1.symm

/-- The lower case of a text begins with a steady word just if the text does, up to the case of the
characters of ASCII.

**Proof sketch.** Induction on the word. A character of ASCII is mapped to its lower case. Any
other character is mapped to something that the word does not go on with. -/
theorem prefix_toLowerAfter_iff (hword : IsSteady word) :
    word <+: toLowerAfter before text ↔ word <+: text.map Char.toLower := by
  induction word generalizing before text with
  | nil => simp
  | cons d word ih =>
    cases text with
    | nil => simp [toLowerAfter]
    | cons c rest =>
      have hsigma : isAscii 'Σ' ≠ true := by decide
      by_cases hc : isAscii c = true
      · have hne : c ≠ 'Σ' := fun he => hsigma (he ▸ hc)
        rw [toLowerAfter, if_neg hne, toLowerChars_of_isAscii hc, List.singleton_append,
          List.map_cons, List.cons_prefix_cons, List.cons_prefix_cons, ih hword.tail]
      · have hd : isAscii d = true := hword.ascii d List.mem_cons_self
        refine iff_of_false ?_ ?_
        · rw [toLowerAfter]
          split_ifs with hcase hfinal
          · rw [List.singleton_append, List.cons_prefix_cons]
            rintro ⟨rfl, -⟩
            exact absurd hd (by decide)
          · rw [List.singleton_append, List.cons_prefix_cons]
            rintro ⟨rfl, -⟩
            exact absurd hd (by decide)
          · exact not_prefix_toLowerChars hword hc _
        · rw [List.map_cons, List.cons_prefix_cons, toLower_of_not_isAscii hc]
          rintro ⟨rfl, -⟩
          exact hc hd

end Unicode

/-! ## First places -/

section First

variable {α : Type} {items : List α} {condition : α → Prop} {place other : Nat}

/-- The first item that the condition holds of is at the given place. -/
structure IsFirst (condition : α → Prop) (items : List α) (place : Nat) : Prop where
  holds : ∃ item, items[place]? = some item ∧ condition item
  earlier : ∀ earlier < place, ∀ item, items[earlier]? = some item → ¬condition item

/-- The search for a place finds the first one. -/
lemma findIdx?_eq_some_iff {test : α → Bool} (htest : ∀ item, test item = true ↔ condition item) :
    items.findIdx? test = some place ↔ IsFirst condition items place := by
  rw [List.findIdx?_eq_some_iff_getElem]
  constructor
  · rintro ⟨hplace, hholds, hearlier⟩
    refine ⟨⟨items[place], List.getElem?_eq_getElem hplace, (htest _).mp hholds⟩, ?_⟩
    intro earlier hlt item hitem hcondition
    obtain ⟨hlength, rfl⟩ := List.getElem?_eq_some_iff.mp hitem
    exact hearlier earlier hlt ((htest _).mpr hcondition)
  · rintro ⟨⟨item, hitem, hcondition⟩, hearlier⟩
    obtain ⟨hplace, rfl⟩ := List.getElem?_eq_some_iff.mp hitem
    refine ⟨hplace, (htest _).mpr hcondition, fun earlier hlt htrue => ?_⟩
    exact hearlier earlier hlt _ (List.getElem?_eq_getElem (hlt.trans hplace))
      ((htest _).mp htrue)

/-- The search finds no place just if the condition holds of no item. -/
lemma findIdx?_eq_none_iff {test : α → Bool} (htest : ∀ item, test item = true ↔ condition item) :
    items.findIdx? test = none ↔ ∀ item ∈ items, ¬condition item := by
  rw [List.findIdx?_eq_none_iff]
  simp only [← htest, Bool.not_eq_true]

end First

/-! ## The primary response -/

namespace Response

variable {response : Response} {responses : List Response} {place : Nat}

/-- The response tells of success. -/
def IsSuccessful (response : Response) : Prop := 200 ≤ response.status ∧ response.status ≤ 299

instance : Decidable response.IsSuccessful := inferInstanceAs (Decidable (_ ∧ _))

/-- The response tells of success and may have content. -/
def IsContent (response : Response) : Prop := response.IsSuccessful ∧ response.status ≠ 204

/-- The response tells of success and has JSON for its content: its media type begins with that of
JSON, in any case. -/
def IsJsonContent (response : Response) : Prop :=
  response.IsContent ∧
    "application/json".toList <+: response.mediaType.toList.map Char.toLower

/-- The place of the primary response: that of the first JSON content of success, or else that of
the first content of success, or else that of the first success without content. -/
inductive IsPrimary (responses : List Response) (place : Nat) : Prop
  /-- There is JSON content. -/
  | json : IsFirst IsJsonContent responses place → IsPrimary responses place
  /-- There is content, and none of it is JSON. -/
  | content : (∀ r ∈ responses, ¬r.IsJsonContent) → IsFirst IsContent responses place →
      IsPrimary responses place
  /-- There is no content. -/
  | empty : (∀ r ∈ responses, ¬r.IsContent) → IsFirst (·.status = 204) responses place →
      IsPrimary responses place

/-- The test for a success. -/
lemma isSuccess_iff : response.isSuccess = true ↔ response.IsSuccessful := by
  simp [isSuccess, IsSuccessful, Nat.lt_succ_iff]

/-- The test for content. -/
lemma isContentful_iff : response.isContentful = true ↔ response.IsContent := by
  rw [isContentful, Bool.and_eq_true, isSuccess_iff, decide_eq_true_iff, IsContent]

set_option maxRecDepth 10000 in
/-- Nothing outside of ASCII is mapped to the media type of JSON. -/
lemma isSteady_json : Unicode.IsSteady "application/json".toList := by
  have hascii : "application/json".toList.all Unicode.isAscii = true := by decide
  have hmisses : ("application/json".toList.all fun d =>
      decide (Unicode.Misses d [] Unicode.CaseTable.lowerRuns.tail)) = true := by
    decide
  exact ⟨List.all_eq_true.mp hascii,
    fun d hd => of_decide_eq_true (List.all_eq_true.mp hmisses d hd), by decide⟩

/-- The test for the media type of JSON. -/
lemma isJson_iff : response.isJson = true ↔
    "application/json".toList <+: response.mediaType.toList.map Char.toLower := by
  have hlower : (Unicode.toLower response.mediaType).toList =
      Unicode.toLowerAfter [] response.mediaType.toList := String.toList_ofList
  rw [isJson, Text.beginsWith, List.isPrefixOf_iff_prefix, hlower,
    Unicode.prefix_toLowerAfter_iff isSteady_json]

/-- The test for JSON content. -/
lemma isJsonContent_iff :
    (response.isContentful && response.isJson) = true ↔ response.IsJsonContent := by
  rw [Bool.and_eq_true, isContentful_iff, isJson_iff, IsJsonContent]

/-- The place of the primary response is searched for three times. -/
lemma map_primary? (responses : List Response) : (primary? responses).map Fin.val =
    (responses.findIdx? fun r => r.isContentful && r.isJson).or
      ((responses.findIdx? isContentful).or (responses.findIdx? (·.status = 204))) := by
  simp only [primary?, List.findIdx?_eq_map_findFinIdx?_val, Option.map_or]

/-- A success has content or none. -/
lemma isSuccessful_iff : response.IsSuccessful ↔ response.IsContent ∨ response.status = 204 := by
  unfold IsContent IsSuccessful
  omega

/-- The primary response is at the place that it should be at. -/
theorem primary?_eq_some_iff :
    (primary? responses).map Fin.val = some place ↔ IsPrimary responses place := by
  rw [map_primary?, Option.or_eq_some_iff, Option.or_eq_some_iff,
    findIdx?_eq_some_iff fun r => isJsonContent_iff,
    findIdx?_eq_none_iff fun r => isJsonContent_iff,
    findIdx?_eq_some_iff fun r => isContentful_iff,
    findIdx?_eq_none_iff fun r => isContentful_iff,
    findIdx?_eq_some_iff fun r => decide_eq_true_iff]
  constructor
  · rintro (hjson | ⟨hnone, hcontent | ⟨hnone, hempty⟩⟩)
    · exact .json hjson
    · exact .content hnone hcontent
    · exact .empty hnone hempty
  · rintro (hjson | ⟨hnone, hcontent⟩ | ⟨hnone, hempty⟩)
    · exact Or.inl hjson
    · exact Or.inr ⟨hnone, Or.inl hcontent⟩
    · exact Or.inr ⟨fun r hr hjson => hnone r hr hjson.1, Or.inr ⟨hnone, hempty⟩⟩

/-- There is no primary response just if no response tells of success. -/
theorem primary?_eq_none_iff : primary? responses = none ↔ ∀ r ∈ responses, ¬r.IsSuccessful := by
  rw [← Option.map_eq_none_iff (f := Fin.val), map_primary?, Option.or_eq_none_iff,
    Option.or_eq_none_iff, findIdx?_eq_none_iff fun r => isJsonContent_iff,
    findIdx?_eq_none_iff fun r => isContentful_iff,
    findIdx?_eq_none_iff fun r => decide_eq_true_iff]
  simp only [isSuccessful_iff, not_or]
  constructor
  · exact fun ⟨_, hcontent, hempty⟩ r hr => ⟨hcontent r hr, hempty r hr⟩
  · exact fun h => ⟨fun r hr hjson => (h r hr).1 hjson.1, fun r hr => (h r hr).1,
      fun r hr => (h r hr).2⟩

end Response

/-! ## Making methods -/

namespace Method

variable {operationId endpoint : String} {verb : Verb} {schema : Json}
  {parameters : List Parameter} {responses : List Response}

/-- The modes of a method are those of its responses. -/
lemma mem_modes {method : Method} {mode : ResponseMode} : mode ∈ method.modes ↔
    ∃ r ∈ method.responses, ResponseMode.ofMediaType? r.mediaType = some mode := by
  have hmem : mode ∈ [ResponseMode.text, .binary] := by cases mode <;> decide
  rw [modes, List.mem_filter, and_iff_right hmem, hasMode, List.any_eq_true]
  simp only [decide_eq_true_eq]
  rfl

/-- What becomes of parts: they are refused without a response of success, and then without a
response whose media type is known, and else they make up a method. -/
lemma ofParts_cases (operationId : String) (verb : Verb) (endpoint : String) (schema : Json)
    (parameters : List Parameter) (responses : List Response) :
    (∀ r ∈ responses, ¬r.IsSuccessful) ∧
      ofParts operationId verb endpoint schema parameters responses =
        .error (.missingPrimaryResponse endpoint ((schema.get? "responses").getD .null)) ∨
    (∃ r ∈ responses, r.IsSuccessful) ∧
      (∀ r ∈ responses, ResponseMode.ofMediaType? r.mediaType = none) ∧
      ofParts operationId verb endpoint schema parameters responses =
        .error (.unknownResponseMode operationId (responses.map (·.mediaType))) ∨
    (∃ r ∈ responses, r.IsSuccessful) ∧
      (∃ r ∈ responses, (ResponseMode.ofMediaType? r.mediaType).isSome = true) ∧
      ∃ primary, Response.primary? responses = some primary ∧
        ofParts operationId verb endpoint schema parameters responses =
          .ok { operationId, verb, endpoint, schema, parameters, responses, primary } := by
  unfold ofParts
  cases hprimary : Response.primary? responses with
  | none => exact Or.inl ⟨Response.primary?_eq_none_iff.mp hprimary, rfl⟩
  | some primary =>
    have hsuccess : ∃ r ∈ responses, r.IsSuccessful := by
      by_contra hnone
      push Not at hnone
      rw [Response.primary?_eq_none_iff.mpr hnone] at hprimary
      exact absurd hprimary (by simp)
    refine Or.inr ?_
    by_cases hmode : responses.any (·.mode?.isSome) = true
    · exact Or.inr ⟨hsuccess, List.any_eq_true.mp hmode, primary, rfl, if_pos hmode⟩
    · refine Or.inl ⟨hsuccess, fun r hr => ?_, if_neg hmode⟩
      by_contra hsome
      exact hmode (List.any_eq_true.mpr ⟨r, hr, Option.isSome_iff_ne_none.mpr hsome⟩)

/-- A method is made just if some response tells of success and the media type of some response is
known. Without a success the primary response is missing, and otherwise, without such a media type,
the mode is unknown. The modes of a method are those of its responses, and there is one. Its primary
response is the first JSON content of success, or else the first content of success, or else the
first success without content. -/
theorem ofParts_selects (operationId : String) (verb : Verb) (endpoint : String) (schema : Json)
    (parameters : List Parameter) (responses : List Response) :
    ((∃ method, ofParts operationId verb endpoint schema parameters responses = .ok method) ↔
      (∃ r ∈ responses, r.IsSuccessful) ∧
      ∃ r ∈ responses, (ResponseMode.ofMediaType? r.mediaType).isSome = true) ∧
    ((∀ r ∈ responses, ¬r.IsSuccessful) →
      ofParts operationId verb endpoint schema parameters responses =
        .error (.missingPrimaryResponse endpoint ((schema.get? "responses").getD .null))) ∧
    ((∃ r ∈ responses, r.IsSuccessful) →
      (∀ r ∈ responses, ResponseMode.ofMediaType? r.mediaType = none) →
      ofParts operationId verb endpoint schema parameters responses =
        .error (.unknownResponseMode operationId (responses.map (·.mediaType)))) ∧
    ∀ method, ofParts operationId verb endpoint schema parameters responses = .ok method →
      method.responses = responses ∧
      method.modes ≠ [] ∧ method.modes.Nodup ∧
      (∀ mode, mode ∈ method.modes ↔
        ∃ r ∈ responses, ResponseMode.ofMediaType? r.mediaType = some mode) ∧
      responses[method.primary.val]? = some method.primaryResponse ∧
      ∀ place, Response.IsPrimary responses place ↔ place = method.primary.val := by
  rcases ofParts_cases operationId verb endpoint schema parameters responses with
    ⟨hnone, hparts⟩ | ⟨⟨success, hmem, hsuccess⟩, hnone, hparts⟩ |
      ⟨hsuccess, ⟨known, hmem, hknown⟩, primary, hprimary, hparts⟩
  · rw [hparts]
    refine ⟨iff_of_false (by simp) fun ⟨⟨r, hr, hsuccess⟩, _⟩ => hnone r hr hsuccess,
      fun _ => rfl, fun ⟨r, hr, hsuccess⟩ => absurd hsuccess (hnone r hr), by simp⟩
  · rw [hparts]
    refine ⟨iff_of_false (by simp) fun ⟨_, r, hr, hknown⟩ => ?_,
      fun h => absurd hsuccess (h success hmem), fun _ _ => rfl, by simp⟩
    rw [hnone r hr] at hknown
    exact Bool.false_ne_true hknown
  · rw [hparts]
    refine ⟨iff_of_true ⟨_, rfl⟩ ⟨hsuccess, known, hmem, hknown⟩, fun hnone => ?_,
      fun _ hnone => ?_, ?_⟩
    · obtain ⟨r, hr, hr'⟩ := hsuccess
      exact absurd hr' (hnone r hr)
    · rw [hnone known hmem] at hknown
      exact absurd hknown Bool.false_ne_true
    · rintro _ ⟨⟩
      obtain ⟨mode, hmode⟩ := Option.isSome_iff_exists.mp hknown
      refine ⟨rfl, List.ne_nil_of_mem (mem_modes.mpr ⟨known, hmem, hmode⟩),
        List.Pairwise.filter _ (by decide), fun _ => mem_modes,
        List.getElem?_eq_getElem primary.isLt, fun place => ?_⟩
      rw [← Response.primary?_eq_some_iff, hprimary, Option.map_some, Option.some_inj, eq_comm]

/-- Responses with the two kinds of success, among them JSON content whose media type is in capital
letters, and a failure. -/
def mixedResponses : List Response :=
  [{ status := 404, mediaType := "application/json", type := 0 },
    { status := 204, mediaType := "", type := 0 },
    { status := 200, mediaType := "text/plain", type := 0 },
    { status := 201, mediaType := "Application/JSON; charset=utf-8", type := 0 }]

/-- A method with these responses has the last one for its primary response. Of the failure alone no
method is made, and none of the success without content. -/
theorem ofParts_selects_mixed :
    (∃ method, ofParts "find" .get "/" .null [] mixedResponses = .ok method ∧
      method.modes ≠ [] ∧ method.primary.val = 3) ∧
    ofParts "find" .get "/" .null [] (mixedResponses.take 1) =
      .error (.missingPrimaryResponse "/" .null) ∧
    ofParts "find" .get "/" .null [] ((mixedResponses.take 2).drop 1) =
      .error (.unknownResponseMode "find" [""]) := by
  obtain ⟨hmade, -, -, hmethod⟩ := ofParts_selects "find" .get "/" .null [] mixedResponses
  obtain ⟨-, hmissing, -, -⟩ := ofParts_selects "find" .get "/" .null [] (mixedResponses.take 1)
  obtain ⟨-, -, hunknown, -⟩ :=
    ofParts_selects "find" .get "/" .null [] ((mixedResponses.take 2).drop 1)
  refine ⟨?_, hmissing (by decide), hunknown (by decide) (by decide)⟩
  obtain ⟨method, hok⟩ := hmade.mpr ⟨by decide, by decide⟩
  obtain ⟨-, hmodes, -, -, -, hprimary⟩ := hmethod method hok
  have hlast : Response.IsPrimary mixedResponses 3 :=
    Response.primary?_eq_some_iff.mp (by decide)
  exact ⟨method, hok, hmodes, ((hprimary 3).mp hlast).symm⟩

end Method

end ClientGen
