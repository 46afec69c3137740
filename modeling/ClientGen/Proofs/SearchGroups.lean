import Mathlib.Data.Set.Card
import ClientGen.Proofs.Generation.Imports
import ClientGen.Proofs.MethodViews
import ClientGen.Search

/-!
# Searching methods

A search lists the methods that it finds in the groups of their tags. Whether a method is found
depends on its own texts and on the types, and not on which other methods there are. So leaving out
methods and searching may be exchanged: what is found afterwards is what was found before, without
the methods that have been left out and without the tags that have no methods then.

## Main definitions

* `ClientGen.SearchResult.listed` — the methods that a result lists under a tag.
* `ClientGen.SearchResult.listing`, `ClientGen.SearchResult.restrictedTo` — all groups of a result,
  and what is left of them.
* `ClientGen.SearchResult.Groups` — that a result lists methods of a model in their groups.

## Main results

* `ClientGen.Searcher.findsMethod_congr` — finding a method does not depend on other methods.
* `ClientGen.Searcher.getElem?_listed_iff` — what a search lists under a tag.
* `ClientGen.Model.Reachable.search_retain` — searching after methods have been left out.
-/

set_option autoImplicit false

namespace ClientGen

/-! ## Groups -/

namespace SearchResult

variable {tags : Std.TreeMap String (Std.TreeMap String Method)} {method : Method}
  {methods : List Method} {result : SearchResult} {tag id : String}

/-- The methods that a result lists under a tag, by their identifiers. -/
def listed (result : SearchResult) (tag : String) : Std.TreeMap String Method :=
  result.tags.getD tag ∅

/-- The tags of a result in their order, each with the methods under it in the order of their
identifiers. -/
def listing (result : SearchResult) : List (String × List (String × Method)) :=
  result.tags.toList.map fun (tag, methods) => (tag, methods.toList)

/-- What is left of the groups of a result when only some of the methods are kept: groups of which
nothing is left are dropped. -/
def restrictedTo (result : SearchResult) (keeps : String → Bool) :
    List (String × List (String × Method)) :=
  (result.listing.map fun (tag, methods) =>
    (tag, methods.filter fun (id, _) => keeps id)).filter fun (_, methods) => !methods.isEmpty

/-- Adding a method puts it in its groups. -/
lemma getElem?_group : ((group tags method).getD tag ∅)[id]? =
    if tag ∈ method.groups ∧ method.operationId = id then some method
    else (tags.getD tag ∅)[id]? := by
  unfold group
  induction method.groups generalizing tags with
  | nil => simp
  | cons first rest ih =>
    rw [List.foldl_cons, ih, Std.TreeMap.getD_insert]
    by_cases hid : method.operationId = id
    · by_cases hfirst : first = tag
      · simp [hid, hfirst]
      · simp [hid, hfirst, Ne.symm hfirst]
    · by_cases hfirst : first = tag
      · subst hfirst
        simp [hid, Std.TreeMap.getElem?_insert]
      · simp [hid, hfirst]

/-- Adding a method adds its groups. -/
lemma mem_group : tag ∈ group tags method ↔ tag ∈ method.groups ∨ tag ∈ tags := by
  unfold group
  induction method.groups generalizing tags with
  | nil => simp
  | cons first rest ih =>
    rw [List.foldl_cons, ih, Std.TreeMap.mem_insert, List.mem_cons]
    simp only [Std.LawfulEqCmp.compare_eq_iff_eq, eq_comm (a := tag)]
    tauto

/-- Of the methods with one identifier in a group, the last one is listed. -/
lemma getElem?_foldl_group : ((methods.foldl group ∅).getD tag ∅)[id]? =
    (methods.filter fun m => tag ∈ m.groups ∧ m.operationId = id).getLast? := by
  induction methods using List.reverseRecOn with
  | nil => simp
  | append_singleton rest last ih =>
    rw [List.foldl_append, List.foldl_cons, List.foldl_nil, getElem?_group, List.filter_append, ih]
    split_ifs with hlast
    · rw [List.filter_cons_of_pos (by simpa using hlast), List.filter_nil,
        List.getLast?_append_cons, List.getLast?_singleton]
    · rw [List.filter_cons_of_neg (by simpa using hlast), List.filter_nil, List.append_nil]

/-- The groups are those of the methods. -/
lemma mem_foldl_group :
    tag ∈ methods.foldl group ∅ ↔ ∃ method ∈ methods, tag ∈ method.groups := by
  induction methods using List.reverseRecOn with
  | nil => simp
  | append_singleton rest last ih =>
    rw [List.foldl_append, List.foldl_cons, List.foldl_nil, mem_group, ih]
    simp only [List.mem_append, List.mem_singleton, or_and_right, exists_or, exists_eq_left]
    exact or_comm

/-- The number of methods is that of the identifiers that are listed under some tag. -/
lemma methodCount_eq (result : SearchResult) :
    (result.methodCount : ℕ∞) = {id : String | ∃ tag, id ∈ result.listed tag}.encard := by
  set ids : Std.TreeSet String := .ofList (result.tags.values.flatMap (·.keys)) with hids
  have hmem : ∀ id : String, id ∈ ids ↔ ∃ tag, id ∈ result.listed tag := fun id => by
    rw [hids, Std.TreeSet.mem_ofList, List.contains_iff_mem, Backend.values_eq]
    simp only [List.mem_flatMap, List.mem_map, Std.TreeMap.mem_keys, listed,
      Std.TreeMap.getD_eq_getD_getElem?]
    constructor
    · rintro ⟨_, ⟨⟨tag, methods⟩, hentry, rfl⟩, hid⟩
      refine ⟨tag, ?_⟩
      rwa [Std.TreeMap.mem_toList_iff_getElem?_eq_some.mp hentry, Option.getD_some]
    · rintro ⟨tag, hid⟩
      cases hmethods : result.tags[tag]? with
      | none => simp [hmethods] at hid
      | some methods =>
        rw [hmethods, Option.getD_some] at hid
        exact ⟨_, ⟨(tag, methods), Std.TreeMap.mem_toList_iff_getElem?_eq_some.mpr hmethods, rfl⟩,
          hid⟩
  have hset : {id : String | ∃ tag, id ∈ result.listed tag} = ↑ids.toList.toFinset := by
    ext id
    rw [Set.mem_ofPred_eq, ← hmem, Finset.mem_coe, List.mem_toFinset, Std.TreeSet.mem_toList]
  have hnodup : ids.toList.Nodup := Std.TreeSet.distinct_toList.imp fun hne heq =>
    hne (Std.LawfulEqCmp.compare_eq_iff_eq.mpr heq)
  rw [hset, Set.encard_coe_eq_coe_finsetCard, List.toFinset_card_of_nodup hnodup,
    Std.TreeSet.length_toList]
  rfl

/-- The result lists methods of the model in their groups: a method is listed under all its tags, or
under none, no tag is empty, and the number of methods is that of the methods that are listed. -/
structure Groups (result : SearchResult) (model : Model) : Prop where
  /-- What is listed is a method. -/
  method_eq : ∀ (tag id : String) (method : Method),
    (result.listed tag)[id]? = some method → model.methods[id]? = some method
  /-- A method is listed in all its groups or in none. -/
  all_or_none : ∀ (id : String) (method : Method), model.methods[id]? = some method →
    (∀ tag, id ∈ result.listed tag ↔ tag ∈ method.groups) ∨ ∀ tag, id ∉ result.listed tag
  /-- There is something under a tag. -/
  mem_tags_iff : ∀ tag : String, tag ∈ result.tags ↔ ∃ id, id ∈ result.listed tag
  /-- A method that is listed under several tags is counted once. -/
  count_eq : (result.methodCount : ℕ∞) = {id : String | ∃ tag, id ∈ result.listed tag}.encard

/-- A pattern that cannot be understood finds nothing. -/
lemma Groups.empty (model : Model) : Groups {} model where
  method_eq tag id method h := by simp [listed] at h
  all_or_none id method _ := Or.inr fun tag h => by simp [listed] at h
  mem_tags_iff tag := by simp [listed]
  count_eq := methodCount_eq _

/-- Without empty groups, a result has what it lists under a tag as its group, unless that is
empty. -/
lemma Groups.getElem?_tags {model : Model} (h : result.Groups model) (tag : String) :
    result.tags[tag]? = (some (result.listed tag)).filter (!·.isEmpty) := by
  have hmem := h.mem_tags_iff tag
  rw [Std.TreeMap.mem_iff_isSome_getElem?] at hmem
  have hempty : (result.listed tag).isEmpty = false ↔ ∃ id, id ∈ result.listed tag :=
    Std.TreeMap.isEmpty_eq_false_iff_exists_mem
  rw [← hempty] at hmem
  cases hmethods : result.tags[tag]? with
  | none =>
    rw [hmethods] at hmem
    rw [Option.filter_some, if_neg (by simpa using hmem)]
  | some methods =>
    have hlisted : result.listed tag = methods := by
      rw [listed, Std.TreeMap.getD_eq_getD_getElem?, hmethods, Option.getD_some]
    rw [hmethods] at hmem
    rw [Option.filter_some, if_pos (by simpa using hmem), hlisted]

/-- If what is listed under each tag is what is left of what another result lists there, all groups
are what is left of those of the other result. -/
lemma Groups.listing_eq {model model' : Model} {before after : SearchResult} {keeps : String → Bool}
    (h : before.Groups model) (h' : after.Groups model')
    (hlisted : ∀ tag id : String,
      (after.listed tag)[id]? = (before.listed tag)[id]?.filter fun _ => keeps id) :
    after.listing = before.restrictedTo keeps := by
  have hleft : ∀ tag : String, (after.listed tag).toList =
      (before.listed tag).toList.filter fun (id, _) => keeps id := fun tag => by
    rw [← Std.TreeMap.toList_filter (f := fun id _ => keeps id)]
    refine (Std.TreeMap.Equiv.of_forall_constGet?_eq fun id => ?_).toList_eq
    rw [Std.TreeMap.getElem?_filter', hlisted]
  have hafter : after.listing = (after.tags.map fun _ methods => methods.toList).toList := by
    rw [Std.TreeMap.toList_map]
    rfl
  have hbefore : before.restrictedTo keeps =
      ((before.tags.map fun _ methods => methods.toList.filter fun (id, _) => keeps id).filter
        fun _ methods => !methods.isEmpty).toList := by
    rw [Std.TreeMap.toList_filter, Std.TreeMap.toList_map, restrictedTo, listing, List.map_map]
    rfl
  rw [hafter, hbefore]
  refine (Std.TreeMap.Equiv.of_forall_constGet?_eq fun tag => ?_).toList_eq
  rw [Std.TreeMap.getElem?_map, Std.TreeMap.getElem?_filter', Std.TreeMap.getElem?_map,
    h.getElem?_tags, h'.getElem?_tags]
  simp only [Option.filter_some, ← Std.TreeMap.isEmpty_toList, hleft tag]
  cases hentries : (before.listed tag).toList with
  | nil => rfl
  | cons entry rest =>
    simp only [List.isEmpty_cons, Bool.not_false, if_true, Option.map_some, Option.filter_some,
      hentries]
    split_ifs
    · rw [Option.map_some, hleft tag, hentries]
    · rfl

end SearchResult

/-! ## Finding methods -/

namespace Searcher

variable {searcher : Searcher} {other : Model} {method : Method} {tag id : String}

/-- Looking at properties depends on what looking at their types does, and not on the model. -/
lemma visitProperties_congr (searcher : Searcher) (other : Model)
    {visit visit' : TypeId → List TypeId → Bool × List TypeId}
    (h : ∀ id visited, visit' id visited = visit id visited) (properties : List Property)
    (visited : List TypeId) :
    ({ searcher with model := other } : Searcher).visitProperties visit' properties visited =
      searcher.visitProperties visit properties visited := by
  induction properties generalizing visited with
  | nil => rfl
  | cons property rest ih =>
    rw [visitProperties, visitProperties, h]
    simp only [ih]
    rfl

section SameNodes

variable (hnodes : other.nodes = searcher.model.nodes)

include hnodes

/-- A walk through types depends on the types only. -/
lemma visitType_congr (depth : Nat) (type : TypeId) (visited : List TypeId) :
    ({ searcher with model := other } : Searcher).visitType depth type visited =
      searcher.visitType depth type visited := by
  induction depth generalizing type visited with
  | zero => rfl
  | succ depth ih =>
    have hproperties := visitProperties_congr searcher other ih
    rw [visitType, visitType]
    simp only [hproperties, Model.node, hnodes]
    rfl

/-- Whether a type is found depends on the types only. -/
lemma findsType_congr (type : TypeId) :
    ({ searcher with model := other } : Searcher).findsType type = searcher.findsType type := by
  rw [findsType, findsType, visitType_congr hnodes, hnodes]
  rfl

/-- Whether a method is found does not depend on which other methods there are. -/
theorem findsMethod_congr (method : Method) :
    ({ searcher with model := other } : Searcher).findsMethod method =
      searcher.findsMethod method := by
  have hparameter : ({ searcher with model := other } : Searcher).findsParameter =
      searcher.findsParameter := by
    funext parameter
    rw [findsParameter, findsParameter, findsType_congr hnodes]
    rfl
  have hresponse : ({ searcher with model := other } : Searcher).findsResponse =
      searcher.findsResponse := by
    funext response
    rw [findsResponse, findsResponse, findsType_congr hnodes]
    rfl
  rw [findsMethod, findsMethod, hparameter, hresponse, findsType_congr hnodes]
  rfl

/-- The types that are found are the same if the types and their names are. -/
lemma types_congr (hnames : other.names = searcher.model.names) :
    ({ searcher with model := other } : Searcher).types = searcher.types := by
  rw [types, types, Model.types, hnames]
  simp only [findsType_congr hnodes, Model.node, hnodes]
  rfl

end SameNodes

/-- A search of methods finds the methods of the model that it finds one by one. -/
lemma mem_methods (hwf : searcher.model.WellFormed) : method ∈ searcher.methods ↔
    searcher.looksAtAny [.method, .argument, .response, .status, .activityType] = true ∧
      searcher.model.methods[method.operationId]? = some method ∧
        searcher.findsMethod method = true := by
  unfold methods
  split_ifs with hlooks
  · rw [List.mem_filter, hwf.mem_methods_iff]
    exact (and_iff_right hlooks).symm
  · exact iff_of_false List.not_mem_nil fun h => hlooks h.1

/-- A method that a search finds is the only one with its identifier. -/
lemma eq_of_mem_methods {found : Method} (hwf : searcher.model.WellFormed)
    (hfound : found ∈ searcher.methods)
    (hmethod : searcher.model.methods[found.operationId]? = some method) : found = method :=
  Option.some.inj (((mem_methods hwf).mp hfound).2.1.symm.trans hmethod)

/-- What a search lists under a tag: the methods that it finds and that have the tag. -/
theorem getElem?_listed_iff (hwf : searcher.model.WellFormed) :
    (searcher.result.listed tag)[id]? = some method ↔
      method ∈ searcher.methods ∧ method.operationId = id ∧ tag ∈ method.groups := by
  have hlisted : (searcher.result.listed tag)[id]? =
      (searcher.methods.filter fun m => tag ∈ m.groups ∧ m.operationId = id).getLast? :=
    SearchResult.getElem?_foldl_group
  have hfilter : ∀ m : Method,
      m ∈ searcher.methods.filter (fun m => tag ∈ m.groups ∧ m.operationId = id) ↔
        m ∈ searcher.methods ∧ m.operationId = id ∧ tag ∈ m.groups := fun m => by
    rw [List.mem_filter, decide_eq_true_iff, and_comm (a := tag ∈ m.groups)]
  rw [hlisted, ← hfilter]
  constructor
  · exact List.mem_of_getLast?
  · intro hmem
    cases hlast : (searcher.methods.filter fun m => tag ∈ m.groups ∧ m.operationId = id).getLast?
      with
    | none => rw [List.getLast?_eq_none_iff.mp hlast] at hmem; exact absurd hmem List.not_mem_nil
    | some last =>
      -- two methods that are found under one identifier are the same
      obtain ⟨hfound, rfl, -⟩ := (hfilter last).mp (List.mem_of_getLast? hlast)
      obtain ⟨hmethod, hid, -⟩ := (hfilter method).mp hmem
      have hsame := ((mem_methods hwf).mp hmethod).2.1
      rw [hid] at hsame
      rw [eq_of_mem_methods hwf hfound hsame]

/-- A search lists an identifier under a tag if it finds a method with both. -/
lemma mem_listed_iff (hwf : searcher.model.WellFormed) :
    id ∈ searcher.result.listed tag ↔
      ∃ method ∈ searcher.methods, method.operationId = id ∧ tag ∈ method.groups := by
  rw [Std.TreeMap.mem_iff_isSome_getElem?, Option.isSome_iff_exists]
  exact exists_congr fun method => getElem?_listed_iff hwf

/-- What a search finds is grouped. -/
theorem groups_result (hwf : searcher.model.WellFormed) :
    searcher.result.Groups searcher.model where
  method_eq tag id method h := by
    obtain ⟨hmethod, rfl, -⟩ := (getElem?_listed_iff hwf).mp h
    exact ((mem_methods hwf).mp hmethod).2.1
  all_or_none id method h := by
    have hid := hwf.operationId_eq id method h
    by_cases hmethod : method ∈ searcher.methods
    · refine Or.inl fun tag => (mem_listed_iff hwf).trans
        ⟨?_, fun htag => ⟨method, hmethod, hid, htag⟩⟩
      rintro ⟨other, hother, rfl, htag⟩
      rwa [← eq_of_mem_methods hwf hother h]
    · refine Or.inr fun tag hlisted => hmethod ?_
      obtain ⟨other, hother, rfl, -⟩ := (mem_listed_iff hwf).mp hlisted
      rwa [← eq_of_mem_methods hwf hother h]
  mem_tags_iff tag := by
    have hmem : tag ∈ searcher.result.tags ↔ ∃ method ∈ searcher.methods, tag ∈ method.groups :=
      SearchResult.mem_foldl_group
    rw [hmem]
    simp only [mem_listed_iff hwf]
    exact ⟨fun ⟨m, hm, htag⟩ => ⟨_, m, hm, rfl, htag⟩, fun ⟨_, m, hm, _, htag⟩ => ⟨m, hm, htag⟩⟩
  count_eq := SearchResult.methodCount_eq _

/-! ## Leaving out methods -/

/-- The search after methods have been left out of its model. -/
def retain (searcher : Searcher) (included excluded : List String) : Searcher :=
  { searcher with model := searcher.model.retain included excluded }

section Retain

variable (hwf : searcher.model.WellFormed) (included excluded : List String)

include hwf

/-- After methods have been left out, a search finds those of the methods that it found before that
are still there. -/
lemma mem_methods_retain : method ∈ (searcher.retain included excluded).methods ↔
    method ∈ searcher.methods ∧
      method.operationId ∈ (searcher.retain included excluded).model.methods := by
  have hnodes : (searcher.model.retain included excluded).nodes = searcher.model.nodes := rfl
  have hfinds : (searcher.retain included excluded).findsMethod method =
      searcher.findsMethod method := findsMethod_congr hnodes method
  have hmethods : (searcher.retain included excluded).model.methods[method.operationId]? =
      searcher.model.methods[method.operationId]?.filter fun _ =>
        Model.isSelected included excluded method.operationId :=
    Model.getElem?_methods_retain searcher.model included excluded method.operationId
  rw [mem_methods (hwf.retain included excluded), mem_methods hwf, hfinds, hmethods,
    Option.filter_eq_some_iff, retain, Model.mem_methods_retain]
  constructor
  · rintro ⟨hlooks, ⟨hmethod, hselected⟩, hfinds⟩
    refine ⟨⟨hlooks, hmethod, hfinds⟩, ?_, hselected⟩
    rw [Std.TreeMap.mem_iff_isSome_getElem?, hmethod]
    rfl
  · rintro ⟨⟨hlooks, hmethod, hfinds⟩, -, hselected⟩
    exact ⟨hlooks, ⟨hmethod, hselected⟩, hfinds⟩

/-- After methods have been left out, a search lists under each tag what is left of what it listed
there before. -/
theorem getElem?_listed_retain (tag id : String) :
    ((searcher.retain included excluded).result.listed tag)[id]? =
      (searcher.result.listed tag)[id]?.filter fun _ =>
        (searcher.retain included excluded).model.methods.contains id := by
  refine Option.ext fun method => ?_
  rw [Option.filter_eq_some_iff, getElem?_listed_iff (hwf.retain included excluded),
    getElem?_listed_iff hwf, mem_methods_retain hwf, Std.TreeMap.mem_iff_contains]
  constructor
  · rintro ⟨⟨hmethod, hretained⟩, rfl, htag⟩
    exact ⟨⟨hmethod, rfl, htag⟩, hretained⟩
  · rintro ⟨⟨hmethod, rfl, htag⟩, hretained⟩
    exact ⟨⟨hmethod, hretained⟩, rfl, htag⟩

end Retain

/-- Leaving out methods keeps the types that are found. -/
lemma types_result_retain (searcher : Searcher) (included excluded : List String) :
    (searcher.retain included excluded).result.types = searcher.result.types := by
  have hnodes : (searcher.model.retain included excluded).nodes = searcher.model.nodes := rfl
  have htypes : (searcher.retain included excluded).types = searcher.types :=
    types_congr hnodes rfl
  rw [result, result, htypes]

end Searcher

/-! ## Searching models -/

namespace Model

variable {model : Model} {pattern : String}

/-- A pattern that cannot be understood is rejected. -/
lemma search_eq_rejected (h : Pattern.compile? pattern = none) (model : Model)
    (criteria : List Criterion) : model.search pattern criteria = .rejected := by
  rw [search, h]

/-- A pattern that can be understood is searched for. -/
lemma search_eq_done {compiled : Pattern} (h : Pattern.compile? pattern = some compiled)
    (model : Model) (criteria : List Criterion) : model.search pattern criteria =
      .done (Searcher.result ⟨model, compiled.isMatch, criteria⟩) := by
  rw [search, h]

namespace Reachable

/-- Searching a model after methods have been left out finds what is left of what is found before.

* The message and the types are the same.
* The groups are what is left of those of the earlier search, without the tags of which nothing is
  left.
* In both results a method is listed under all tags that it has, or under the empty one if it has
  none, or it is not listed at all, and the number of methods is that of the identifiers that are
  listed. -/
theorem search_retain (h : model.Reachable) (included excluded : List String) (pattern : String)
    (criteria : List Criterion) :
    let retained := model.retain included excluded
    let before := model.search pattern criteria
    let after := retained.search pattern criteria
    after.message = before.message ∧ after.result.types = before.result.types ∧
      after.result.listing = before.result.restrictedTo retained.methods.contains ∧
      before.result.Groups model ∧ after.result.Groups retained := by
  intro retained before after
  have hwf := h.settled.toWellFormed
  cases hpattern : Pattern.compile? pattern with
  | none =>
    have hbefore : before = .rejected := search_eq_rejected hpattern model criteria
    have hafter : after = .rejected := search_eq_rejected hpattern retained criteria
    rw [hbefore, hafter]
    exact ⟨rfl, rfl, rfl, .empty model, .empty retained⟩
  | some compiled =>
    set searcher : Searcher := ⟨model, compiled.isMatch, criteria⟩
    have hbefore : before = .done searcher.result := search_eq_done hpattern model criteria
    have hafter : after = .done (searcher.retain included excluded).result :=
      search_eq_done hpattern retained criteria
    have hgroups : searcher.result.Groups model := Searcher.groups_result hwf
    have hgroups' : (searcher.retain included excluded).result.Groups retained :=
      Searcher.groups_result (hwf.retain included excluded)
    rw [hbefore, hafter]
    exact ⟨rfl, searcher.types_result_retain included excluded,
      hgroups.listing_eq hgroups' (Searcher.getElem?_listed_retain hwf included excluded),
      hgroups, hgroups'⟩

/-- A method of a document with some tags, which returns a text. -/
def taggedOperation (operationId : String) (tags : List String) : Json :=
  .object [("operationId", .string operationId), ("tags", .array (tags.map .string)),
    ("responses", .object [("200", .object [("content", .object [("application/json",
      .object [("schema", .object [("type", .string "string")])])])])])]

/-- A document with a method that has two tags, one of them twice, one that has one of these tags,
and one without tags. -/
def taggedDocument : Document where
  root := .object [("paths", .object [("/users", .object [
    ("get", taggedOperation "find" ["Users", "Teams", "Users"]),
    ("put", taggedOperation "save" ["Users"]),
    ("delete", taggedOperation "drop" [])])])]

/-- When the method with two tags is left out, one of them is dropped from the result, and the other
one keeps the other method. -/
theorem search_retain_tagged :
    let model := Model.ofDocument taggedDocument
    let before := (model.search "user" [.method]).result
    let after := ((model.retain [] ["find"]).search "user" [.method]).result
    before.listing.map (fun (tag, methods) => (tag, methods.map Prod.fst)) =
        [("", ["drop"]), ("Teams", ["find"]), ("Users", ["find", "save"])] ∧
      after.listing.map (fun (tag, methods) => (tag, methods.map Prod.fst)) =
        [("", ["drop"]), ("Users", ["save"])] ∧
      before.methodCount = 3 ∧ {id : String | ∃ tag, id ∈ before.listed tag}.encard = 3 := by
  intro model before after
  obtain ⟨-, -, hlisting, hgroups, -⟩ :=
    search_retain (.ofDocument taggedDocument) [] ["find"] "user" [.method]
  have hcount : before.methodCount = 3 := by decide +kernel
  refine ⟨by decide +kernel, ?_, hcount, ?_⟩
  · rw [show after.listing = _ from hlisting]
    decide +kernel
  · rw [← hgroups.count_eq, show (model.search "user" [.method]).result.methodCount = 3 from hcount]
    rfl

end Reachable

end Model

end ClientGen
