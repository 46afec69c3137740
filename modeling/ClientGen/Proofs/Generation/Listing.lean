import ClientGen.Proofs.Generation.Rounds

/-!
# The items of a file of types

When all types have been looked at, the items of the file of types are one of each type that is
declared, in the order of their names, and the head of the file counts them by kind.

## Main definitions

* `ClientGen.Backend.Lists` — that the items of a file are those of the types of a model.
* `ClientGen.Backend.tallyAll` — how many types of a model are declared, by their kind.

## Main results

* `ClientGen.Backend.Lists.perm`, `ClientGen.Backend.Lists.count_eq_one` — the items are those of
  the types that are declared, one of each.
* `ClientGen.Backend.length_filter_declares` — as many types are declared as are counted.
* `ClientGen.Backend.RendersTypes.modelsFile` — what the file of types ensures.
-/

set_option autoImplicit false

namespace ClientGen

open Rendering

variable {backend : Backend} {fails : Prop} {Item : Model → TypeId → String → Prop}
  {model start : Model} {declarations : Declarations} {pass : Pass} {id : Nat}

namespace Backend

/-! ## The items -/

/-- The values of a map in the order of its keys. -/
lemma values_eq {β : Type} (map : Std.TreeMap String β) : map.values = map.toList.map Prod.snd := by
  show map.foldr (fun _ value values => value :: values) [] = _
  rw [Std.TreeMap.foldr_eq_foldr_toList]
  generalize map.toList = entries
  induction entries with
  | nil => rfl
  | cons entry rest ih => rw [List.foldr_cons, ih, List.map_cons]

/-- The items, with their names, are those of the types of the model that are declared: one of
each, in the order of the names. -/
structure Lists (backend : Backend) (Item : Model → TypeId → String → Prop) (model : Model)
    (items : List (String × String)) : Prop where
  ordered : items.Pairwise fun first second => first.1 < second.1
  exists_item : ∀ id : TypeId, backend.Declares (model.node id).kind →
    ∃ text, (model.nameOf id, text) ∈ items
  item : ∀ entry ∈ items, ∃ id : TypeId, backend.Declares (model.node id).kind ∧
    model.nameOf id = entry.1 ∧ Item model id entry.2

namespace Lists

variable {items : List (String × String)}

/-- No name is that of two items. -/
lemma nodup (h : Lists backend Item model items) : (items.map Prod.fst).Nodup := by
  refine List.pairwise_map.mpr (h.ordered.imp ?_)
  intro first second hlt heq
  rw [heq] at hlt
  exact String.lt_irrefl _ hlt

/-- If the text of an item is a function of its type, the items are those of the types that are
declared.

**Proof sketch.** Neither list has an entry twice, since no two types share a name. So it is enough
that they have the same entries. -/
lemma perm (h : Lists backend Item model items) (hwf : model.WellFormed) {textOf : TypeId → String}
    (htext : ∀ id text, Item model id text → text = textOf id) :
    items.Perm (((List.range model.nodes.size).filter fun id =>
      backend.Declares (model.node id).kind).map fun id => (model.nameOf id, textOf id)) := by
  refine (List.perm_ext_iff_of_nodup (h.nodup.of_map _) ?_).mpr fun entry => ?_
  · refine List.Nodup.map_on ?_ (List.nodup_range.filter _)
    intro first hfirst second hsecond heq
    exact hwf.nameOf_injOn (List.mem_range.mp (List.mem_of_mem_filter hfirst))
      (List.mem_range.mp (List.mem_of_mem_filter hsecond)) (congrArg Prod.fst heq)
  · simp only [List.mem_map, List.mem_filter, List.mem_range, decide_eq_true_eq]
    constructor
    · intro hentry
      obtain ⟨id, hd, hname, hitem⟩ := h.item entry hentry
      refine ⟨id, ⟨lt_size_of_isDeclarable (isDeclarable_of_declares hd), hd⟩, ?_⟩
      rw [hname, ← htext id _ hitem]
    · rintro ⟨id, ⟨hlt, hd⟩, rfl⟩
      obtain ⟨text, hmem⟩ := h.exists_item id hd
      obtain ⟨other, hd', hname, hitem⟩ := h.item _ hmem
      have hother : other = id := hwf.nameOf_injOn
        (lt_size_of_isDeclarable (isDeclarable_of_declares hd')) hlt hname
      rw [hother] at hitem
      rwa [htext id text hitem] at hmem

/-- Just one item has the name of a type that is declared. -/
lemma count_eq_one (h : Lists backend Item model items)
    (hd : backend.Declares (model.node id).kind) :
    (items.map Prod.fst).count (model.nameOf id) = 1 := by
  obtain ⟨text, hmem⟩ := h.exists_item id hd
  exact List.count_eq_one_of_mem h.nodup (List.mem_map.mpr ⟨_, hmem, rfl⟩)

end Lists

/-- How many types of a model are declared, by their kind. -/
def tallyAll (backend : Backend) (model : Model) : Tally :=
  backend.tallyOf model (List.range model.nodes.size)

/-- As many types are declared as are counted. -/
lemma length_filter_declares (ids : List TypeId) :
    (ids.filter fun id => backend.Declares (model.node id).kind).length =
      (backend.tallyOf model ids).spec + (backend.tallyOf model ids).request +
        (backend.tallyOf model ids).write := by
  induction ids with
  | nil => simp [tallyOf]
  | cons id rest ih =>
    by_cases hd : backend.Declares (model.node id).kind
    · rw [List.filter_cons_of_pos (by simpa using hd), List.length_cons, ih]
      have hcount := tallied?_tallyOf hd rest
      generalize backend.tallyOf model (id :: rest) = more at hcount ⊢
      cases hk : (model.node id).kind with
      | write source => rw [hk] at hcount; obtain rfl := Option.some.inj hcount; simp; omega
      | component => rw [hk] at hcount; obtain rfl := Option.some.inj hcount; simp; omega
      | request operationId =>
        rw [hk] at hcount hd
        have hyes : backend.takesRequests = true := hd
        rw [tallied?, if_pos hyes] at hcount
        obtain rfl := Option.some.inj hcount
        simp
        omega
      | _ => rw [hk] at hd; exact hd.elim
    · rw [List.filter_cons_of_neg (by simpa using hd), ih, tallyOf_cons_of_not hd]

namespace WalkedAll

/-- When all types have been looked at, the items are those of all types. -/
lemma lists (h : WalkedAll backend Item start declarations model) :
    Lists backend Item model declarations.rendered.toList where
  ordered := by
    refine Std.TreeMap.ordered_keys_toList.imp fun hlt => ?_
    exact compareOfLessAndEq_eq_lt.mp hlt
  exists_item id hd := by
    have hlt := lt_size_of_isDeclarable (isDeclarable_of_declares hd)
    obtain ⟨text, ht⟩ := h.exists_item id (h.mem_visited id hlt) hd
    exact ⟨text, Std.TreeMap.mem_toList_iff_getElem?_eq_some.mpr ht⟩
  item entry hentry := by
    obtain ⟨id, -, hrest⟩ := h.item entry.1 entry.2
      (Std.TreeMap.mem_toList_iff_getElem?_eq_some.mp hentry)
    exact ⟨id, hrest⟩

/-- When all types have been looked at, the tally is that of all types. -/
lemma tally_eq_tallyAll (h : WalkedAll backend Item start declarations model) :
    declarations.tally = backend.tallyAll model := by
  have hperm : declarations.visited.Perm (List.range model.nodes.size) :=
    (List.perm_ext_iff_of_nodup h.nodup List.nodup_range).mpr fun id =>
      ⟨fun hid => List.mem_range.mpr (h.lt_size id hid),
        fun hid => h.mem_visited id (List.mem_range.mp hid)⟩
  rw [h.tally_eq, tallyAll, tallyOf, tallyOf, hperm.countP_eq, hperm.countP_eq, hperm.countP_eq]

end WalkedAll

/-! ## The file -/

/-- The declarations of all types. -/
lemma RendersTypes.ensures_declarations (hb : backend.RendersTypes fails Item)
    (hset : pass.model.Settled) (hnamed : fails ∨ pass.model.IsNamed) :
    backend.declarations.Ensures fails pass fun walked after =>
      WalkedAll backend Item pass.model walked after.model := by
  exact Ensures.get_bind (hb.declareRounds hset hnamed (.empty backend Item _) _)

/-- What the file of types of a backend ensures: a head, the number of types by kind, the items of
all types of the model afterwards, and an end. The model afterwards is the one after all types have
been looked at. -/
theorem RendersTypes.modelsFile (hb : backend.RendersTypes fails Item)
    (hset : pass.model.Settled) (hnamed : fails ∨ pass.model.IsNamed) {Head End : String → Prop}
    (hhead : ∀ pass : Pass, backend.modelsHead.Ensures fails pass fun text after =>
      Head text ∧ after.model = pass.model)
    (hend : ∀ pass : Pass, backend.modelsEnd.Ensures fails pass fun text after =>
      End text ∧ after.model = pass.model) :
    backend.modelsFile.Ensures fails pass fun text after =>
      ∃ walked mid, backend.declarations.run.run { pass with file := .models, counts := ∅ } =
          (.ok walked, mid) ∧ mid.model = after.model ∧
        WalkedAll backend Item pass.model walked after.model ∧
        ∃ head ending, Head head ∧ End ending ∧
          text = assemble head
            (backend.comment 0
              ((backend.tallyAll after.model).header walked.rendered.toList.length))
            (walked.rendered.toList.map Prod.snd) ending := by
  refine Ensures.beginFile_bind ?_
  have hall : backend.declarations.Ensures fails { pass with file := .models, counts := ∅ }
      fun walked after => WalkedAll backend Item pass.model walked after.model :=
    hb.ensures_declarations hset hnamed
  refine hall.with_run.bind fun walked mid hmid => ?_
  obtain ⟨hrun, hwalked⟩ := hmid
  refine (hhead mid).bind fun head mid' hmid' => ?_
  refine (hend mid').bind fun ending after hafter => ?_
  have hlast : after.model = mid.model := hafter.2.trans hmid'.2
  rw [← hlast] at hwalked
  refine Ensures.pure ⟨walked, mid, hrun, hlast.symm, hwalked, head, ending, hmid'.1, hafter.1, ?_⟩
  rw [values_eq, List.length_map, hwalked.tally_eq_tallyAll]

end Backend

end ClientGen
