import Mathlib.Data.List.Induction
import Mathlib.Data.List.Nodup
import SqlBuilder.Record

/-!
# Records as mappings

Writing a key changes what is found under it and nothing else, and the key takes a place of its own
only if it is new. So a record made of pairs has their keys in the order in which they first appear,
as the columns of rows are arranged too (`Insertion.FirstSeen`), and holds under each of them the
value that was written last.
-/

namespace SqlBuilder

/-- One more element is kept unless it has been seen. -/
theorem eraseDups_concat {α : Type} [DecidableEq α] (xs : List α) (x : α) :
    (xs ++ [x]).eraseDups = xs.eraseDups ++ if x ∈ xs then [] else [x] := by
  rw [List.eraseDups_append]
  by_cases seen : x ∈ xs
  · simp [List.removeAll, seen]
  · simp [List.removeAll, List.eraseDups_cons, seen]

namespace Insertion

/-- The columns are the keys without repetitions, in the order in which they first appear. -/
structure FirstSeen (keys columns : List String) : Prop where
  nodup : columns.Nodup
  mem_iff : ∀ column, column ∈ columns ↔ column ∈ keys
  ordered : columns.Pairwise fun a b => keys.idxOf a < keys.idxOf b

/-- One more key is a column of its own unless it has been seen. -/
theorem FirstSeen.snoc {keys columns : List String} (h : FirstSeen keys columns) (key : String) :
    FirstSeen (keys ++ [key]) (columns ++ if key ∈ keys then [] else [key]) := by
  have earlier {a b : String} (ha : a ∈ columns) (hb : b ∈ columns)
      (less : keys.idxOf a < keys.idxOf b) : (keys ++ [key]).idxOf a < (keys ++ [key]).idxOf b := by
    rwa [List.idxOf_append_of_mem ((h.mem_iff a).1 ha),
      List.idxOf_append_of_mem ((h.mem_iff b).1 hb)]
  have ordered : columns.Pairwise fun a b => (keys ++ [key]).idxOf a < (keys ++ [key]).idxOf b :=
    h.ordered.imp_of_mem earlier
  by_cases seen : key ∈ keys
  · rw [if_pos seen, List.append_nil]
    refine ⟨h.nodup, fun column => ?_, ordered⟩
    rw [h.mem_iff, List.mem_append, List.mem_singleton]
    exact ⟨.inl, fun hcolumn => hcolumn.elim id fun same => same ▸ seen⟩
  · rw [if_neg seen]
    have fresh : ∀ column ∈ columns, column ≠ key := by
      rintro column hcolumn rfl
      exact seen ((h.mem_iff column).1 hcolumn)
    refine ⟨?_, fun column => ?_, ?_⟩
    · rw [List.nodup_append]
      exact ⟨h.nodup, List.nodup_singleton key, fun a ha b hb =>
        List.mem_singleton.1 hb ▸ fresh a ha⟩
    · rw [List.mem_append, List.mem_append, h.mem_iff]
    · rw [List.pairwise_append]
      refine ⟨ordered, List.pairwise_singleton _ _, fun a ha b hb => ?_⟩
      have last : (keys ++ [key]).idxOf b = keys.length := by
        rw [List.mem_singleton.1 hb, List.idxOf_append, if_neg seen, List.idxOf_cons_self,
          Nat.zero_add]
      rw [last, List.idxOf_append_of_mem ((h.mem_iff a).1 ha)]
      exact List.idxOf_lt_length_of_mem ((h.mem_iff a).1 ha)

theorem firstSeen_eraseDups (keys : List String) : FirstSeen keys keys.eraseDups := by
  induction keys using List.reverseRecOn with
  | nil => exact ⟨List.nodup_nil, fun column => Iff.rfl, .nil⟩
  | append_singleton keys key ih =>
    rw [eraseDups_concat]
    exact ih.snoc key

end Insertion

namespace Record

variable {α : Type}

theorem keys_insert (r : Record α) (key : String) (value : α) :
    (r.insert key value).keys = r.keys ++ if key ∈ r.keys then [] else [key] := by
  obtain ⟨entries⟩ := r
  unfold keys insert
  induction entries with
  | nil => rfl
  | cons entry rest ih =>
    unfold insertEntry
    split
    · rename_i same
      simp [same]
    · rename_i other
      simp only [List.map_cons, List.cons_append, List.mem_cons, Ne.symm other, false_or]
      exact congrArg (entry.1 :: ·) ih

theorem get?_insert (r : Record α) (key other : String) (value : α) :
    (r.insert key value).get? other = if key = other then some value else r.get? other := by
  obtain ⟨entries⟩ := r
  unfold get? insert
  induction entries with
  | nil =>
    by_cases same : key = other
    · simp [insertEntry, same]
    · simp [insertEntry, same]
  | cons entry rest ih =>
    obtain ⟨k, v⟩ := entry
    by_cases here : k = key
    · rw [insertEntry, if_pos here]
      by_cases same : key = other
      · simp [here, same]
      · simp [here, same]
    · rw [insertEntry, if_neg here]
      by_cases found : k = other
      · have apart : key ≠ other := fun same => here (found.trans same.symm)
        simp [found, apart]
      · simpa [found] using ih

theorem ofList_concat (pairs : List (String × α)) (pair : String × α) :
    ofList (pairs ++ [pair]) = (ofList pairs).insert pair.1 pair.2 := by
  unfold ofList
  rw [List.foldl_append]
  rfl

/-- The keys in the order of their first appearance. -/
theorem keys_ofList (pairs : List (String × α)) :
    (ofList pairs).keys = (pairs.map Prod.fst).eraseDups := by
  induction pairs using List.reverseRecOn with
  | nil => rfl
  | append_singleton pairs pair ih =>
    rw [ofList_concat, keys_insert, ih, List.map_append, List.map_singleton, eraseDups_concat]
    simp only [List.mem_eraseDups]

/-- The last value that was written under a key. -/
theorem get?_ofList (pairs : List (String × α)) (key : String) :
    (ofList pairs).get? key = (pairs.reverse.find? fun pair => pair.1 = key).map Prod.snd := by
  induction pairs using List.reverseRecOn with
  | nil => rfl
  | append_singleton pairs pair ih =>
    rw [ofList_concat, get?_insert, ih, List.reverse_append, List.reverse_singleton,
      List.singleton_append, List.find?_cons]
    by_cases same : pair.1 = key
    · simp [same]
    · simp [same]

/-- A pair is found unless a later one has the same key. -/
theorem get?_ofList_of_last {pairs : List (String × α)} {i : Nat} {pair : String × α}
    (position : pairs[i]? = some pair)
    (last : ∀ (j : Nat) (later : String × α), i < j → pairs[j]? = some later → later.1 ≠ pair.1) :
    (ofList pairs).get? pair.1 = some pair.2 := by
  rw [get?_ofList]
  induction pairs using List.reverseRecOn generalizing i with
  | nil => cases position
  | append_singleton pairs later ih =>
    rw [List.reverse_append, List.reverse_singleton, List.singleton_append, List.find?_cons]
    rcases Nat.lt_trichotomy i pairs.length with less | rfl | greater
    · have apart := last pairs.length later less List.getElem?_concat_length
      rw [List.getElem?_append_left less] at position
      simp only [apart, decide_false]
      apply ih position
      intro j later' hj hlater
      have inside := (List.getElem?_eq_some_iff.1 hlater).1
      exact last j later' hj ((List.getElem?_append_left inside).trans hlater)
    · cases List.getElem?_concat_length.symm.trans position
      simp
    · have beyond : (pairs ++ [later]).length ≤ i := by
        rw [List.length_append]
        exact greater
      rw [List.getElem?_eq_none beyond] at position
      cases position

/-- Pairs with different keys are the entries as they are. -/
theorem entries_ofList {pairs : List (String × α)} (h : (pairs.map Prod.fst).Nodup) :
    (ofList pairs).entries = pairs := by
  induction pairs using List.reverseRecOn with
  | nil => rfl
  | append_singleton pairs pair ih =>
    rw [List.map_append, List.map_singleton] at h
    obtain ⟨nodup, -, apart⟩ := List.nodup_append.1 h
    have fresh : pair.1 ∉ pairs.map Prod.fst :=
      fun seen => apart pair.1 seen pair.1 List.mem_cons_self rfl
    rw [ofList_concat]
    change insertEntry pair.1 pair.2 (ofList pairs).entries = _
    rw [ih nodup, insertEntry_of_notMem fresh]

end Record

end SqlBuilder
