import Mathlib.Data.Finset.Card
import SqlBuilder.Proofs.Record

/-!
# The history of a record

A record comes about in steps, which write one pair or none, or make it anew of pairs. What it is
depends on nothing but the pairs that were written since it was last made anew (`made_eq_ofList`),
and this is how it depends on them (`Reflects`): its keys are theirs, each at the place of its first
appearance, and under each it holds what was written last. Writing a key leaves all others alone
(`keepsOthers_insert`).
-/

namespace SqlBuilder

namespace Record

open Insertion (FirstSeen firstSeen_eraseDups)

variable {α : Type}

/-! ### Steps -/

/-- A step in the making of a record. -/
inductive Step (α : Type)
  /-- Writes a value, whether the record is changed in place or handed on. -/
  | insert (key : String) (value : α)
  /-- Writes a value if there is one. -/
  | insertSome (key : String) (value : Option α)
  /-- Makes a record of pairs, which takes the place of what was there. -/
  | ofList (pairs : List (String × α))

namespace Step

/-- The record behind a step. -/
def apply (r : Record α) : Step α → Record α
  | insert key value => r.insert key value
  | insertSome key value => r.insertSome key value
  | ofList pairs => Record.ofList pairs

/-- The pairs that make up a record behind a step, if `earlier` made it up before. -/
def writes (earlier : List (String × α)) : Step α → List (String × α)
  | insert key value => earlier ++ [(key, value)]
  | insertSome _ none => earlier
  | insertSome key (some value) => earlier ++ [(key, value)]
  | ofList pairs => pairs

/-- What a step does to a record, it does to the pairs that make up the record. -/
theorem apply_ofList (earlier : List (String × α)) (step : Step α) :
    step.apply (Record.ofList earlier) = Record.ofList (step.writes earlier) := by
  cases step with
  | insert key value => exact (ofList_concat earlier (key, value)).symm
  | insertSome key value =>
    cases value with
    | none => rfl
    | some value => exact (ofList_concat earlier (key, value)).symm
  | ofList pairs => rfl

end Step

/-- What becomes of the empty record in a sequence of steps. -/
def made (steps : List (Step α)) : Record α := steps.foldl Step.apply empty

/-- What the steps have written since the record was last made anew, oldest first. -/
def written (steps : List (Step α)) : List (String × α) := steps.foldl Step.writes []

/-- A record depends on its history through what was written, and through nothing else. -/
theorem made_eq_ofList (steps : List (Step α)) : made steps = ofList (written steps) := by
  have nothing : (empty : Record α) = ofList [] := rfl
  unfold made written
  rw [nothing]
  exact List.foldl_hom ofList Step.apply_ofList

/-! ### What was written -/

/-- The value was written under the key, and nothing was written there after it. -/
def LastWritten (pairs : List (String × α)) (key : String) (value : α) : Prop :=
  ∃ before after, pairs = before ++ (key, value) :: after ∧ ∀ later ∈ after, later.1 ≠ key

/-- What a record holds into which these pairs were written, one after the other. -/
structure Reflects (pairs : List (String × α)) (r : Record α) : Prop where
  seen : FirstSeen (pairs.map Prod.fst) r.keys
  found : ∀ key value, r.get? key = some value ↔ LastWritten pairs key value
  missing : ∀ key, r.get? key = none ↔ ∀ pair ∈ pairs, pair.1 ≠ key
  size : r.size = (pairs.map Prod.fst).toFinset.card
  entries : ∀ (i : Nat) (key : String) (value : α),
    r.entries[i]? = some (key, value) ↔ r.keys[i]? = some key ∧ r.get? key = some value

/-- A key has the value that was written for it last. -/
theorem get?_ofList_eq_some_iff {pairs : List (String × α)} {key : String} {value : α} :
    (ofList pairs).get? key = some value ↔ LastWritten pairs key value := by
  rw [get?_ofList, Option.map_eq_some_iff]
  constructor
  · rintro ⟨⟨k, v⟩, first, rfl⟩
    obtain ⟨here, after, before, split, last⟩ := List.find?_eq_some_iff_append.1 first
    obtain rfl : k = key := of_decide_eq_true here
    refine ⟨before.reverse, after.reverse, ?_, by simpa using last⟩
    rw [List.reverse_eq_iff.1 split]
    simp
  · rintro ⟨before, after, rfl, last⟩
    refine ⟨(key, value), List.find?_eq_some_iff_append.2 ⟨decide_eq_true rfl, ?_⟩, rfl⟩
    exact ⟨after.reverse, before.reverse, by simp, by simpa using last⟩

/-- A key for which nothing was written is missing, and only such a key is. -/
theorem get?_ofList_eq_none_iff {pairs : List (String × α)} {key : String} :
    (ofList pairs).get? key = none ↔ ∀ pair ∈ pairs, pair.1 ≠ key := by
  simp [get?_ofList]

/-- The keys stand in the order in which they were first written. -/
theorem firstSeen_keys_ofList (pairs : List (String × α)) :
    FirstSeen (pairs.map Prod.fst) (ofList pairs).keys :=
  keys_ofList pairs ▸ firstSeen_eraseDups _

/-- Among different keys, an entry is found under its own. -/
theorem get?_of_mem {r : Record α} (nodup : r.keys.Nodup) {key : String} {value : α}
    (entry : (key, value) ∈ r.entries) : r.get? key = some value := by
  have seen : (r.entries.find? fun e => e.1 = key).isSome :=
    List.find?_isSome.2 ⟨(key, value), entry, decide_eq_true rfl⟩
  obtain ⟨e, found⟩ := Option.isSome_iff_exists.1 seen
  have named : e.1 = key := by simpa using List.find?_some found
  have same : e = (key, value) :=
    List.inj_on_of_nodup_map nodup (List.mem_of_find?_eq_some found) entry named
  rw [get?, found, same]
  rfl

/-- The entries are the keys in their order with the values found under them. -/
theorem getElem?_entries_iff {r : Record α} (nodup : r.keys.Nodup) {i : Nat} {key : String}
    {value : α} :
    r.entries[i]? = some (key, value) ↔ r.keys[i]? = some key ∧ r.get? key = some value := by
  rw [keys, List.getElem?_map, Option.map_eq_some_iff]
  constructor
  · intro position
    exact ⟨⟨_, position, rfl⟩, get?_of_mem nodup (List.mem_of_getElem? position)⟩
  · rintro ⟨⟨⟨k, v⟩, position, rfl⟩, found⟩
    cases (get?_of_mem nodup (List.mem_of_getElem? position)).symm.trans found
    exact position

/-- A record made of pairs has the keys and values of these pairs. -/
theorem reflects_ofList (pairs : List (String × α)) : Reflects pairs (ofList pairs) := by
  have seen := firstSeen_keys_ofList pairs
  refine ⟨seen, fun key value => get?_ofList_eq_some_iff, fun key => get?_ofList_eq_none_iff, ?_,
    fun i key value => getElem?_entries_iff seen.nodup⟩
  have same : (ofList pairs).keys.toFinset = (pairs.map Prod.fst).toFinset := by
    ext key
    rw [List.mem_toFinset, List.mem_toFinset, seen.mem_iff]
  rw [← same, List.toFinset_card_of_nodup seen.nodup, keys, List.length_map, size]

/-! ### Other keys -/

/-- Every key but one stands in the same place of two records and has the same value. -/
structure KeepsOthers (key : String) (r s : Record α) : Prop where
  places : ∀ (other : String) (i : Nat), other ≠ key →
    (s.keys[i]? = some other ↔ r.keys[i]? = some other)
  values : ∀ other, other ≠ key → s.get? other = r.get? other

/-- An insertion leaves all other keys as they are. -/
theorem keepsOthers_insert (r : Record α) (key : String) (value : α) :
    KeepsOthers key r (r.insert key value) := by
  refine ⟨fun other i apart => ?_, fun other apart => ?_⟩
  · rw [keys_insert]
    by_cases seen : key ∈ r.keys
    · rw [if_pos seen, List.append_nil]
    · rw [if_neg seen, List.getElem?_append]
      split
      case isTrue => rfl
      case isFalse beyond =>
        -- Behind the old keys stands nothing but the new one.
        rw [List.getElem?_eq_none (Nat.le_of_not_lt beyond)]
        constructor
        · exact fun last => absurd (List.mem_singleton.1 (List.mem_of_getElem? last)) apart
        · exact nofun
  · rw [get?_insert, if_neg apart.symm]

/-- Records are mappings in the order of first insertion. Whatever the steps, the keys are different
and stand in the order in which they were first written, each holds the value that was written last,
and there are as many as there are different keys among the writes. Writing one key moves and
changes no other, and pairs may be written in two parts. -/
theorem insertion_ordered (steps : List (Step α)) :
    Reflects (written steps) (made steps) ∧
    (∀ key value, KeepsOthers key (made steps) ((made steps).insert key value)) ∧
    ∀ xs ys : List (String × α),
      ofList (xs ++ ys) = ys.foldl (fun r pair => r.insert pair.1 pair.2) (ofList xs) := by
  refine ⟨?_, keepsOthers_insert _, fun xs ys => List.foldl_append⟩
  rw [made_eq_ofList]
  exact reflects_ofList _

example : (made [.insert "c" 0, .ofList [("b", 1), ("a", 2)], .insertSome "c" none,
    .insert "b" 3]).entries = [("b", 3), ("a", 2)] := by decide

end Record

end SqlBuilder
