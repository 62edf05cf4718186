import Mathlib.Data.List.Forall2
import SqlBuilder.Operand
import SqlBuilder.Proofs.Rounding

/-!
# Members of JSON objects

A JSON object becomes a record with an entry for each member, whose value is shown as the member
was. The exception are the integers beyond the signed range: they become the nearest doubles, so
different ones can become the same value (`Record.ofJson_members`).
-/

namespace SqlBuilder

open Number

/-- A number of a JSON document: an integer of the signed or unsigned range, or a finite double. -/
def Json.InRange : Json → Prop
  | .int n => -9223372036854775808 ≤ n ∧ n ≤ 18446744073709551615
  | .float x => x.isFinite = true
  | _ => True

namespace Value

variable {m n : Int}

/-- An integer of the signed range. -/
structure Small (n : Int) : Prop where
  low : -9223372036854775808 ≤ n
  high : n ≤ 9223372036854775807

/-- An integer of the signed range is stored as it is. -/
theorem Small.toInt (h : Small n) : (Int64.ofInt n).toInt = n :=
  Int64.toInt_ofInt_of_le h.low (Int.lt_add_one_of_le h.high)

theorem ofJson_small (h : Small n) : Value.ofJson (.int n) = .int (Int64.ofInt n) :=
  if_pos ⟨h.low, h.high⟩

/-- An integer beyond the signed range is stored as a double. -/
theorem ofJson_large (h : Large n) : Value.ofJson (.int n) = .float (Binary64.ofInt n) :=
  if_neg fun within => absurd (Int.le_trans h.low within.2) (by decide)

/-- An integer of a document is in the signed range or above it. -/
theorem small_or_large (h : (Json.int n).InRange) : Small n ∨ Large n := by
  obtain ⟨low, high⟩ := h
  by_cases small : n ≤ 9223372036854775807
  · exact .inl ⟨low, small⟩
  · exact .inr ⟨by omega, high⟩

/-- The value of a member is shown as the member, except for an integer beyond the signed range. -/
theorem toJson_ofJson {j : Json} (h : j.InRange) (small : ∀ n, j = .int n → Small n) :
    (Value.ofJson j).toJson = j := by
  cases j with
  | int n =>
    rw [ofJson_small (small n rfl), toJson, (small n rfl).toInt]
  | float x => exact if_pos h
  | null | bool | string | array | object => rfl

/-- Two integers become the same value if they are the same or rounded to the same double. -/
theorem ofJson_int_eq_iff (hm : (Json.int m).InRange) (hn : (Json.int n).InRange) :
    Value.ofJson (.int m) = Value.ofJson (.int n) ↔
      m = n ∨ Large m ∧ Large n ∧ nearest2048 m = nearest2048 n := by
  constructor
  · intro same
    obtain smallM | largeM := small_or_large hm <;> obtain smallN | largeN := small_or_large hn
    · rw [ofJson_small smallM, ofJson_small smallN, Value.int.injEq] at same
      have back := congrArg Int64.toInt same
      rw [smallM.toInt, smallN.toInt] at back
      exact .inl back
    · rw [ofJson_small smallM, ofJson_large largeN] at same
      exact nomatch same
    · rw [ofJson_large largeM, ofJson_small smallN] at same
      exact nomatch same
    · rw [ofJson_large largeM, ofJson_large largeN, Value.float.injEq] at same
      exact .inr ⟨largeM, largeN, (Binary64.ofInt_eq_iff largeM largeN).mp same⟩
  · rintro (rfl | ⟨largeM, largeN, same⟩)
    · rfl
    · rw [ofJson_large largeM, ofJson_large largeN,
        (Binary64.ofInt_eq_iff largeM largeN).mpr same]

/-- What a value keeps of a member: it is shown as the member was, unless this is an integer beyond
the signed range, for which the value is a double, the nearest multiple of 2048. -/
structure Keeps (v : Value) (member : Json) : Prop where
  shown : v.toJson = member ↔ ∀ n, member = .int n → ¬ Large n
  rounded : ∀ n, member = .int n → Large n → ∃ x, v = .float x ∧ v.toJson = .float x ∧
    x.isFinite = true ∧ x.quotient = (2048 * nearest2048 n, 1)

/-- A member is kept, or rounded if it is an integer beyond the signed range. -/
theorem ofJson_keeps {member : Json} (h : member.InRange) : Keeps (Value.ofJson member) member := by
  by_cases beyond : ∃ n, member = .int n ∧ Large n
  · obtain ⟨n, rfl, large⟩ := beyond
    obtain ⟨finite, nearest⟩ := Binary64.quotient_ofInt large
    have shown : (Value.float (Binary64.ofInt n)).toJson = .float (Binary64.ofInt n) :=
      if_pos finite
    rw [ofJson_large large]
    refine ⟨⟨fun same => ?_, fun none => absurd large (none n rfl)⟩, ?_⟩
    · exact nomatch shown.symm.trans same
    · rintro _ ⟨rfl⟩ _
      exact ⟨_, rfl, shown, finite, nearest⟩
  · have small : ∀ n, member = .int n → Small n := by
      rintro n rfl
      exact (small_or_large h).resolve_right fun large => beyond ⟨n, rfl, large⟩
    exact ⟨⟨fun _ n integer large => beyond ⟨n, integer, large⟩, fun _ => toJson_ofJson h small⟩,
      fun n integer large => absurd ⟨n, integer, large⟩ beyond⟩

end Value

namespace Record

variable {members : Record Json}

theorem getElem?_ofMembers {i : Nat} {key : String} {member : Json}
    (h : members.entries[i]? = some (key, member)) :
    (ofMembers members).entries[i]? = some (key, .value (Value.ofJson member)) := by
  rw [ofMembers, map, List.getElem?_map, h]
  rfl

/-- A JSON object becomes a record with one entry for each member, in the order of the members,
whose value keeps the member; so two integers become the same value exactly if they are the same or
both beyond the signed range and next to the same multiple of 2048. -/
theorem ofJson_members (h : ∀ member ∈ members.entries, member.2.InRange) :
    ∃ record : Record Operand, Record.ofJson (.object members) = .ok record ∧
      List.Forall₂ (fun entry member => entry.1 = member.1 ∧
        ∃ v, entry.2 = .value v ∧ Value.Keeps v member.2) record.entries members.entries ∧
      ∀ (i j : Nat) (key other : String) (m n : Int),
        members.entries[i]? = some (key, .int m) → members.entries[j]? = some (other, .int n) →
        ∃ v w, record.entries[i]? = some (key, .value v) ∧
          record.entries[j]? = some (other, .value w) ∧
          (v = w ↔ m = n ∨ Large m ∧ Large n ∧ nearest2048 m = nearest2048 n) := by
  refine ⟨ofMembers members, rfl, ?_, ?_⟩
  · refine List.forall₂_map_left_iff.mpr (List.forall₂_same.mpr fun member given => ?_)
    exact ⟨rfl, _, rfl, Value.ofJson_keeps (h member given)⟩
  · intro i j key other m n atI atJ
    have ranges {k : Nat} {key : String} {n : Int}
        (given : members.entries[k]? = some (key, .int n)) : (Json.int n).InRange :=
      h (key, .int n) (List.mem_of_getElem? given)
    exact ⟨_, _, getElem?_ofMembers atI, getElem?_ofMembers atJ,
      Value.ofJson_int_eq_iff (ranges atI) (ranges atJ)⟩

/-- A row with numbers of all kinds. -/
def reading : Record Json :=
  ⟨[("id", .int 18446744073709551615), ("level", .int (-13)),
    ("scale", .float ⟨0x3FF8000000000000⟩), ("tags", .array [.int 9223372036854775809])]⟩

theorem ofJson_members_reading :
    (∀ member ∈ reading.entries, member.2.InRange) ∧
    ∃ record : Record Operand, Record.ofJson (.object reading) = .ok record ∧
      List.Forall₂ (fun entry member => entry.1 = member.1 ∧
        ∃ v, entry.2 = .value v ∧ Value.Keeps v member.2) record.entries reading.entries := by
  have ranges : ∀ member ∈ reading.entries, member.2.InRange := by
    simp only [reading, List.forall_mem_cons, Json.InRange]
    exact ⟨by decide, by decide, rfl, trivial, nofun⟩
  obtain ⟨record, read, kept, -⟩ := ofJson_members ranges
  exact ⟨ranges, record, read, kept⟩

/-- Two integers beyond the signed range become one value, which is shown as neither of them. -/
theorem members_collide :
    Record.ofJson
        (.object ⟨[("a", .int 9223372036854775808), ("b", .int 9223372036854775809)]⟩) =
      .ok ⟨[("a", .value (.float ⟨0x43E0000000000000⟩)),
        ("b", .value (.float ⟨0x43E0000000000000⟩))]⟩ ∧
    (Value.float ⟨0x43E0000000000000⟩).toJson ≠ .int 9223372036854775808 ∧
    (Value.float ⟨0x43E0000000000000⟩).toJson ≠ .int 9223372036854775809 :=
  ⟨rfl, nofun, nofun⟩

end Record

end SqlBuilder
