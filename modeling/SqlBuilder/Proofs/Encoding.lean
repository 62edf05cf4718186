import Mathlib
import SqlBuilder.Wire.Encode

/-!
# Parameters on the wire

Writing a parameter appends bytes to a message or fails, and what is appended does not depend on
the message (`Writer.Does`). A writer that fails leaves the message as it was, although it may be
made of several steps. An integer is written so that it is read back: in two's complement within
the range of an integer type, and as its decimal text where the type is text
(`Value.write_int_lossless`).
-/

namespace SqlBuilder

open Wire

/-! ### Bytes -/

namespace Wire

theorem length_bigEndian (width n : Nat) : (bigEndian width n).length = width := by
  induction width generalizing n with
  | zero => rfl
  | succ width ih => simp [bigEndian, ih]

theorem ofBigEndian_append (bytes : List UInt8) (last : UInt8) :
    ofBigEndian (bytes ++ [last]) = 256 * ofBigEndian bytes + last.toNat := by
  simp [ofBigEndian]

/-- A number is read back up to what does not fit into the bytes. -/
theorem ofBigEndian_bigEndian (width n : Nat) :
    ofBigEndian (bigEndian width n) = n % Nat.pow 256 width := by
  induction width generalizing n with
  | zero => simp [bigEndian, ofBigEndian, Nat.mod_one]
  | succ width ih =>
    have last : (UInt8.ofNat n).toNat = n % 256 := UInt8.toNat_ofNat'
    have factors : Nat.pow 256 (width + 1) = 256 * Nat.pow 256 width := Nat.mul_comm _ _
    rw [bigEndian, ofBigEndian_append, ih, last, factors, Nat.mod_mul, Nat.add_comm]

/-- A number in the range of two's complement is read back. -/
theorem ofSignedBigEndian_signedBigEndian {width : Nat} {n : Int}
    (low : -(Nat.pow 256 width : Int) ≤ 2 * n) (high : 2 * n < Nat.pow 256 width) :
    ofSignedBigEndian (signedBigEndian width n) = n := by
  have positive : 0 < (Nat.pow 256 width : Int) := by omega
  have residue : ((n % (Nat.pow 256 width : Int)).toNat : Int) = n % (Nat.pow 256 width : Int) :=
    Int.toNat_of_nonneg (Int.emod_nonneg n (Int.ne_of_gt positive))
  rw [ofSignedBigEndian, signedBigEndian, length_bigEndian, ofBigEndian_bigEndian,
    Int.natCast_emod, residue, Int.emod_emod, Int.emod_bmod]
  exact Int.bmod_eq_of_le_mul_two (by omega) (by omega)

theorem ofUtf8?_utf8 (s : String) : ofUtf8? (utf8 s) = some s := by
  have valid : s.toUTF8.IsValidUTF8 := s.isValidUTF8
  have bytes : (⟨(utf8 s).toArray⟩ : ByteArray) = s.toUTF8 := by simp [utf8]
  rw [ofUtf8?, bytes, String.fromUTF8?, dif_pos valid]
  rfl

end Wire

/-! ### Writers -/

namespace Writer

/-- What a writer does to every message: it appends bytes, or it fails and leaves the message. -/
def Does (w : Writer Presence) : Except EncodeFault (Presence × List UInt8) → Prop
  | .ok (presence, added) => ∀ message, w.run message = (.ok presence, message ++ added)
  | .error fault => ∀ message, w.run message = (.error fault, message)

theorem does_bytes (b : List UInt8) : (bytes b).Does (.ok (.present, b)) := fun _ => rfl

theorem does_bytes_bytes (b c : List UInt8) :
    (do let _ ← bytes b; bytes c : Writer Presence).Does (.ok (.present, b ++ c)) := by
  intro message
  rw [← List.append_assoc]
  rfl

theorem does_pure (presence : Presence) :
    (pure presence : Writer Presence).Does (.ok (presence, [])) := by
  intro message
  rw [List.append_nil]
  rfl

theorem does_throw (fault : EncodeFault) :
    (throw fault : Writer Presence).Does (.error fault) := fun _ => rfl

theorem does_text (s : String) (type : SqlType) :
    (text s type).Does
      (.ok (.present, (if type.isVersionedText then [1] else []) ++ utf8 s)) := by
  unfold text
  split
  · exact does_bytes_bytes [1] (utf8 s)
  · exact does_bytes (utf8 s)

theorem does_integer (width : Nat) (n : Int64) (type : SqlType) :
    (integer width n type).Does
      (if -(Nat.pow 256 width : Int) ≤ 2 * n.toInt ∧ 2 * n.toInt < Nat.pow 256 width then
        .ok (.present, signedBigEndian width n.toInt)
      else .error (.outOfRange n type)) := by
  unfold integer
  split
  · exact does_bytes _
  · exact does_throw _

/-- A writer that fails leaves the message alone. -/
theorem Does.unchanged {w : Writer Presence} {outcome : Except EncodeFault (Presence × List UInt8)}
    (h : w.Does outcome) {message after : List UInt8} {fault : EncodeFault}
    (failed : w.run message = (.error fault, after)) : after = message := by
  cases outcome with
  | ok added => exact nomatch (h message).symm.trans failed
  | error e => exact (congrArg Prod.snd ((h message).symm.trans failed)).symm

end Writer

/-! ### Values -/

/-- A type of integers: its width in bytes and its range. -/
structure IntegerType where
  width : Nat
  least : Int
  greatest : Int

namespace SqlType

/-- The built-in types of integers. -/
def integer? : SqlType → Option IntegerType
  | .int2 => some ⟨2, -32768, 32767⟩
  | .int4 => some ⟨4, -2147483648, 2147483647⟩
  | .int8 => some ⟨8, -9223372036854775808, 9223372036854775807⟩
  | _ => none

@[simp] theorem integer?_eq_none (type : SqlType) :
    type.integer? = none ↔ type ≠ .int2 ∧ type ≠ .int4 ∧ type ≠ .int8 := by
  cases type <;> simp [integer?]

/-- The range of a type of integers is the range of two's complement in its width. -/
theorem integer?_range {type : SqlType} {range : IntegerType} (h : type.integer? = some range)
    (n : Int) :
    (range.least ≤ n ∧ n ≤ range.greatest) ↔
      -(Nat.pow 256 range.width : Int) ≤ 2 * n ∧ 2 * n < Nat.pow 256 range.width := by
  cases type <;> cases h
  case int2 | int4 | int8 => all_goals simp only [Nat.pow_eq, Nat.reducePow]; omega

/-- Whether a type is made for the kind of a value. -/
def accepts (type : SqlType) : Value → Bool
  | .null => true
  | .bool _ => type = .bool
  | .int _ => type.integer?.isSome || type ∈ [.float4, .float8, .text, .varchar]
  | .float _ => type ∈ [.float4, .float8]
  | .text _ => type.isPlainText || type.isVersionedText
  | .json _ => type ∈ [.json, .jsonb]
  | .uuid _ => type = .uuid
  | .timestamp _ => type ∈ [.timestamptz, .timestamp]
  | .bytes _ => type = .bytea

end SqlType

namespace Value

/-- A writer does one thing to every message, and it refuses the value as unsupported exactly
where the type does not accept it. -/
def Handled (value : Value) (type : SqlType) (w : Writer Presence) : Prop :=
  ∃ outcome, w.Does outcome ∧
    (type.accepts value = false ↔ outcome = .error (.unsupported value type))

variable {value : Value} {type : SqlType} {w : Writer Presence}

theorem handled_of_appends {appended : Presence × List UInt8} (h : w.Does (.ok appended))
    (accepted : type.accepts value = true) : Handled value type w :=
  ⟨.ok appended, h, by simp [accepted]⟩

theorem handled_of_refused (refused : type.accepts value = false) :
    Handled value type (throw (.unsupported value type)) :=
  ⟨_, Writer.does_throw _, by simp [refused]⟩

theorem handled_integer (width : Nat) {n : Int64} (accepted : type.accepts (.int n) = true) :
    Handled (.int n) type (Writer.integer width n type) := by
  refine ⟨_, Writer.does_integer width n type, ?_⟩
  split <;> simp [accepted]

/-- Every type handles every value. -/
theorem handled (value : Value) (type : SqlType) : Handled value type (value.write type) := by
  fun_cases Value.write type value
  case case1 => exact handled_of_appends (Writer.does_pure .null) rfl
  case case3 => exact handled_integer 2 rfl
  case case4 => exact handled_integer 4 rfl
  case case5 => exact handled_integer 8 rfl
  case case8 | case9 => exact handled_of_appends (Writer.does_text _ _) rfl
  case case13 => exact handled_of_appends (Writer.does_bytes_bytes _ _) rfl
  case case18 s texts =>
    rw [if_pos texts]
    exact handled_of_appends (Writer.does_text s type) texts
  case case19 s others =>
    rw [if_neg others]
    exact handled_of_refused (eq_false_of_ne_true others)
  case case20 =>
    refine handled_of_refused ?_
    cases value <;> simp_all [SqlType.accepts]
  -- every other value that is accepted is one piece of bytes
  all_goals exact handled_of_appends (Writer.does_bytes _) rfl

theorem write_integer {n : Int64} {range : IntegerType} (h : type.integer? = some range) :
    (Value.int n).write type = Writer.integer range.width n type := by
  cases type <;> cases h <;> rfl

/-- An integer of the range of a type is written as bytes that are read back, and no other. -/
theorem integer_written {n : Int64} {range : IntegerType} (h : type.integer? = some range)
    (message : List UInt8) :
    if range.least ≤ n.toInt ∧ n.toInt ≤ range.greatest then
      ∃ added, ((Value.int n).write type).run message = (.ok .present, message ++ added) ∧
        added.length = range.width ∧ ofSignedBigEndian added = n.toInt
    else ((Value.int n).write type).run message = (.error (.outOfRange n type), message) := by
  have does := Writer.does_integer range.width n type
  rw [write_integer h]
  simp only [SqlType.integer?_range h]
  split <;> rename_i fits
  · rw [if_pos fits] at does
    exact ⟨_, does message, length_bigEndian _ _,
      ofSignedBigEndian_signedBigEndian fits.1 fits.2⟩
  · rw [if_neg fits] at does
    exact does message

/-- An integer is written to text as its decimal numeral. -/
theorem numeral_written (n : Int64) (h : type = .text ∨ type = .varchar)
    (message : List UInt8) :
    ((Value.int n).write type).run message =
      (.ok .present, message ++ utf8 (Int.repr n.toInt)) := by
  obtain rfl | rfl := h <;> exact Writer.does_text _ _ message

/-- A value is refused as unsupported exactly by the types that do not accept it. -/
theorem refused_iff (value : Value) (type : SqlType) (message : List UInt8) :
    type.accepts value = false ↔
      (value.write type).run message = (.error (.unsupported value type), message) := by
  obtain ⟨outcome, does, refused⟩ := handled value type
  rw [refused]
  constructor
  · rintro rfl
    exact does message
  · intro failed
    cases outcome with
    | ok appended => exact nomatch (does message).symm.trans failed
    | error fault =>
      have same := congrArg Prod.fst ((does message).symm.trans failed)
      rw [Except.error.inj same]

/-- Integers are encoded without loss or refused. Where the type is one of integers, exactly the
integers of its range are written, as bytes of its width that are read back; where it is text, the
decimal numeral is written; other types than these and the types of floats refuse them. A value
of any kind is refused as unsupported exactly by the types that do not accept it, whatever fails
leaves the message as it was, and NULL writes nothing. -/
theorem write_int_lossless (n : Int64) (type : SqlType) (message : List UInt8) :
    (∀ range, type.integer? = some range →
      if range.least ≤ n.toInt ∧ n.toInt ≤ range.greatest then
        ∃ added, ((Value.int n).write type).run message = (.ok .present, message ++ added) ∧
          added.length = range.width ∧ ofSignedBigEndian added = n.toInt
      else ((Value.int n).write type).run message = (.error (.outOfRange n type), message)) ∧
    (type = .text ∨ type = .varchar →
      ∃ added, ((Value.int n).write type).run message = (.ok .present, message ++ added) ∧
        ofUtf8? added = some (Int.repr n.toInt) ∧ (Int.repr n.toInt).toInt? = some n.toInt) ∧
    (type.integer? = none → type ∉ [.text, .varchar, .float4, .float8] →
      ((Value.int n).write type).run message = (.error (.unsupported (.int n) type), message)) ∧
    (∀ value : Value, type.accepts value = false ↔
      (value.write type).run message = (.error (.unsupported value type), message)) ∧
    (∀ (value : Value) (fault : EncodeFault) (after : List UInt8),
      (value.write type).run message = (.error fault, after) → after = message) ∧
    (Value.null.write type).run message = (.ok .null, message) := by
  refine ⟨fun range h => integer_written h message, fun h => ?_, fun others rest => ?_,
    fun value => refused_iff value type message, fun value fault after failed => ?_, rfl⟩
  · exact ⟨_, numeral_written n h message, ofUtf8?_utf8 _, Int.toInt?_repr n.toInt⟩
  · refine (refused_iff (.int n) type message).mp ?_
    simp_all [SqlType.accepts]
  · obtain ⟨_, does, -⟩ := handled value type
    exact does.unchanged failed

example : ((Value.int 32768).write .int2).run [7] = (.error (.outOfRange 32768 .int2), [7]) := rfl

end Value

end SqlBuilder
