import Mathlib.Tactic.SplitIfs
import SqlBuilder.Error

/-!
# Identifiers are written as they were read

`Ident.parse` keeps every character of the text, so writing an identifier gives back the text it
was read from. Checking a key therefore never changes it. The segments that are read are
well-formed, which is what the reader of SQL text relies on.
-/

namespace SqlBuilder

/-- The characters of a segment as it is written. -/
def Segment.chars : Segment → List Char
  | .bare name => name.toList
  | .quoted name => '"' :: Ident.doubleQuotes name.toList ++ ['"']

/-- What the grammar asks of a segment. -/
inductive Segment.WellFormed : Segment → Prop
  | bare {c : Char} {cs : List Char} (start : Ident.isBareStart c)
      (rest : ∀ d ∈ cs, Ident.isBareChar d) : WellFormed (.bare (String.ofList (c :: cs)))
  | quoted {name : String} (nonempty : name.toList ≠ []) : WellFormed (.quoted name)

theorem Segment.toList_toSql (s : Segment) : s.toSql.toList = s.chars := by
  cases s <;> simp [Segment.toSql, Segment.chars]

namespace Ident

/-- The characters of an identifier as it is written. -/
def chars (segments : List Segment) : List Char :=
  ['.'].intercalate (segments.map Segment.chars)

/-- The first segment is set apart by a dot from those behind it. -/
theorem chars_cons (s : Segment) {rest : List Segment} (h : rest ≠ []) :
    chars (s :: rest) = s.chars ++ '.' :: chars rest := by
  cases rest with
  | nil => exact absurd rfl h
  | cons s' rest => simp [chars, List.intercalate]

theorem doubleQuotes_append (cs ds : List Char) :
    doubleQuotes (cs ++ ds) = doubleQuotes cs ++ doubleQuotes ds := by
  induction cs with
  | nil => rfl
  | cons c cs ih =>
    simp only [List.cons_append, doubleQuotes, ih]
    split_ifs <;> rfl

/-- A text has been read as well-formed segments, in front of which stand those read before. -/
def Reads (text : List Char) (done segments : List Segment) : Prop :=
  ∃ read, segments = read.reverse ++ done ∧ read ≠ [] ∧ chars read = text ∧
    ∀ s ∈ read, s.WellFormed

theorem Reads.last {s : Segment} (h : s.WellFormed) (done : List Segment) :
    Reads s.chars done (s :: done) :=
  ⟨[s], rfl, by simp, by simp [chars, List.intercalate], by simpa using h⟩

/-- A segment in front of a dot is read before the rest of the text. -/
theorem Reads.cons {s : Segment} (h : s.WellFormed) {text : List Char}
    {done segments : List Segment} (rest : Reads text (s :: done) segments) :
    Reads (s.chars ++ '.' :: text) done segments := by
  obtain ⟨read, rfl, nonempty, rfl, wellFormed⟩ := rest
  refine ⟨s :: read, by simp, by simp, chars_cons s nonempty, ?_⟩
  simpa using ⟨h, wellFormed⟩

/-- A bare segment while it is read, nearest character first. -/
def BareSoFar (name : List Char) : Prop :=
  ∃ c cs, name.reverse = c :: cs ∧ isBareStart c ∧ ∀ d ∈ cs, isBareChar d

/-- What has been read of a bare segment is a segment, wherever it ends. -/
theorem BareSoFar.wellFormed {name : List Char} (h : BareSoFar name) :
    (Segment.bare (String.ofList name.reverse)).WellFormed := by
  obtain ⟨c, cs, hname, start, rest⟩ := h
  rw [hname]
  exact .bare start rest

/-- A bare segment goes on with any character that may stand in one. -/
theorem BareSoFar.snoc {name : List Char} (h : BareSoFar name) {d : Char} (hd : isBareChar d) :
    BareSoFar (d :: name) := by
  obtain ⟨c, cs, hname, start, rest⟩ := h
  refine ⟨c, cs ++ [d], by simp [hname], start, fun e he => ?_⟩
  rcases List.mem_append.1 he with he | he
  · exact rest e he
  · rw [List.mem_singleton.1 he]
    exact hd

/-- What the four states of the reader read. -/
theorem reads (text : List Char) :
    (∀ done segments, parseSegment done text = .ok segments → Reads text done segments) ∧
    (∀ done name segments, BareSoFar name → parseBare done name text = .ok segments →
      Reads (name.reverse ++ text) done segments) ∧
    (∀ done name segments, parseQuoted done name text = .ok segments →
      Reads ('"' :: doubleQuotes name.reverse ++ text) done segments) ∧
    (∀ done name segments, parseQuoteEnd done name text = .ok segments →
      Reads ('"' :: doubleQuotes name.reverse ++ '"' :: text) done segments) := by
  have quoted {name : List Char} (h : name ≠ []) :
      (Segment.quoted (String.ofList name.reverse)).WellFormed := .quoted (by simpa using h)
  -- One induction for all four states, because a character takes the reader from one to another.
  induction text with
  | nil =>
    refine ⟨?_, fun done name segments bare h => ?_, ?_, fun done name segments h => ?_⟩
    · simp [parseSegment]
    · cases h
      simpa [Segment.chars] using Reads.last bare.wellFormed done
    · simp [parseQuoted]
    · unfold parseQuoteEnd at h
      split_ifs at h with empty
      · cases h
        simpa [Segment.chars] using Reads.last (quoted (by simpa using empty)) done
  | cons c rest ih =>
    obtain ⟨ihSegment, ihBare, ihQuoted, ihEnd⟩ := ih
    refine ⟨fun done segments h => ?_, fun done name segments bare h => ?_,
      fun done name segments h => ?_, fun done name segments h => ?_⟩
    · unfold parseSegment at h
      split_ifs at h with quote dot start
      · simpa [quote, doubleQuotes] using ihQuoted done [] segments h
      · exact ihBare done [c] segments ⟨c, [], rfl, start, by simp⟩ h
    · unfold parseBare at h
      split_ifs at h with dot char
      · simpa [dot, Segment.chars] using Reads.cons bare.wellFormed (ihSegment _ _ h)
      · simpa using ihBare done (c :: name) segments (bare.snoc char) h
    · unfold parseQuoted at h
      split_ifs at h with quote
      · simpa [quote] using ihEnd done name segments h
      · simpa [doubleQuotes_append, doubleQuotes, quote] using ihQuoted done (c :: name) segments h
    · unfold parseQuoteEnd at h
      split_ifs at h with quote empty dot
      · simpa [quote, doubleQuotes_append, doubleQuotes] using
          ihQuoted done ('"' :: name) segments h
      · simpa [dot, Segment.chars] using
          Reads.cons (quoted (by simpa using empty)) (ihSegment _ _ h)

/-- The text of an identifier that has been read, as its well-formed segments. -/
theorem parse_chars {text : String} {ident : Ident} (h : parse text = .ok ident) :
    chars ident.segments = text.toList ∧ ident.segments ≠ [] ∧
      ∀ s ∈ ident.segments, s.WellFormed := by
  simp only [parse] at h
  split_ifs at h with empty nul
  cases hseg : parseSegment [] text.toList with
  | error fault => simp [hseg, Except.map] at h
  | ok segments =>
    obtain ⟨read, rfl, nonempty, htext, wellFormed⟩ := (reads text.toList).1 _ _ hseg
    simp only [hseg, Except.map, Except.ok.injEq] at h
    cases h
    simpa using ⟨htext, nonempty, wellFormed⟩

theorem toList_toSql (ident : Ident) : ident.toSql.toList = chars ident.segments := by
  rw [toSql, chars, String.toList_intercalate, List.map_map]
  congr 1
  exact List.map_congr_left fun s _ => s.toList_toSql

/-- Writing an identifier gives back the text it was read from. -/
theorem toSql_of_parse {text : String} {ident : Ident} (h : parse text = .ok ident) :
    ident.toSql = text := by
  apply String.toList_inj.1
  rw [← (parse_chars h).1, toList_toSql]

/-- Checking a text leaves it as it is. -/
theorem checked_eq {text name : String} (h : checked text = .ok name) : name = text := by
  unfold checked at h
  split at h
  · rename_i ident parsed
    cases h
    exact toSql_of_parse parsed
  · cases h

end Ident

end SqlBuilder
