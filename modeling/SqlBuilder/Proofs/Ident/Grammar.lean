import SqlBuilder.Proofs.Ident

/-!
# The grammar of identifiers

`Ident.Spells` says of characters, without reading them from left to right, that they are an
identifier: segments with single dots between them. `Ident.parse` accepts exactly these texts, and
it reads the text of valid segments as those segments (`Ident.parse_grammar`). The states of the
reader are followed through one segment at a time (`Ident.parseSegment_chars`).
-/

namespace SqlBuilder

/-- No quoted name holds a NUL. -/
def Segment.NulFree : Segment → Prop
  | .bare _ => True
  | .quoted name => '\x00' ∉ name.toList

namespace Ident

/-- The inside of a quoted segment: anything but NUL, with quotation marks in pairs. -/
inductive Paired : List Char → Prop
  | nil : Paired []
  | char {c : Char} {cs : List Char} (mark : c ≠ '"') (nul : c ≠ '\x00') (rest : Paired cs) :
      Paired (c :: cs)
  | marks {cs : List Char} (rest : Paired cs) : Paired ('"' :: '"' :: cs)

/-- The text of one segment. -/
inductive SpellsSegment : List Char → Prop
  | bare {c : Char} {cs : List Char} (start : isBareStart c) (rest : ∀ d ∈ cs, isBareChar d) :
      SpellsSegment (c :: cs)
  | quoted {cs : List Char} (nonempty : cs ≠ []) (paired : Paired cs) :
      SpellsSegment ('"' :: cs ++ ['"'])

/-- The text of an identifier: one or more segments with single dots between them. -/
def Spells (text : List Char) : Prop :=
  ∃ parts, parts ≠ [] ∧ (∀ part ∈ parts, SpellsSegment part) ∧ text = ['.'].intercalate parts

/-! ### Texts of segments -/

theorem paired_doubleQuotes {name : List Char} (nul : '\x00' ∉ name) :
    Paired (doubleQuotes name) := by
  induction name with
  | nil => exact .nil
  | cons c name ih =>
    obtain ⟨head, tail⟩ : '\x00' ≠ c ∧ '\x00' ∉ name := by simpa using nul
    unfold doubleQuotes
    split_ifs with mark
    · exact .marks (ih tail)
    · exact .char mark head.symm (ih tail)

/-- Characters with quotation marks in pairs are a name with every quotation mark doubled. -/
theorem Paired.exists_name {cs : List Char} (h : Paired cs) :
    ∃ name, doubleQuotes name = cs ∧ '\x00' ∉ name := by
  induction h with
  | nil => exact ⟨[], rfl, nofun⟩
  | @char c cs mark nul _ ih =>
    obtain ⟨name, rfl, free⟩ := ih
    exact ⟨c :: name, by simp [doubleQuotes, mark], by simp [nul.symm, free]⟩
  | marks _ ih =>
    obtain ⟨name, rfl, free⟩ := ih
    exact ⟨'"' :: name, by simp [doubleQuotes], by simp [free]⟩

theorem spellsSegment_chars {s : Segment} (wellFormed : s.WellFormed) (free : s.NulFree) :
    SpellsSegment s.chars := by
  cases wellFormed with
  | bare start rest => simpa [Segment.chars] using SpellsSegment.bare start rest
  | @quoted name nonempty =>
    refine .quoted ?_ (paired_doubleQuotes free)
    cases chars : name.toList with
    | nil => exact absurd chars nonempty
    | cons c cs =>
      unfold doubleQuotes
      split_ifs <;> simp

theorem SpellsSegment.exists_segment {text : List Char} (h : SpellsSegment text) :
    ∃ s : Segment, s.chars = text ∧ s.WellFormed ∧ s.NulFree := by
  cases h with
  | @bare c cs start rest =>
    exact ⟨.bare (String.ofList (c :: cs)), by simp [Segment.chars], .bare start rest, trivial⟩
  | quoted nonempty paired =>
    obtain ⟨name, rfl, free⟩ := paired.exists_name
    refine ⟨.quoted (String.ofList name), by simp [Segment.chars], .quoted ?_, ?_⟩
    · rintro none
      rw [String.toList_ofList] at none
      exact nonempty (by rw [none]; rfl)
    · simpa [Segment.NulFree] using free

/-- Wherever a segment is written, it holds no NUL unless its name does. -/
theorem nul_not_mem_chars_iff {s : Segment} (wellFormed : s.WellFormed) :
    '\x00' ∉ s.chars ↔ s.NulFree := by
  have doubled (name : List Char) : '\x00' ∈ doubleQuotes name ↔ '\x00' ∈ name := by
    induction name with
    | nil => simp [doubleQuotes]
    | cons c name ih =>
      unfold doubleQuotes
      split_ifs with mark
      · simp [ih, mark]
      · simp [ih]
  cases wellFormed with
  | bare start rest =>
    refine iff_of_true ?_ trivial
    simp only [Segment.chars, String.toList_ofList, List.mem_cons, not_or]
    refine ⟨?_, fun nul => absurd (rest _ nul) (by decide)⟩
    rintro rfl
    exact absurd start (by decide)
  | quoted nonempty => simp [Segment.chars, Segment.NulFree, doubled]

/-- Apart from the separators, the elements of joined lists are those of the lists. -/
theorem mem_intercalate_iff {α : Type} {a : α} {separator : List α} (h : a ∉ separator)
    {parts : List (List α)} : a ∈ separator.intercalate parts ↔ ∃ part ∈ parts, a ∈ part := by
  induction parts with
  | nil => simp
  | cons part parts ih =>
    cases parts with
    | nil => simp
    | cons part' parts =>
      rw [List.intercalate_cons_cons, List.mem_append, List.mem_append, ih]
      simp [h]

theorem mem_chars_iff {c : Char} (dot : c ≠ '.') {segments : List Segment} :
    c ∈ chars segments ↔ ∃ s ∈ segments, c ∈ s.chars := by
  rw [chars, mem_intercalate_iff (by simpa using dot)]
  constructor
  · rintro ⟨part, hpart, hc⟩
    obtain ⟨s, hs, rfl⟩ := List.mem_map.1 hpart
    exact ⟨s, hs, hc⟩
  · rintro ⟨s, hs, hc⟩
    exact ⟨s.chars, List.mem_map_of_mem hs, hc⟩

theorem nul_not_mem_chars {segments : List Segment} :
    '\x00' ∉ chars segments ↔ ∀ s ∈ segments, '\x00' ∉ s.chars := by
  rw [mem_chars_iff (by decide)]
  simp only [not_exists, not_and]

theorem spells_chars {segments : List Segment} (nonempty : segments ≠ [])
    (h : ∀ s ∈ segments, s.WellFormed ∧ s.NulFree) : Spells (chars segments) :=
  ⟨segments.map Segment.chars, by simpa using nonempty,
    List.forall_mem_map.2 fun s hs => spellsSegment_chars (h s hs).1 (h s hs).2, rfl⟩

theorem Spells.exists_segments {text : List Char} (h : Spells text) :
    ∃ segments, segments ≠ [] ∧ (∀ s ∈ segments, s.WellFormed ∧ s.NulFree) ∧
      chars segments = text := by
  obtain ⟨parts, nonempty, spelled, rfl⟩ := h
  have named : ∃ segments : List Segment, segments.map Segment.chars = parts ∧
      ∀ s ∈ segments, s.WellFormed ∧ s.NulFree := by
    clear nonempty
    induction parts with
    | nil => exact ⟨[], rfl, nofun⟩
    | cons part parts ih =>
      obtain ⟨first, others⟩ := List.forall_mem_cons.1 spelled
      obtain ⟨s, rfl, valid⟩ := first.exists_segment
      obtain ⟨segments, rfl, rest⟩ := ih others
      exact ⟨s :: segments, rfl, List.forall_mem_cons.2 ⟨valid, rest⟩⟩
  obtain ⟨segments, rfl, valid⟩ := named
  exact ⟨segments, by simpa using nonempty, valid, rfl⟩

/-! ### Reading a segment -/

/-- Inside of a bare segment, bare characters are passed. -/
theorem parseBare_append (done : List Segment) (name : List Char) {cs : List Char}
    (h : ∀ d ∈ cs, isBareChar d) (rest : List Char) :
    parseBare done name (cs ++ rest) = parseBare done (cs.reverse ++ name) rest := by
  induction cs generalizing name with
  | nil => rfl
  | cons c cs ih =>
    obtain ⟨bare, others⟩ := List.forall_mem_cons.1 h
    have dot : c ≠ '.' := by
      rintro rfl
      exact absurd bare (by decide)
    rw [List.cons_append, parseBare, if_neg dot, if_pos bare, ih _ others]
    simp

/-- Inside of a quoted segment, a name with its quotation marks doubled is passed. -/
theorem parseQuoted_append (done : List Segment) (name cs rest : List Char) :
    parseQuoted done name (doubleQuotes cs ++ rest) =
      parseQuoted done (cs.reverse ++ name) rest := by
  induction cs generalizing name with
  | nil => rfl
  | cons c cs ih =>
    unfold doubleQuotes
    split_ifs with mark
    · rw [List.cons_append, List.cons_append, parseQuoted, if_pos rfl, parseQuoteEnd, if_pos rfl,
        ih, mark]
      simp
    · rw [List.cons_append, parseQuoted, if_neg mark, ih]
      simp

/-- Behind a well-formed segment the identifier ends, or a dot and the next segment follow. -/
theorem parseSegment_chars {s : Segment} (h : s.WellFormed) (done : List Segment) :
    parseSegment done s.chars = .ok (s :: done) ∧
      ∀ rest, parseSegment done (s.chars ++ '.' :: rest) = parseSegment (s :: done) rest := by
  cases h with
  | @bare c cs start tail =>
    have mark : c ≠ '"' := by
      rintro rfl
      exact absurd start (by decide)
    have dot : c ≠ '.' := by
      rintro rfl
      exact absurd start (by decide)
    have begun (rest : List Char) : parseSegment done (c :: cs ++ rest) =
        parseBare done (cs.reverse ++ [c]) rest := by
      rw [List.cons_append, parseSegment, if_neg mark, if_neg dot, if_pos start,
        parseBare_append done [c] tail]
    simp only [Segment.chars, String.toList_ofList]
    refine ⟨?_, fun rest => ?_⟩
    · rw [← List.append_nil (c :: cs), begun, parseBare]
      simp
    · rw [begun, parseBare, if_pos rfl]
      simp
  | @quoted name nonempty =>
    have begun (rest : List Char) : parseSegment done (Segment.chars (.quoted name) ++ rest) =
        parseQuoteEnd done name.toList.reverse rest := by
      simp only [Segment.chars, List.cons_append, List.append_assoc]
      rw [parseSegment, if_pos rfl, parseQuoted_append, parseQuoted, if_pos rfl, List.append_nil,
        List.nil_append]
    have full : name.toList.reverse.isEmpty = false := by simpa using nonempty
    refine ⟨?_, fun rest => ?_⟩
    · rw [← List.append_nil (Segment.chars _), begun, parseQuoteEnd, full]
      simp
    · rw [begun, parseQuoteEnd, if_neg (by decide), full]
      simp

/-- The text of well-formed segments is read as those segments. -/
theorem parseSegment_of_wellFormed {segments : List Segment} (nonempty : segments ≠ [])
    (h : ∀ s ∈ segments, s.WellFormed) (done : List Segment) :
    parseSegment done (chars segments) = .ok (segments.reverse ++ done) := by
  induction segments generalizing done with
  | nil => exact absurd rfl nonempty
  | cons s segments ih =>
    obtain ⟨first, others⟩ := List.forall_mem_cons.1 h
    cases segments with
    | nil => simpa [chars, List.intercalate] using (parseSegment_chars first done).1
    | cons s' segments =>
      rw [chars_cons s (by simp), (parseSegment_chars first done).2, ih (by simp) others]
      simp

theorem parse_of_valid {text : String} {segments : List Segment} (nonempty : segments ≠ [])
    (valid : ∀ s ∈ segments, s.WellFormed ∧ s.NulFree) (h : text.toList = chars segments) :
    parse text = .ok ⟨segments⟩ := by
  have read := parseSegment_of_wellFormed nonempty (fun s hs => (valid s hs).1) []
  have some : text.toList.isEmpty = false := by
    cases chars : text.toList with
    | cons => rfl
    | nil =>
      rw [← h, chars, parseSegment] at read
      cases read
  have free : text.toList.contains '\x00' = false := by
    have absent := nul_not_mem_chars.2 fun s hs =>
      (nul_not_mem_chars_iff (valid s hs).1).2 (valid s hs).2
    rw [← h] at absent
    simpa using absent
  rw [parse, some, free, h, read]
  simp [Except.map]

/-- What is read of a text without NUL are valid segments. -/
theorem valid_of_parse {text : String} {ident : Ident} (h : parse text = .ok ident) :
    ∀ s ∈ ident.segments, s.WellFormed ∧ s.NulFree := by
  obtain ⟨spelled, -, wellFormed⟩ := parse_chars h
  have free : '\x00' ∉ text.toList := by
    intro nul
    simp only [parse, List.contains_iff_mem.2 nul, if_true] at h
    split_ifs at h
  rw [← spelled, nul_not_mem_chars] at free
  exact fun s hs => ⟨wellFormed s hs, (nul_not_mem_chars_iff (wellFormed s hs)).1 (free s hs)⟩

/-! ### The grammar -/

/-- The texts that are read are those of the grammar. What is read is written as it was, so that
checking a text changes nothing, and the text of valid segments is read as those segments. -/
theorem parse_grammar :
    (∀ text, (∃ ident, parse text = .ok ident) ↔ Spells text.toList) ∧
    (∀ text ident, parse text = .ok ident → ident.toSql = text ∧ checked text = .ok text) ∧
    (∀ segments, segments ≠ [] → (∀ s ∈ segments, s.WellFormed ∧ s.NulFree) →
      parse (toSql ⟨segments⟩) = .ok ⟨segments⟩) := by
  refine ⟨fun text => ⟨?_, fun spelled => ?_⟩, fun text ident h => ?_,
    fun segments nonempty valid => ?_⟩
  · rintro ⟨ident, h⟩
    obtain ⟨spelled, nonempty, -⟩ := parse_chars h
    exact spelled ▸ spells_chars nonempty (valid_of_parse h)
  · obtain ⟨segments, nonempty, valid, spelled⟩ := spelled.exists_segments
    exact ⟨_, parse_of_valid nonempty valid spelled.symm⟩
  · have written := toSql_of_parse h
    refine ⟨written, ?_⟩
    rw [checked, h, ← written]
  · exact parse_of_valid nonempty valid (toList_toSql ⟨segments⟩)

/-- A quoted segment may hold dots, and quotation marks in pairs. -/
example : (parse "public.\"a.\"\"b\"").toOption =
    some ⟨[.bare "public", .quoted "a.\"b"]⟩ := by decide +kernel

end Ident

end SqlBuilder
