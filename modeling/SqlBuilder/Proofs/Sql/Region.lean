import SqlBuilder.Proofs.Sql.Scan

/-!
# What the regions are

The stretches of text that the region functions measure, described on their own: the rest of a
quoted stretch, of a line, of nested comments, of a dollar-quoted body. Each description relates
the rest of the stretch to the text behind it. `Measures` says that a function gives the length
of the one stretch that stands at the beginning of a text, and that nothing but the first
character behind the stretch has a say in where it ends.
-/

namespace SqlBuilder.Sql

/-- The rest of a quoted stretch: a doubled quotation mark does not end it, nor does one behind a
backslash when backslashes escape. -/
inductive Quoted (quote : Char) (escapes : Bool) : (body rest : List Char) → Prop
  | unclosed : Quoted quote escapes [] []
  | close {rest : List Char} (single : rest.head? ≠ some quote) : Quoted quote escapes [quote] rest
  | doubled {body rest : List Char} (more : Quoted quote escapes body rest) :
      Quoted quote escapes (quote :: quote :: body) rest
  | escaped (c : Char) {body rest : List Char} (backslash : escapes)
      (more : Quoted quote escapes body rest) : Quoted quote escapes ('\\' :: c :: body) rest
  | lastBackslash (backslash : escapes) : Quoted quote escapes ['\\'] []
  | char (c : Char) {body rest : List Char} (inside : c ≠ quote) (plain : escapes → c ≠ '\\')
      (more : Quoted quote escapes body rest) : Quoted quote escapes (c :: body) rest

/-- The rest of a line: its newline comes last, if it has one. -/
inductive Line : (body rest : List Char) → Prop
  | unclosed : Line [] []
  | close (rest : List Char) : Line ['\n'] rest
  | char (c : Char) {body rest : List Char} (inside : c ≠ '\n') (more : Line body rest) :
      Line (c :: body) rest

/-- The rest of a block comment in which `depth` more comments are open. -/
inductive Commented : (depth : Nat) → (body rest : List Char) → Prop
  | unclosed (depth : Nat) : Commented depth [] []
  | close (rest : List Char) : Commented 0 ['*', '/'] rest
  | leave {depth : Nat} {body rest : List Char} (more : Commented depth body rest) :
      Commented (depth + 1) ('*' :: '/' :: body) rest
  | enter {depth : Nat} {body rest : List Char} (more : Commented (depth + 1) body rest) :
      Commented depth ('/' :: '*' :: body) rest
  | char (c : Char) {depth : Nat} {body rest : List Char}
      (opens : ¬ (c = '/' ∧ body.head? = some '*')) (closes : ¬ (c = '*' ∧ body.head? = some '/'))
      (more : Commented depth body rest) : Commented depth (c :: body) rest

/-- The rest of a stretch that its first `closing` ends. -/
inductive Through (closing : List Char) : (body rest : List Char) → Prop
  | unclosed : Through closing [] []
  | close (rest : List Char) : Through closing closing rest
  | char (c : Char) {body rest : List Char} (inside : ¬ closing <+: c :: body)
      (more : Through closing body rest) : Through closing (c :: body) rest

/-- The function measures the stretches of a kind: every text begins with one of them, the
function gives its length, and where it ends depends on no more than the character behind it. -/
structure Measures (measure : List Char → Nat) (Stretch : (body rest : List Char) → Prop) :
    Prop where
  split : ∀ text, ∃ body rest, text = body ++ rest ∧ Stretch body rest
  length : ∀ {body rest}, Stretch body rest → measure (body ++ rest) = body.length
  ahead : ∀ {body rest rest'}, Stretch body rest → rest.head? = rest'.head? → Stretch body rest'

namespace Measures

variable {measure : List Char → Nat} {Stretch : (body rest : List Char) → Prop}
  {body rest rest' : List Char}

/-- The stretch ends within the text. -/
theorem le (h : Measures measure Stretch) (text : List Char) : measure text ≤ text.length := by
  obtain ⟨body, rest, rfl, stretch⟩ := h.split text
  rw [h.length stretch, List.length_append]
  exact Nat.le_add_right _ _

/-- The measured length tells where the stretch ends. -/
theorem length_iff (h : Measures measure Stretch) :
    measure (body ++ rest) = body.length ↔ Stretch body rest := by
  refine ⟨fun same => ?_, h.length⟩
  obtain ⟨body', rest', split, stretch⟩ := h.split (body ++ rest)
  rw [split, h.length stretch] at same
  obtain ⟨rfl, rfl⟩ := List.append_inj split same.symm
  exact stretch

/-- A text begins with no more than one stretch of the kind. -/
theorem unique (h : Measures measure Stretch) {body' : List Char} (stretch : Stretch body rest)
    (stretch' : Stretch body' rest') (same : body ++ rest = body' ++ rest') :
    body = body' ∧ rest = rest' := by
  refine List.append_inj same ?_
  rw [← h.length stretch, same, h.length stretch']

/-- Another text behind the stretch that begins with the same character. -/
theorem congr (h : Measures measure Stretch) (same : measure (body ++ rest) = body.length)
    (head : rest.head? = rest'.head?) : measure (body ++ rest') = body.length :=
  h.length (h.ahead (h.length_iff.1 same) head)

end Measures

theorem eq_nil_of_head? {rest : List Char} (h : ([] : List Char).head? = rest.head?) :
    rest = [] := List.head?_eq_none_iff.1 h.symm

/-! ### Quoted stretches -/

/-- Every text begins with a quoted stretch, if only one that is never closed. -/
theorem exists_quoted (quote : Char) (escapes : Bool) (text : List Char) :
    ∃ body rest, text = body ++ rest ∧ Quoted quote escapes body rest := by
  fun_induction quotedLength quote escapes text with
  | case1 => exact ⟨[], [], rfl, .unclosed⟩
  | case2 c =>
    by_cases closes : c = quote
    · exact ⟨[c], [], rfl, closes ▸ .close nofun⟩
    · by_cases backslash : escapes ∧ c = '\\'
      · obtain ⟨escapes, rfl⟩ := backslash
        exact ⟨['\\'], [], rfl, .lastBackslash escapes⟩
      · exact ⟨[c], [], rfl, .char c closes (fun e same => backslash ⟨e, same⟩) .unclosed⟩
  | case3 c d more backslash ih =>
    obtain ⟨body, rest, rfl, quoted⟩ := ih
    simp only [Bool.and_eq_true, beq_iff_eq] at backslash
    obtain ⟨escapes, rfl⟩ := backslash
    exact ⟨'\\' :: d :: body, rest, rfl, .escaped d escapes quoted⟩
  | case4 c d more _ closes doubled ih =>
    obtain ⟨body, rest, rfl, quoted⟩ := ih
    rw [eq_of_beq closes, eq_of_beq doubled]
    exact ⟨quote :: quote :: body, rest, rfl, .doubled quoted⟩
  | case5 c d more _ closes single =>
    rw [eq_of_beq closes]
    exact ⟨[quote], d :: more, rfl, .close (by simpa using single)⟩
  | case6 c d more plain inside ih =>
    obtain ⟨body, rest, split, quoted⟩ := ih
    refine ⟨c :: body, rest, congrArg (c :: ·) split, .char c ?_ ?_ quoted⟩
    · simpa using inside
    · simpa using plain

/-- The measure stops at the first mark that is neither doubled nor escaped. A backslash for a mark
would escape itself. -/
theorem Quoted.length {quote : Char} {escapes : Bool} {body rest : List Char}
    (h : Quoted quote escapes body rest) (backslash : quote ≠ '\\') :
    quotedLength quote escapes (body ++ rest) = body.length := by
  induction h with
  | unclosed => rfl
  | @close rest single =>
    cases rest with
    | nil => rfl
    | cons d rest =>
      have single : d ≠ quote := by simpa using single
      simp [quotedLength, backslash, single]
  | doubled _ ih =>
    simp only [List.cons_append, quotedLength, ih, List.length_cons]
    simp [backslash]
    omega
  | escaped c escapes _ ih =>
    simp only [List.cons_append, quotedLength, ih, List.length_cons]
    simp [escapes]
    omega
  | lastBackslash _ => rfl
  | @char c body rest inside plain _ ih =>
    have skip : (escapes && c == '\\') = false := by
      cases escapes with
      | false => rfl
      | true => simpa using plain rfl
    cases ahead : body ++ rest with
    | nil =>
      obtain ⟨rfl, rfl⟩ := List.append_eq_nil_iff.1 ahead
      rfl
    | cons d more =>
      rw [ahead] at ih
      rw [List.cons_append, ahead, quotedLength, ih, skip, beq_false_of_ne inside]
      simp [Nat.add_comm]

/-- The character behind the closing mark matters, because it might double the mark. -/
theorem Quoted.ahead {quote : Char} {escapes : Bool} {body rest rest' : List Char}
    (h : Quoted quote escapes body rest) (head : rest.head? = rest'.head?) :
    Quoted quote escapes body rest' := by
  induction h with
  | unclosed =>
    obtain rfl := eq_nil_of_head? head
    exact .unclosed
  | close single => exact .close (head ▸ single)
  | doubled _ ih => exact .doubled (ih head)
  | escaped c escapes _ ih => exact .escaped c escapes (ih head)
  | lastBackslash escapes =>
    obtain rfl := eq_nil_of_head? head
    exact .lastBackslash escapes
  | char c inside plain _ ih => exact .char c inside plain (ih head)

/-- Unless the text ends first, a quotation mark comes last. -/
theorem Quoted.ends {quote : Char} {escapes : Bool} {body rest : List Char}
    (h : Quoted quote escapes body rest) : rest = [] ∨ body.getLast? = some quote := by
  induction h with
  | unclosed => exact .inl rfl
  | close _ => exact .inr rfl
  | doubled _ ih => exact ih.imp_right fun last => by simp [List.getLast?_cons, last]
  | escaped _ _ _ ih => exact ih.imp_right fun last => by simp [List.getLast?_cons, last]
  | lastBackslash _ => exact .inl rfl
  | char _ _ _ _ ih => exact ih.imp_right fun last => by simp [List.getLast?_cons, last]

theorem measures_quoted (quote : Char) (backslash : quote ≠ '\\') (escapes : Bool) :
    Measures (quotedLength quote escapes) (Quoted quote escapes) where
  split := exists_quoted quote escapes
  length h := h.length backslash
  ahead h := h.ahead

/-! ### Lines -/

theorem exists_line (text : List Char) : ∃ body rest, text = body ++ rest ∧ Line body rest := by
  induction text with
  | nil => exact ⟨[], [], rfl, .unclosed⟩
  | cons c text ih =>
    by_cases newline : c = '\n'
    · exact ⟨[c], text, rfl, newline ▸ .close text⟩
    · obtain ⟨body, rest, rfl, line⟩ := ih
      exact ⟨c :: body, rest, rfl, .char c newline line⟩

theorem Line.length {body rest : List Char} (h : Line body rest) :
    lineLength (body ++ rest) = body.length := by
  induction h with
  | unclosed => rfl
  | close rest => rfl
  | char c inside _ ih =>
    rw [List.cons_append, lineLength, beq_false_of_ne inside, ih]
    simp [Nat.add_comm]

theorem Line.ahead {body rest rest' : List Char} (h : Line body rest)
    (head : rest.head? = rest'.head?) : Line body rest' := by
  induction h with
  | unclosed =>
    obtain rfl := eq_nil_of_head? head
    exact .unclosed
  | close _ => exact .close rest'
  | char c inside _ ih => exact .char c inside (ih head)

theorem measures_line : Measures lineLength Line where
  split := exists_line
  length h := h.length
  ahead h := h.ahead

/-! ### Block comments -/

/-- Comments may be nested, so the stretch is found for every depth at once. -/
theorem exists_commented (depth : Nat) (text : List Char) :
    ∃ body rest, text = body ++ rest ∧ Commented depth body rest := by
  fun_induction blockLength depth text with
  | case1 depth => exact ⟨[], [], rfl, .unclosed depth⟩
  | case2 depth c => exact ⟨[c], [], rfl, .char c (by simp) (by simp) (.unclosed depth)⟩
  | case3 depth c d more opens ih =>
    obtain ⟨body, rest, rfl, commented⟩ := ih
    simp only [Bool.and_eq_true, beq_iff_eq] at opens
    obtain ⟨rfl, rfl⟩ := opens
    exact ⟨'/' :: '*' :: body, rest, rfl, .enter commented⟩
  | case4 c d more _ closes =>
    simp only [Bool.and_eq_true, beq_iff_eq] at closes
    obtain ⟨rfl, rfl⟩ := closes
    exact ⟨['*', '/'], more, rfl, .close more⟩
  | case5 c d more _ closes depth ih =>
    obtain ⟨body, rest, rfl, commented⟩ := ih
    simp only [Bool.and_eq_true, beq_iff_eq] at closes
    obtain ⟨rfl, rfl⟩ := closes
    exact ⟨'*' :: '/' :: body, rest, rfl, .leave commented⟩
  | case6 depth c d more opens closes ih =>
    obtain ⟨body, rest, split, commented⟩ := ih
    cases body with
    | nil =>
      cases commented
      cases split
    | cons e body =>
      cases split
      exact ⟨c :: d :: body, rest, rfl,
        .char c (by simpa using opens) (by simpa using closes) commented⟩

/-- Nothing is left of a comment only at the end of the text. -/
theorem Commented.rest_eq_nil {depth : Nat} {rest : List Char} (h : Commented depth [] rest) :
    rest = [] := by
  cases h
  rfl

/-- Where a comment opens or closes two characters are read at once. -/
theorem Commented.length {depth : Nat} {body rest : List Char} (h : Commented depth body rest) :
    blockLength depth (body ++ rest) = body.length := by
  induction h with
  | unclosed depth => rfl
  | close rest => rfl
  | leave _ ih =>
    simp only [List.cons_append, blockLength, ih, List.length_cons]
    simp
    omega
  | enter _ ih =>
    simp only [List.cons_append, blockLength, ih, List.length_cons]
    simp
    omega
  | @char c depth body rest opens closes more ih =>
    cases body with
    | nil =>
      rw [more.rest_eq_nil]
      rfl
    | cons d body =>
      have opens : (c == '/' && d == '*') = false := by simpa using opens
      have closes : (c == '*' && d == '/') = false := by simpa using closes
      rw [List.cons_append] at ih
      simp only [List.cons_append, blockLength, opens, closes, ih, List.length_cons]
      simp [Nat.add_comm]

theorem Commented.ahead {depth : Nat} {body rest rest' : List Char}
    (h : Commented depth body rest) (head : rest.head? = rest'.head?) :
    Commented depth body rest' := by
  induction h with
  | unclosed depth =>
    obtain rfl := eq_nil_of_head? head
    exact .unclosed depth
  | close _ => exact .close rest'
  | leave _ ih => exact .leave (ih head)
  | enter _ ih => exact .enter (ih head)
  | char c opens closes _ ih => exact .char c opens closes (ih head)

/-- Unless the text ends first, a slash comes last. -/
theorem Commented.ends {depth : Nat} {body rest : List Char} (h : Commented depth body rest) :
    rest = [] ∨ body.getLast? = some '/' := by
  induction h with
  | unclosed _ => exact .inl rfl
  | close _ => exact .inr rfl
  | leave _ ih => exact ih.imp_right fun last => by simp [List.getLast?_cons, last]
  | enter _ ih => exact ih.imp_right fun last => by simp [List.getLast?_cons, last]
  | char _ _ _ _ ih => exact ih.imp_right fun last => by simp [List.getLast?_cons, last]

theorem measures_commented (depth : Nat) : Measures (blockLength depth) (Commented depth) where
  split := exists_commented depth
  length h := h.length
  ahead h := h.ahead

/-! ### Dollar-quoted bodies -/

/-- Whether the character may stand in the tag of a dollar quote. -/
def continuesTag (c : Char) : Bool := c == '_' || c.isAlphanum

/-- The tag of a dollar quote. -/
structure DollarTag (tag : List Char) : Prop where
  chars : ∀ c ∈ tag, continuesTag c
  first : ∀ c, tag.head? = some c → c = '_' ∨ c.isAlpha

/-- What opens and closes a dollar quote with the tag. -/
def dollarMark (tag : List Char) : List Char := '$' :: (tag ++ ['$'])

theorem dollarMark_ne_nil (tag : List Char) : dollarMark tag ≠ [] := List.cons_ne_nil _ _

/-- A tag has no dollar sign in it, so its mark ends at the second one. -/
theorem DollarTag.dollar_notMem {tag : List Char} (h : DollarTag tag) : '$' ∉ tag :=
  fun mem => nomatch h.chars '$' mem

theorem DollarTag.takeWhile {tag : List Char} (h : DollarTag tag) (rest : List Char) :
    (tag ++ '$' :: rest).takeWhile continuesTag = tag := by
  rw [List.takeWhile_append_of_pos h.chars, List.takeWhile_cons_of_neg (by decide),
    List.append_nil]

/-- A run of characters for tags is a tag if it begins like one and a dollar sign follows. -/
theorem dollarTag?_append {tag tag' rest : List Char}
    (taken : (tag ++ rest).takeWhile continuesTag = tag) :
    dollarTag? (tag ++ rest) = some tag' ↔
      (∀ c, tag.head? = some c → c = '_' ∨ c.isAlpha) ∧ rest.head? = some '$' ∧ tag = tag' := by
  have taken : (tag ++ rest).takeWhile (fun c => c == '_' || c.isAlphanum) = tag := taken
  simp only [dollarTag?, taken, List.drop_left]
  cases tag <;> simp [and_assoc]

/-- The function finds the tags, each with the dollar sign behind it. -/
theorem dollarTag?_eq_some_iff {after tag : List Char} :
    dollarTag? after = some tag ↔ DollarTag tag ∧ ∃ rest, after = tag ++ '$' :: rest := by
  constructor
  · intro h
    obtain ⟨taken, rest, rfl, chars, ends⟩ := exists_run continuesTag after
    obtain ⟨first, dollar, rfl⟩ := (dollarTag?_append (takeWhile_run chars ends)).1 h
    obtain ⟨more, rfl⟩ := List.head?_eq_some_iff.1 dollar
    exact ⟨⟨chars, first⟩, more, rfl⟩
  · rintro ⟨tag, rest, rfl⟩
    exact (dollarTag?_append (tag.takeWhile rest)).2 ⟨tag.first, rfl, rfl⟩

/-- A dollar quote extends from one mark with its tag through the next. -/
theorem DollarTag.quotedLength {tag : List Char} (h : DollarTag tag) (rest : List Char) :
    dollarQuotedLength? (tag ++ '$' :: rest) =
      some (tag.length + 1 + lengthThrough (dollarMark tag) rest) := by
  have behind : (tag ++ '$' :: rest).drop (tag.length + 1) = rest := by
    rw [← List.drop_drop, List.drop_left]
    rfl
  simp only [dollarQuotedLength?, dollarTag?_eq_some_iff.2 ⟨h, rest, rfl⟩, Option.map_some, behind]
  rfl

section

variable {closing : List Char}

/-- Unless the text ends first, the stretch has room for what closes it. -/
theorem Through.closing_le {body rest : List Char} (h : Through closing body rest) :
    rest = [] ∨ closing.length ≤ body.length := by
  induction h with
  | unclosed => exact .inl rfl
  | close _ => exact .inr (Nat.le_refl _)
  | char c _ _ ih =>
    refine ih.imp_right fun room => ?_
    rw [List.length_cons]
    omega

/-- Whether it closes at the beginning of the stretch can be seen without the text behind. -/
theorem Through.prefix_iff {c : Char} {body rest : List Char} (h : Through closing body rest) :
    closing <+: c :: (body ++ rest) ↔ closing <+: c :: body := by
  rcases h.closing_le with rfl | room
  · rw [List.append_nil]
  · refine ⟨fun found => ?_, fun found => ?_⟩
    · refine List.prefix_of_prefix_length_le found (List.prefix_append (c :: body) rest) ?_
      rw [List.length_cons]
      omega
    · exact found.trans (List.prefix_append (c :: body) rest)

/-- Every text begins with a stretch up to what closes it, or up to its end. -/
theorem exists_through (closing text : List Char) :
    ∃ body rest, text = body ++ rest ∧ Through closing body rest := by
  induction text with
  | nil => exact ⟨[], [], rfl, .unclosed⟩
  | cons c text ih =>
    by_cases found : closing <+: c :: text
    · obtain ⟨rest, split⟩ := found
      exact ⟨closing, rest, split.symm, .close rest⟩
    · obtain ⟨body, rest, rfl, through⟩ := ih
      exact ⟨c :: body, rest, rfl, .char c (fun now => found (through.prefix_iff.2 now)) through⟩

/-- The measure stops at the first place where the closing stands. -/
theorem Through.length {body rest : List Char} (h : Through closing body rest)
    (nonempty : closing ≠ []) : lengthThrough closing (body ++ rest) = body.length := by
  induction h with
  | unclosed => rfl
  | close rest =>
    cases closing with
    | nil => exact absurd rfl nonempty
    | cons c cs =>
      have found : (c :: cs).isPrefixOf (c :: (cs ++ rest)) :=
        List.isPrefixOf_iff_prefix.2 (List.prefix_append (c :: cs) rest)
      rw [List.cons_append, lengthThrough, if_pos found]
  | @char c body rest inside more ih =>
    have absent : ¬ closing.isPrefixOf (c :: (body ++ rest)) :=
      fun found => inside (more.prefix_iff.1 (List.isPrefixOf_iff_prefix.1 found))
    rw [List.cons_append, lengthThrough, if_neg absent, ih, List.length_cons, Nat.add_comm]

theorem Through.ahead {body rest rest' : List Char} (h : Through closing body rest)
    (head : rest.head? = rest'.head?) : Through closing body rest' := by
  induction h with
  | unclosed =>
    obtain rfl := eq_nil_of_head? head
    exact .unclosed
  | close _ => exact .close rest'
  | char c inside _ ih => exact .char c inside (ih head)

/-- Unless the text ends first, the last character is that of the closing. -/
theorem Through.ends {body rest : List Char} {c : Char}
    (h : Through closing body rest) (last : closing.getLast? = some c) :
    rest = [] ∨ body.getLast? = some c := by
  induction h with
  | unclosed => exact .inl rfl
  | close _ => exact .inr last
  | char _ _ _ ih => exact ih.imp_right fun last => by simp [List.getLast?_cons, last]

theorem measures_through (closing : List Char) (nonempty : closing ≠ []) :
    Measures (lengthThrough closing) (Through closing) where
  split := exists_through closing
  length h := h.length nonempty
  ahead h := h.ahead

end

end SqlBuilder.Sql
