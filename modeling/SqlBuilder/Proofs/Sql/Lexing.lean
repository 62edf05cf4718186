import SqlBuilder.Proofs.Sql.Element

/-!
# Texts as sequences of lexical elements

Which kind of element stands at the beginning of a text is decided by its first two characters
and the tag behind a dollar sign (`kindAt`). Given the kind there is one element, so a text is a
sequence of elements in one way (`Lexes.unique`), and there is one, so every text is such a
sequence (`exists_lexes`).
-/

namespace SqlBuilder.Sql

theorem Longest.unique {P : (taken rest : List Char) → Prop} {cs rest cs' rest' : List Char}
    (h : Longest P cs rest) (h' : Longest P cs' rest') (same : cs ++ rest = cs' ++ rest') :
    cs = cs' := by
  rcases List.append_eq_append_iff.1 same with ⟨more, rfl, rfl⟩ | ⟨more, rfl, rfl⟩
  · rw [h.2 more rest' rfl h'.1, List.append_nil]
  · rw [h'.2 more rest rfl h.1, List.append_nil]

theorem exists_longest {P : (taken rest : List Char) → Prop} {cs rest : List Char}
    (h : P cs rest) :
    ∃ cs' rest', cs ++ rest = cs' ++ rest' ∧ Longest P cs' rest' := by
  induction length : rest.length using Nat.strongRecOn generalizing cs rest with
  | ind _ ih =>
    by_cases longest : ∀ more rest', rest = more ++ rest' → P (cs ++ more) rest' → more = []
    · exact ⟨cs, rest, rfl, h, longest⟩
    · simp only [not_forall] at longest
      obtain ⟨more, rest', rfl, longer, nonempty⟩ := longest
      have shorter : rest'.length < (more ++ rest').length := by
        rw [List.length_append]
        have := List.length_pos_of_ne_nil nonempty
        omega
      obtain ⟨cs', rest'', split, longest⟩ := ih _ (length ▸ shorter) longer rfl
      exact ⟨cs', rest'', by rw [← List.append_assoc, split], longest⟩

/-! ### Literals in parts -/

theorem Blank.unique {gap gap' more more' : List Char} (h : Blank gap) (h' : Blank gap')
    (same : gap ++ '\'' :: more = gap' ++ '\'' :: more') : gap = gap' := by
  induction h generalizing gap' with
  | nil =>
    cases h' with
    | nil => rfl
    | space space _ =>
      rw [← (List.cons.inj same).1] at space
      cases space
    | comment _ _ _ => cases (List.cons.inj same).1
  | @space c cs space _ ih =>
    cases h' with
    | nil =>
      rw [(List.cons.inj same).1] at space
      cases space
    | space _ blank' =>
      obtain ⟨rfl, behind⟩ := List.cons.inj same
      rw [ih blank' behind]
    | comment _ _ _ =>
      rw [(List.cons.inj same).1] at space
      cases space
  | @comment body cs c inside ends _ ih =>
    cases h' with
    | nil => cases (List.cons.inj same).1
    | space space _ =>
      rw [← (List.cons.inj same).1] at space
      cases space
    | @comment body' cs' c' inside' ends' blank' =>
      have lines : body ++ c :: (cs ++ '\'' :: more) = body' ++ c' :: (cs' ++ '\'' :: more') := by
        simpa using same
      obtain ⟨rfl, behind⟩ := run_unique (p := fun d => !isNewline d) (by simpa using inside)
        (by simp [ends]) (by simpa using inside') (by simp [ends']) lines
      obtain ⟨rfl, tails⟩ := List.cons.inj behind
      rw [ih blank' tails]

theorem Parts.chars_cons (gap next : List Char) (parts : Parts) (rest : List Char) :
    Parts.chars ((gap, next) :: parts) ++ rest =
      gap ++ '\'' :: (next ++ parts.chars ++ rest) := by
  simp [Parts.chars]

theorem Escaped.unique {body body' rest rest' : List Char} {parts parts' : Parts}
    (h : Escaped body parts rest) (h' : Escaped body' parts' rest')
    (same : body ++ parts.chars ++ rest = body' ++ parts'.chars ++ rest') :
    body = body' ∧ parts = parts' := by
  have measures := measures_quoted '\'' (by decide) true
  induction h generalizing body' parts' with
  | @last body rest quoted ends =>
    cases h' with
    | last quoted' _ =>
      exact ⟨(measures.unique quoted quoted' (by simpa [Parts.chars] using same)).1, rfl⟩
    | @more _ gap next _ parts quoted' blank _ =>
      rw [List.append_assoc body', Parts.chars_cons] at same
      obtain ⟨-, rfl⟩ := measures.unique quoted quoted' (by simpa [Parts.chars] using same)
      exact absurd ⟨gap, _, blank, rfl⟩ ends
  | @more body gap next rest parts quoted blank _ ih =>
    rw [List.append_assoc body, Parts.chars_cons] at same
    cases h' with
    | last quoted' ends =>
      obtain ⟨-, rfl⟩ := measures.unique quoted quoted' (by simpa [Parts.chars] using same)
      exact absurd ⟨gap, _, blank, rfl⟩ ends
    | @more _ gap' next' _ parts' quoted' blank' others' =>
      rw [List.append_assoc body', Parts.chars_cons] at same
      obtain ⟨rfl, behind⟩ := measures.unique quoted quoted' same
      obtain rfl := blank.1.unique blank'.1 behind
      obtain ⟨rfl, rfl⟩ := ih others' (List.cons.inj (List.append_cancel_left behind)).2
      exact ⟨rfl, rfl⟩

theorem exists_escaped (text : List Char) :
    ∃ body parts rest, text = body ++ Parts.chars parts ++ rest ∧ Escaped body parts rest := by
  -- Each part that goes on with the literal is shorter than what the literal began with.
  induction length : text.length using Nat.strongRecOn generalizing text with
  | ind _ ih =>
    obtain ⟨body, rest, rfl, quoted⟩ := exists_quoted '\'' true text
    by_cases goesOn : GoesOn rest
    · obtain ⟨gap, more, blank, rfl⟩ := goesOn
      have shorter : more.length < (body ++ (gap ++ '\'' :: more)).length := by
        simp only [List.length_append, List.length_cons]
        omega
      obtain ⟨next, parts, rest, rfl, others⟩ := ih _ (length ▸ shorter) more rfl
      refine ⟨body, (gap, next) :: parts, rest, ?_, .more quoted blank others⟩
      rw [List.append_assoc body, Parts.chars_cons]
    · exact ⟨body, [], rest, by simp [Parts.chars], .last quoted goesOn⟩

/-! ### Kinds of elements -/

theorem continuesWord_of_word {c : Char} {cs : List Char} (first : startsWord c)
    (more : ∀ d ∈ cs, continuesWord d) : ∀ d ∈ c :: cs, continuesWord d :=
  List.forall_mem_cons.2 ⟨by simp [continuesWord, first], more⟩

/-- Letters by their numbers. -/
theorem isAlpha_iff_toNat {c : Char} :
    c.isAlpha ↔
      'A'.toNat ≤ c.toNat ∧ c.toNat ≤ 'Z'.toNat ∨ 'a'.toNat ≤ c.toNat ∧ c.toNat ≤ 'z'.toNat := by
  change (decide ('A' ≤ c ∧ c ≤ 'Z') || decide ('a' ≤ c) && decide (c ≤ 'z')) = true ↔ _
  simp only [Bool.or_eq_true, Bool.and_eq_true, decide_eq_true_eq, Char.le_def,
    UInt32.le_iff_toNat_le, Char.toNat]

/-- A word does not begin with a digit. -/
theorem startsWord_of_isDigit {c : Char} (h : c.isDigit) : startsWord c = false := by
  rw [Char.isDigit_iff_toNat] at h
  have underscore : c ≠ '_' := by
    rintro rfl
    exact absurd h.2 (by decide)
  simp only [Char.reduceToNat] at h
  have letter : ¬ c.isAlpha := by
    simp only [isAlpha_iff_toNat, Char.reduceToNat]
    omega
  have ascii : ¬ 128 ≤ c.toNat := by omega
  simp [startsWord, underscore, letter, ascii]

theorem marksEscapes_of_startsWord {c : Char} (h : startsWord c = false) :
    marksEscapes c = false := by
  rw [Bool.eq_false_iff]
  intro marks
  simp only [marksEscapes, Bool.or_eq_true, beq_iff_eq] at marks
  rcases marks with rfl | rfl <;> cases h

/-- What a number begins with. -/
def startsNumber (c : Char) (after : List Char) : Bool :=
  c.isDigit || (c == '.' && after.head?.any Char.isDigit)

theorem startsWord_of_startsNumber {c : Char} {after : List Char} (h : startsNumber c after) :
    startsWord c = false := by
  simp only [startsNumber, Bool.or_eq_true, Bool.and_eq_true, beq_iff_eq] at h
  rcases h with digit | ⟨rfl, -⟩
  · exact startsWord_of_isDigit digit
  · rfl

theorem Digits.head {digit : Char → Bool} {ds : List Char} (h : Digits digit ds) :
    ∃ d more, ds = d :: more ∧ digit d := by
  cases h with
  | one h => exact ⟨_, _, rfl, h⟩
  | cons h _ => exact ⟨_, _, rfl, h⟩
  | underscore h _ => exact ⟨_, _, rfl, h⟩

theorem Mantissa.head {cs : List Char} (h : Mantissa cs) (rest : List Char) :
    ∃ c more, cs = c :: more ∧ startsNumber c (more ++ rest) := by
  cases h with
  | integer whole =>
    obtain ⟨d, more, rfl, digit⟩ := whole.head
    exact ⟨d, more, rfl, by simp [startsNumber, digit]⟩
  | point whole =>
    obtain ⟨d, more, rfl, digit⟩ := whole.head
    exact ⟨d, more ++ ['.'], rfl, by simp [startsNumber, digit]⟩
  | fraction whole parts =>
    obtain ⟨d, more, rfl, digit⟩ := whole.head
    exact ⟨d, _, rfl, by simp [startsNumber, digit]⟩
  | parts parts =>
    obtain ⟨d, more, rfl, digit⟩ := parts.head
    exact ⟨'.', d :: more, rfl, by simp [startsNumber, digit]⟩

theorem Number.head {cs : List Char} (h : Number cs) (rest : List Char) :
    ∃ c more, cs = c :: more ∧ startsNumber c (more ++ rest) := by
  cases h with
  | plain mantissa => exact mantissa.head rest
  | @exponent cs sign ds e mantissa _ _ _ =>
    obtain ⟨c, more, rfl, starts⟩ := mantissa.head (e :: (sign ++ ds) ++ rest)
    exact ⟨c, _, rfl, by simpa using starts⟩
  | radix _ _ => exact ⟨'0', _, rfl, by simp [startsNumber]⟩
  | radixUnderscore _ _ => exact ⟨'0', _, rfl, by simp [startsNumber]⟩

theorem WordTag.head?_isDigit {tag : List Char} (h : WordTag tag) (rest : List Char) :
    (tag ++ '$' :: rest).head?.any Char.isDigit = false := by
  cases tag with
  | nil => rfl
  | cons c tag =>
    cases digit : c.isDigit with
    | false => simp [digit]
    | true =>
      have word := h.first c rfl
      rw [startsWord_of_isDigit digit] at word
      cases word

/-- The kinds of elements. -/
inductive Kind
  | word
  | number
  | parameter
  | literal
  | escapeLiteral
  | quotedName
  | lineComment
  | blockComment
  | dollarQuoted
  | dots
  | other

def Element.kind : Element → Kind
  | .word _ => .word
  | .number _ => .number
  | .parameter _ => .parameter
  | .literal _ => .literal
  | .escapeLiteral _ _ _ => .escapeLiteral
  | .quotedName _ => .quotedName
  | .lineComment _ _ => .lineComment
  | .blockComment _ => .blockComment
  | .dollarQuoted _ _ => .dollarQuoted
  | .dots => .dots
  | .other _ => .other

open scoped Classical in
/-- The kind of the element that begins with `c`. -/
noncomputable def kindAt (c : Char) (after : List Char) : Kind :=
  if marksEscapes c ∧ after.head? = some '\'' then .escapeLiteral
  else if startsWord c then .word
  else if startsNumber c after then .number
  else if c = '.' ∧ after.head? = some '.' then .dots
  else if c = '\'' then .literal
  else if c = '"' then .quotedName
  else if c = '-' ∧ after.head? = some '-' then .lineComment
  else if c = '/' ∧ after.head? = some '*' then .blockComment
  else if c = '$' ∧ after.head?.any Char.isDigit then .parameter
  else if c = '$' ∧ OpensDollarQuote after then .dollarQuoted
  else .other

/-- The kind of an element can be told from how the text begins. -/
theorem Element.At.kind_eq {e : Element} {rest : List Char} (h : e.At rest) :
    ∃ c after, e.chars ++ rest = c :: after ∧ kindAt c after = e.kind := by
  cases h with
  | @word c cs rest first more longest plain =>
    refine ⟨c, cs ++ rest, rfl, ?_⟩
    have word : ¬ (marksEscapes c ∧ (cs ++ rest).head? = some '\'') := by
      rintro ⟨marks, quote⟩
      cases cs with
      | nil => exact plain marks rfl quote
      | cons d cs =>
        cases quote
        cases more '\'' List.mem_cons_self
    rw [kindAt, if_neg word, if_pos first, kind]
  | @number cs rest longest =>
    obtain ⟨c, more, rfl, starts⟩ := longest.1.1.head rest
    refine ⟨c, more ++ rest, rfl, ?_⟩
    have word := startsWord_of_startsNumber starts
    simp [kindAt, word, marksEscapes_of_startsWord word, starts, kind]
  | @parameter n rest longest =>
    refine ⟨'$', n.digits ++ rest, rfl, ?_⟩
    obtain ⟨d, ds, digits⟩ := List.exists_cons_of_ne_nil n.nonempty
    have digit : d.isDigit := n.isDigit d (digits ▸ List.mem_cons_self)
    rw [digits]
    simp [kindAt, kind, startsNumber, marksEscapes, startsWord, digit]
  | @literal body rest quoted =>
    refine ⟨'\'', body ++ rest, rfl, ?_⟩
    simp [kindAt, kind, startsNumber, marksEscapes, startsWord]
  | @escapeLiteral mark body rest parts marks escaped =>
    refine ⟨mark, '\'' :: (body ++ parts.chars ++ rest), rfl, ?_⟩
    simp [kindAt, kind, marks]
  | @quotedName body rest quoted =>
    refine ⟨'"', body ++ rest, rfl, ?_⟩
    simp [kindAt, kind, startsNumber, marksEscapes, startsWord]
  | @lineComment body ending rest inside ends =>
    refine ⟨'-', '-' :: (body ++ ending ++ rest), rfl, ?_⟩
    simp [kindAt, kind, startsNumber, marksEscapes, startsWord]
  | @blockComment body rest commented =>
    refine ⟨'/', '*' :: (body ++ rest), rfl, ?_⟩
    simp [kindAt, kind, startsNumber, marksEscapes, startsWord]
  | @dollarQuoted tag body rest isTag through =>
    refine ⟨'$', tag ++ '$' :: (body ++ rest), by simp [chars, dollarMark], ?_⟩
    have opens : OpensDollarQuote (tag ++ '$' :: (body ++ rest)) := ⟨tag, _, isTag, rfl⟩
    have digit := isTag.head?_isDigit (body ++ rest)
    generalize tag ++ '$' :: (body ++ rest) = after at opens digit ⊢
    simp [kindAt, kind, startsNumber, marksEscapes, startsWord, opens, digit]
  | dots rest =>
    refine ⟨'.', '.' :: rest, rfl, ?_⟩
    simp [kindAt, kind, startsNumber, marksEscapes, startsWord]
  | @other c rest word digit quote name line block point dollar =>
    refine ⟨c, rest, rfl, ?_⟩
    have number : startsNumber c rest = false := by
      simpa [startsNumber, digit] using fun dot => (point dot).1
    have dots : ¬ (c = '.' ∧ rest.head? = some '.') := fun h => (point h.1).2 h.2
    have parameter : ¬ (c = '$' ∧ rest.head?.any Char.isDigit) := fun h => by
      rw [(dollar h.1).1] at h
      cases h.2
    have dollarQuote : ¬ (c = '$' ∧ OpensDollarQuote rest) := fun h => (dollar h.1).2 h.2
    simp only [kindAt, marksEscapes_of_startsWord word, word, number, dots, quote, name,
      not_and.2 line, not_and.2 block, parameter, dollarQuote, kind]
    simp

/-- A line goes on up to the first newline. -/
theorem LineEnd.head? {ending rest : List Char} (h : LineEnd ending rest) :
    (ending ++ rest).head?.any (fun c => !isNewline c) = false := by
  cases h <;> rfl

theorem LineEnd.ends {ending rest : List Char} (h : LineEnd ending rest) :
    rest = [] ∨ ∃ c, ending.getLast? = some c ∧ isNewline c := by
  cases h with
  | text => exact .inl rfl
  | newline _ => exact .inr ⟨_, rfl, rfl⟩
  | both _ => exact .inr ⟨_, rfl, rfl⟩
  | carriageReturn _ => exact .inr ⟨_, rfl, rfl⟩

theorem LineEnd.unique {ending rest ending' rest' : List Char} (h : LineEnd ending rest)
    (h' : LineEnd ending' rest') (same : ending ++ rest = ending' ++ rest') : ending = ending' := by
  cases h <;> cases h' <;> grind

namespace Element

/-- No two elements stand at the beginning of one text. -/
theorem At.unique {e e' : Element} {rest rest' : List Char} (h : e.At rest) (h' : e'.At rest')
    (same : e.chars ++ rest = e'.chars ++ rest') : e = e' := by
  obtain ⟨c, after, text, kind⟩ := h.kind_eq
  obtain ⟨c', after', text', kind'⟩ := h'.kind_eq
  have kinds : e.kind = e'.kind := by
    rw [← kind, ← kind']
    rw [text, text', List.cons.injEq] at same
    rw [same.1, same.2]
  -- Elements of two kinds need no comparison any more. Those of one kind are as long as they can
  -- be, or they end where the text first closes them.
  cases h with
  | @word c cs rest first more longest _ =>
    cases h' with
    | @word c' cs' rest' first' more' longest' _ =>
      obtain ⟨cs, -⟩ := run_unique (continuesWord_of_word first more) longest
        (continuesWord_of_word first' more') longest' same
      rw [cs]
    | _ => cases kinds
  | number longest =>
    cases h' with
    | number longest' => rw [longest.unique longest' same]
    | _ => cases kinds
  | @parameter n rest longest =>
    cases h' with
    | @parameter n' rest' longest' =>
      obtain ⟨digits, -⟩ := run_unique n.isDigit longest n'.isDigit longest' (List.cons.inj same).2
      cases n
      cases n'
      cases digits
      rfl
    | _ => cases kinds
  | literal quoted =>
    cases h' with
    | literal quoted' =>
      rw [((measures_quoted _ (by decide) false).unique quoted quoted' (List.cons.inj same).2).1]
    | _ => cases kinds
  | @escapeLiteral mark body rest parts _ escaped =>
    cases h' with
    | @escapeLiteral mark' body' rest' parts' _ escaped' =>
      obtain ⟨rfl, bodies⟩ := List.cons.inj same
      obtain ⟨rfl, rfl⟩ := escaped.unique escaped' (List.cons.inj bodies).2
      rfl
    | _ => cases kinds
  | quotedName quoted =>
    cases h' with
    | quotedName quoted' =>
      rw [((measures_quoted _ (by decide) false).unique quoted quoted' (List.cons.inj same).2).1]
    | _ => cases kinds
  | @lineComment body ending rest inside ends =>
    cases h' with
    | @lineComment body' ending' rest' inside' ends' =>
      have lines : body ++ (ending ++ rest) = body' ++ (ending' ++ rest') := by
        rw [← List.append_assoc, ← List.append_assoc]
        exact (List.cons.inj (List.cons.inj same).2).2
      obtain ⟨rfl, behind⟩ := run_unique (p := fun c => !isNewline c) (by simpa using inside)
        ends.head? (by simpa using inside') ends'.head? lines
      rw [ends.unique ends' behind]
    | _ => cases kinds
  | blockComment commented =>
    cases h' with
    | blockComment commented' =>
      have bodies := (List.cons.inj (List.cons.inj same).2).2
      rw [((measures_commented 0).unique commented commented' bodies).1]
    | _ => cases kinds
  | @dollarQuoted tag body rest isTag through =>
    cases h' with
    | @dollarQuoted tag' body' rest' isTag' through' =>
      have tags : tag ++ '$' :: (body ++ rest) = tag' ++ '$' :: (body' ++ rest') := by
        simpa [chars, dollarMark] using same
      obtain ⟨rfl, behind⟩ := run_unique (p := (· != '$'))
        (fun c hc => by simpa using (isTag.chars c hc).2) rfl
        (fun c hc => by simpa using (isTag'.chars c hc).2) rfl tags
      have measures := measures_through _ (dollarMark_ne_nil tag)
      obtain ⟨rfl, -⟩ := measures.unique through through' (List.cons.inj behind).2
      rfl
    | _ => cases kinds
  | dots _ =>
    cases h' with
    | dots _ => rfl
    | _ => cases kinds
  | other =>
    cases h' with
    | other => rw [(List.cons.inj same).1]
    | _ => cases kinds

theorem exists_lineEnd {text : List Char} (h : text.head?.any (fun c => !isNewline c) = false) :
    ∃ ending rest, text = ending ++ rest ∧ LineEnd ending rest := by
  cases text with
  | nil => exact ⟨[], [], rfl, .text⟩
  | cons c rest =>
    simp only [List.head?_cons, Option.any_some, isNewline, Bool.not_eq_false', Bool.or_eq_true,
      beq_iff_eq] at h
    rcases h with rfl | rfl
    · exact ⟨['\n'], rest, rfl, .newline rest⟩
    · by_cases both : rest.head? = some '\n'
      · obtain ⟨more, rfl⟩ := List.head?_eq_some_iff.1 both
        exact ⟨['\r', '\n'], more, rfl, .both more⟩
      · exact ⟨['\r'], rest, rfl, .carriageReturn both⟩

/-- A text that begins like a number begins with one. -/
theorem numberAt_of_startsNumber {c : Char} {after : List Char} (h : startsNumber c after) :
    ∃ cs rest, c :: after = cs ++ rest ∧ NumberAt cs rest := by
  simp only [startsNumber, Bool.or_eq_true, Bool.and_eq_true, beq_iff_eq] at h
  rcases h with digit | ⟨rfl, digit⟩
  · refine ⟨[c], after, rfl, .plain (.integer (.one digit)), fun dot => ?_⟩
    cases dot
    cases digit
  · cases after with
    | nil => cases digit
    | cons d rest =>
      refine ⟨['.', d], rest, rfl, .plain (.parts (.one digit)), fun dot => ?_⟩
      cases dot
      cases digit

/-- An element stands at the beginning of every text. -/
theorem exists_at (c : Char) (after : List Char) :
    ∃ (e : Element) (rest : List Char), c :: after = e.chars ++ rest ∧ e.At rest := by
  -- The questions are those of `kindAt`, in its order: what is asked later may take it that all
  -- that was asked before has been denied.
  by_cases escapes : marksEscapes c ∧ after.head? = some '\''
  · obtain ⟨marks, quote⟩ := escapes
    obtain ⟨text, rfl⟩ := List.head?_eq_some_iff.1 quote
    obtain ⟨body, parts, rest, rfl, escaped⟩ := exists_escaped text
    exact ⟨.escapeLiteral c body parts, rest, rfl, .escapeLiteral marks escaped⟩
  by_cases word : startsWord c
  · obtain ⟨cs, rest, rfl, more, longest⟩ := exists_run continuesWord after
    refine ⟨.word (c :: cs), rest, rfl, .word word more longest fun marks none quote => ?_⟩
    subst none
    exact escapes ⟨marks, quote⟩
  by_cases number : startsNumber c after
  · obtain ⟨cs, rest, split, numberAt⟩ := numberAt_of_startsNumber number
    obtain ⟨cs', rest', split', longest⟩ := exists_longest numberAt
    exact ⟨.number cs', rest', split.trans split', .number longest⟩
  by_cases dots : c = '.' ∧ after.head? = some '.'
  · obtain ⟨rfl, dot⟩ := dots
    obtain ⟨rest, rfl⟩ := List.head?_eq_some_iff.1 dot
    exact ⟨.dots, rest, rfl, .dots rest⟩
  by_cases quote : c = '\''
  · obtain ⟨body, rest, rfl, quoted⟩ := exists_quoted '\'' false after
    exact ⟨.literal body, rest, by rw [quote]; rfl, .literal quoted⟩
  by_cases name : c = '"'
  · obtain ⟨body, rest, rfl, quoted⟩ := exists_quoted '"' false after
    exact ⟨.quotedName body, rest, by rw [name]; rfl, .quotedName quoted⟩
  by_cases line : c = '-' ∧ after.head? = some '-'
  · obtain ⟨rfl, dash⟩ := line
    obtain ⟨text, rfl⟩ := List.head?_eq_some_iff.1 dash
    obtain ⟨body, behind, rfl, inside, newline⟩ := exists_run (fun c => !isNewline c) text
    obtain ⟨ending, rest, rfl, ends⟩ := exists_lineEnd newline
    refine ⟨.lineComment body ending, rest, ?_, .lineComment (by simpa using inside) ends⟩
    simp [chars]
  by_cases block : c = '/' ∧ after.head? = some '*'
  · obtain ⟨rfl, star⟩ := block
    obtain ⟨text, rfl⟩ := List.head?_eq_some_iff.1 star
    obtain ⟨body, rest, rfl, commented⟩ := exists_commented 0 text
    exact ⟨.blockComment body, rest, rfl, .blockComment commented⟩
  by_cases parameter : c = '$' ∧ after.head?.any Char.isDigit
  · obtain ⟨rfl, digit⟩ := parameter
    have digits : after.takeWhile Char.isDigit ≠ [] := by
      cases after with
      | nil => cases digit
      | cons d after => simpa [List.takeWhile_cons] using digit
    obtain ⟨n, rest, -, rfl, ends⟩ := exists_numeral digits
    exact ⟨.parameter n, rest, rfl, .parameter ends⟩
  by_cases dollarQuote : c = '$' ∧ OpensDollarQuote after
  · obtain ⟨rfl, tag, text, isTag, rfl⟩ := dollarQuote
    obtain ⟨body, rest, rfl, through⟩ := exists_through (dollarMark tag) text
    refine ⟨.dollarQuoted tag body, rest, ?_, .dollarQuoted isTag through⟩
    simp [chars, dollarMark]
  · refine ⟨.other c, after, rfl, .other (Bool.eq_false_iff.2 word) ?_ quote name (fun h => ?_)
      (fun h => ?_) (fun h => ⟨?_, ?_⟩) fun h => ⟨?_, ?_⟩⟩
    · simp only [startsNumber, Bool.or_eq_true, not_or] at number
      exact Bool.eq_false_iff.2 number.1
    · exact fun dash => line ⟨h, dash⟩
    · exact fun star => block ⟨h, star⟩
    · simp only [startsNumber, h, Bool.or_eq_true, not_or] at number
      simpa using number.2
    · exact fun dot => dots ⟨h, dot⟩
    · exact Bool.eq_false_iff.2 fun digit => parameter ⟨h, digit⟩
    · exact fun opens => dollarQuote ⟨h, opens⟩

/-- No element is empty, so every element brings the reader further. -/
theorem chars_ne_nil {e : Element} {rest : List Char} (h : e.At rest) : e.chars ≠ [] := by
  cases h with
  | number longest =>
    obtain ⟨c, more, rfl, -⟩ := longest.1.1.head []
    exact nofun
  | _ => exact nofun

end Element

/-- Every text is a sequence of elements. -/
theorem exists_lexes (text : List Char) : ∃ es, Lexes text es := by
  induction length : text.length using Nat.strongRecOn generalizing text with
  | ind _ ih =>
    cases text with
    | nil => exact ⟨[], .nil⟩
    | cons c after =>
      obtain ⟨e, rest, split, first⟩ := Element.exists_at c after
      have shorter : rest.length < (c :: after).length := by
        have := List.length_pos_of_ne_nil (Element.chars_ne_nil first)
        rw [split, List.length_append]
        omega
      obtain ⟨es, more⟩ := ih _ (length ▸ shorter) rest rfl
      exact ⟨e :: es, split ▸ .cons first more⟩

/-- A text is a sequence of elements in one way. -/
theorem Lexes.unique {text : List Char} {es es' : List Element} (h : Lexes text es)
    (h' : Lexes text es') : es = es' := by
  induction h generalizing es' with
  | nil =>
    generalize none : ([] : List Char) = text at h'
    cases h' with
    | nil => rfl
    | cons first _ =>
      exact absurd (List.append_eq_nil_iff.1 none.symm).1 (Element.chars_ne_nil first)
  | @cons e rest es first _ ih =>
    generalize same : e.chars ++ rest = text at h'
    cases h' with
    | nil => exact absurd (List.append_eq_nil_iff.1 same).1 (Element.chars_ne_nil first)
    | cons first' more' =>
      obtain rfl := first.unique first' same
      rw [List.append_cancel_left_eq] at same
      subst same
      rw [ih more']

end SqlBuilder.Sql
