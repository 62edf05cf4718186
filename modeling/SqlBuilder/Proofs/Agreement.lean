import Mathlib.Data.List.Chain
import SqlBuilder.Proofs.Neat
import SqlBuilder.Proofs.Sql.Respelling
import SqlBuilder.Proofs.Sql.Lexing

/-!
# The scanner and the lexical structure of SQL

Where the lexical elements of a text are plain the scanner takes the text apart as SQL does: the
parameters are its placeholders, and all the rest is text (`Lexes.scan_eq`). Plain means that the
scanner knows the element, and that it can tell where the element begins: it looks at single
characters, so what stands directly behind a digit or a dollar sign seems to go on with a word.
-/

namespace SqlBuilder

namespace Sql

/-! ### Plain elements -/

namespace Element

/-- The characters of the element with their roles: those of a parameter are a placeholder. -/
def marks : Element → List (Char × Role)
  | .parameter n => ('$', .placeholder n.digits) :: n.digits.map (·, .digit)
  | e => e.chars.map (·, .text)

/-- The scanner knows the element: a literal with escapes has one part, a line comment does not end
with a carriage return alone, and tags are ASCII. -/
def Plain : Element → Prop
  | .escapeLiteral _ _ parts => parts = []
  | .lineComment _ ending => ending ≠ ['\r']
  | .dollarQuoted tag _ => ∀ c ∈ tag, c.toNat < 128
  | _ => True

/-- The scanner does not find the element where a word may go on. -/
def needsSpace : Element → Bool
  | .parameter _ | .dollarQuoted _ _ | .escapeLiteral _ _ _ => true
  | _ => false

/-- The elements may be neighbours. -/
def Apart (e next : Element) : Prop :=
  next.needsSpace → e.chars.getLast?.any continuesIdent = false

end Element

/-- Elements that the scanner finds. -/
structure Plain (es : List Element) : Prop where
  elements : ∀ e ∈ es, e.Plain
  apart : es.IsChain Element.Apart

/-! ### What the scanner makes of stretches of text -/

theorem continuesWord_eq (c : Char) : continuesWord c = continuesIdent c := by
  simp only [continuesWord, startsWord, continuesIdent, Char.isAlphanum]
  cases c == '_' <;> cases c == '$' <;> cases c.isAlpha <;> cases c.isDigit <;>
    cases decide (128 ≤ c.toNat) <;> rfl

/-- Words have neither quotation marks nor the beginnings of comments in them. -/
theorem isInert_of_continuesIdent {c : Char} (h : continuesIdent c) (dollar : c ≠ '$') :
    isInert c := by
  have other (d : Char) (stops : continuesIdent d = false) : c ≠ d := by
    rintro rfl
    rw [stops] at h
    cases h
  simp [isInert, dollar, other '\'' rfl, other '"' rfl, other '-' rfl, other '/' rfl]

variable {before rest : List Char}

/-- Text at which no region opens. -/
theorem scan_text {c : Char} {after : List Char}
    (opened : opening before c after = (.text, .code)) :
    scan before .code (c :: after) = (c, .text) :: scan (c :: before) .code after := by
  rw [scan_cons]
  exact congrArg (fun o : Role × Inside => (c, o.1) :: scan (c :: before) o.2 after) opened

theorem scan_region_zero (before text : List Char) :
    scan before (.region 0) text = scan before .code text := by
  cases text <;> rfl

/-- A region that opens at a character. -/
theorem scan_opened {c : Char} (body : List Char)
    (opened : opening before c (body ++ rest) = (.text, .region body.length)) :
    scan before .code (c :: (body ++ rest)) =
      (c :: body).map (·, .text) ++ scan ((c :: body).reverse ++ before) .code rest := by
  have step : step before .code c (body ++ rest) = (.text, .region body.length) := opened
  rw [scan_cons, step, scan_region, scan_region_zero]
  simp

/-- Characters that are text wherever they stand. -/
def Textual (cs : List Char) : Prop :=
  ∀ before rest, scan before .code (cs ++ rest) =
    cs.map (·, .text) ++ scan (cs.reverse ++ before) .code rest

theorem Textual.append {cs ds : List Char} (hcs : Textual cs) (hds : Textual ds) :
    Textual (cs ++ ds) := by
  intro before rest
  rw [List.append_assoc, hcs, hds]
  simp

theorem textual_inert {cs : List Char} (inert : ∀ c ∈ cs, isInert c) : Textual cs := by
  induction cs with
  | nil => exact fun _ _ => rfl
  | cons c cs ih =>
    obtain ⟨first, others⟩ := List.forall_mem_cons.1 inert
    intro before rest
    rw [List.cons_append, scan_text (opening_inert first _ _), ih others]
    simp

/-- A dollar sign inside of a word is text. -/
theorem scan_word {cs : List Char} (word : ∀ c ∈ cs, continuesIdent c)
    (ident : before.head?.any continuesIdent) :
    scan before .code (cs ++ rest) =
      cs.map (·, .text) ++ scan (cs.reverse ++ before) .code rest := by
  induction cs generalizing before with
  | nil => rfl
  | cons c cs ih =>
    obtain ⟨first, others⟩ := List.forall_mem_cons.1 word
    have opened : opening before c (cs ++ rest) = (.text, .code) := by
      by_cases dollar : c = '$'
      · exact dollar ▸ (OpensAt.ident ident).eq
      · exact opening_inert (isInert_of_continuesIdent first dollar) _ _
    rw [List.cons_append, scan_text opened, ih others (by simpa using first)]
    simp

/-! ### Numbers -/

theorem continuesIdent_of_continuesTag {c : Char} (h : continuesTag c) : continuesIdent c := by
  simp only [continuesTag, Bool.or_eq_true] at h
  simp only [continuesIdent, Bool.or_eq_true]
  tauto

theorem isInert_of_continuesTag {c : Char} (h : continuesTag c) : isInert c := by
  refine isInert_of_continuesIdent (continuesIdent_of_continuesTag h) ?_
  rintro rfl
  cases h

theorem continuesTag_of_isDigit {c : Char} (h : c.isDigit) : continuesTag c := by
  simp [continuesTag, Char.isAlphanum, h]

theorem continuesTag_of_isHexDigit {c : Char} (h : isHexDigit c) : continuesTag c := by
  simp only [isHexDigit, Char.isDigit_iff_toNat, Char.le_def, UInt32.le_iff_toNat_le,
    Bool.or_eq_true, Bool.and_eq_true, decide_eq_true_eq] at h
  simp only [continuesTag, Char.isAlphanum, isAlpha_iff_toNat, Bool.or_eq_true]
  rcases h with (digit | small) | capital
  · exact .inr (.inr (Char.isDigit_iff_toNat.2 digit))
  · exact .inr (.inl (.inr ⟨small.1, Nat.le_trans small.2 (by decide)⟩))
  · exact .inr (.inl (.inl ⟨capital.1, Nat.le_trans capital.2 (by decide)⟩))

theorem isDigit_of_isOctalDigit {c : Char} (h : isOctalDigit c) : c.isDigit := by
  simp only [isOctalDigit, Char.le_def, Bool.and_eq_true, decide_eq_true_eq,
    UInt32.le_iff_toNat_le] at h
  exact Char.isDigit_iff_toNat.2 ⟨h.1, Nat.le_trans h.2 (by decide)⟩

theorem isDigit_of_isBinaryDigit {c : Char} (h : isBinaryDigit c) : c.isDigit := by
  simp only [isBinaryDigit, Bool.or_eq_true, beq_iff_eq] at h
  rcases h with rfl | rfl <;> rfl

/-- The digits of every number system are letters and digits. -/
theorem continuesTag_of_radix {r : Char} {digit : Char → Bool} (letter : radix? r = some digit) :
    continuesTag r ∧ ∀ d, digit d → continuesTag d := by
  unfold radix? at letter
  split at letter <;> cases letter
  · exact ⟨rfl, fun _ => continuesTag_of_isHexDigit⟩
  · exact ⟨rfl, fun _ => continuesTag_of_isHexDigit⟩
  · exact ⟨rfl, fun _ h => continuesTag_of_isDigit (isDigit_of_isOctalDigit h)⟩
  · exact ⟨rfl, fun _ h => continuesTag_of_isDigit (isDigit_of_isOctalDigit h)⟩
  · exact ⟨rfl, fun _ h => continuesTag_of_isDigit (isDigit_of_isBinaryDigit h)⟩
  · exact ⟨rfl, fun _ h => continuesTag_of_isDigit (isDigit_of_isBinaryDigit h)⟩

theorem Digits.chars {digit : Char → Bool} {ds : List Char} (h : Digits digit ds)
    (alphanum : ∀ d, digit d → continuesTag d) : ∀ d ∈ ds, continuesTag d := by
  induction h with
  | one h => simpa using alphanum _ h
  | cons h _ ih => exact List.forall_mem_cons.2 ⟨alphanum _ h, ih⟩
  | underscore h _ ih =>
    exact List.forall_mem_cons.2 ⟨alphanum _ h, List.forall_mem_cons.2 ⟨rfl, ih⟩⟩

theorem Digits.getLast? {digit : Char → Bool} {ds : List Char} (h : Digits digit ds) :
    ∃ d, ds.getLast? = some d ∧ digit d := by
  induction h with
  | one h => exact ⟨_, rfl, h⟩
  | cons _ more ih =>
    obtain ⟨d, last, digit⟩ := ih
    exact ⟨d, by simp [List.getLast?_cons, last], digit⟩
  | underscore _ more ih =>
    obtain ⟨d, last, digit⟩ := ih
    exact ⟨d, by simp [List.getLast?_cons, last], digit⟩

theorem Mantissa.inert {cs : List Char} (h : Mantissa cs) : ∀ c ∈ cs, isInert c := by
  have digits {ds : List Char} (h : Digits Char.isDigit ds) : ∀ d ∈ ds, isInert d :=
    fun d hd => isInert_of_continuesTag (h.chars (fun _ => continuesTag_of_isDigit) d hd)
  cases h with
  | integer whole => exact digits whole
  | point whole =>
    exact List.forall_mem_append.2 ⟨digits whole, by simp [isInert]⟩
  | fraction whole parts =>
    exact List.forall_mem_append.2 ⟨digits whole, List.forall_mem_cons.2 ⟨rfl, digits parts⟩⟩
  | parts parts => exact List.forall_mem_cons.2 ⟨rfl, digits parts⟩

theorem Mantissa.getLast? {cs : List Char} (h : Mantissa cs) :
    ∃ c, cs.getLast? = some c ∧ (c.isDigit ∨ c = '.') := by
  cases h with
  | integer whole =>
    obtain ⟨d, last, digit⟩ := whole.getLast?
    exact ⟨d, last, .inl digit⟩
  | point whole => exact ⟨'.', by simp, .inr rfl⟩
  | fraction whole parts =>
    obtain ⟨d, last, digit⟩ := parts.getLast?
    exact ⟨d, by simp [List.getLast?_cons, last], .inl digit⟩
  | parts parts =>
    obtain ⟨d, last, digit⟩ := parts.getLast?
    exact ⟨d, by simp [List.getLast?_cons, last], .inl digit⟩

/-- The sign of an exponent begins no comment, since a digit comes behind it. -/
theorem textual_signed {sign ds : List Char} (signed : sign ∈ [[], ['+'], ['-']])
    (digits : Digits Char.isDigit ds) : Textual (sign ++ ds) := by
  have textual : Textual ds := textual_inert fun d hd =>
    isInert_of_continuesTag (digits.chars (fun _ => continuesTag_of_isDigit) d hd)
  simp only [List.mem_cons, List.not_mem_nil, or_false] at signed
  rcases signed with rfl | rfl | rfl
  · exact textual
  · exact .append (textual_inert (by simp [isInert])) textual
  · intro before rest
    obtain ⟨d, more, rfl, digit⟩ := digits.head
    have dash : d ≠ '-' := by
      rintro rfl
      cases digit
    have opened : opening before '-' (d :: more ++ rest) = (.text, .code) := by
      simp [opening, dash]
    rw [List.singleton_append, List.cons_append, scan_text opened, textual]
    simp

/-- Numbers of the other systems are like words. -/
theorem radix_chars {r : Char} {digit : Char → Bool} {ds : List Char}
    (letter : radix? r = some digit) (digits : Digits digit ds) :
    (∀ c ∈ '0' :: r :: ds, continuesTag c) ∧ ∀ c ∈ '0' :: r :: '_' :: ds, continuesTag c := by
  obtain ⟨first, alphanum⟩ := continuesTag_of_radix letter
  have chars := digits.chars alphanum
  simp only [List.forall_mem_cons]
  exact ⟨⟨rfl, first, chars⟩, rfl, first, rfl, chars⟩

/-- No region opens in a number. -/
theorem Number.textual {cs : List Char} (h : Number cs) : Textual cs := by
  cases h with
  | plain mantissa => exact textual_inert mantissa.inert
  | @exponent cs sign ds e mantissa mark signed digits =>
    have inert : isInert e := by
      simp only [marksEscapes, Bool.or_eq_true, beq_iff_eq] at mark
      rcases mark with rfl | rfl <;> rfl
    have exponent : Textual ([e] ++ (sign ++ ds)) :=
      .append (textual_inert (by simpa using inert)) (textual_signed signed digits)
    exact .append (textual_inert mantissa.inert) exponent
  | radix letter digits =>
    exact textual_inert fun c hc => isInert_of_continuesTag ((radix_chars letter digits).1 c hc)
  | radixUnderscore letter digits =>
    exact textual_inert fun c hc => isInert_of_continuesTag ((radix_chars letter digits).2 c hc)

/-! ### What opens a literal with escapes -/

theorem opensEscapes_of_getLast? {cs : List Char} {c : Char} (last : cs.getLast? = some c)
    (letter : marksEscapes c = false) (before : List Char) :
    opensEscapes (cs.reverse ++ before) = false := by
  rw [← List.head?_reverse] at last
  obtain ⟨more, reversed⟩ := List.head?_eq_some_iff.1 last
  rw [reversed, List.cons_append, opensEscapes_cons]
  exact (congrArg (· && _) letter).trans (Bool.false_and _)

/-- A letter with a word in front of it is no mark. -/
theorem opensEscapes_of_word {c : Char} {cs : List Char} (word : ∀ d ∈ c :: cs, continuesIdent d)
    (long : cs ≠ []) (before : List Char) :
    opensEscapes ((c :: cs).reverse ++ before) = false := by
  obtain ⟨d, ds, reversed⟩ := List.exists_cons_of_ne_nil (List.reverse_ne_nil_iff.2 long)
  have ident : ((ds ++ [c]) ++ before).head?.any continuesIdent := by
    cases ds with
    | nil => simpa using word c List.mem_cons_self
    | cons d' ds =>
      refine word d' (List.mem_cons_of_mem c ?_)
      rw [← List.mem_reverse, reversed]
      simp
  rw [List.reverse_cons, reversed, List.cons_append, List.cons_append, opensEscapes_cons, ident]
  simp

theorem marksEscapes_of_isDigit {c : Char} (h : c.isDigit) : marksEscapes c = false :=
  marksEscapes_of_startsWord (startsWord_of_isDigit h)

theorem Number.opensEscapes {cs : List Char} (h : Number cs) (before : List Char) :
    opensEscapes (cs.reverse ++ before) = false := by
  cases h with
  | plain mantissa =>
    obtain ⟨c, last, digit | rfl⟩ := mantissa.getLast?
    · exact opensEscapes_of_getLast? last (marksEscapes_of_isDigit digit) before
    · exact opensEscapes_of_getLast? last rfl before
  | @exponent cs sign ds e mantissa _ _ digits =>
    obtain ⟨d, last, digit⟩ := digits.getLast?
    refine opensEscapes_of_getLast? (c := d) ?_ (marksEscapes_of_isDigit digit) before
    simp [List.getLast?_cons, last]
  | radix letter digits =>
    exact opensEscapes_of_word
      (fun c hc => continuesIdent_of_continuesTag ((radix_chars letter digits).1 c hc)) nofun before
  | radixUnderscore letter digits =>
    exact opensEscapes_of_word
      (fun c hc => continuesIdent_of_continuesTag ((radix_chars letter digits).2 c hc)) nofun before

/-- Up to its end a line comment is a line, unless a carriage return alone ends it. -/
theorem LineEnd.line {body ending : List Char} (h : LineEnd ending rest)
    (alone : ending ≠ ['\r']) (inside : ∀ c ∈ body, isNewline c = false) :
    Line (body ++ ending) rest := by
  induction body with
  | nil =>
    cases h with
    | text => exact .unclosed
    | newline rest => exact .close rest
    | both rest => exact .char '\r' (by decide) (.close rest)
    | carriageReturn _ => exact absurd rfl alone
  | cons c body ih =>
    obtain ⟨first, others⟩ := List.forall_mem_cons.1 inside
    refine .char c ?_ (ih others)
    rintro rfl
    cases first

/-- An ASCII tag is one for the scanner. -/
theorem WordTag.dollarTag {tag : List Char} (h : WordTag tag) (ascii : ∀ c ∈ tag, c.toNat < 128) :
    DollarTag tag := by
  have begins {c : Char} (hc : c ∈ tag) (word : startsWord c) : c = '_' ∨ c.isAlpha := by
    simpa [startsWord, Nat.not_le.2 (ascii c hc)] using word
  refine ⟨fun c hc => ?_, fun c hc => begins (List.mem_of_mem_head? hc) (h.first c hc)⟩
  obtain ⟨word, dollar⟩ := h.chars c hc
  simp only [continuesWord, Bool.or_eq_true, beq_iff_eq, dollar, or_false] at word
  rcases word with word | digit
  · rcases begins hc word with rfl | letter
    · rfl
    · simp [continuesTag, Char.isAlphanum, letter]
  · exact continuesTag_of_isDigit digit

theorem DollarTag.wordTag {tag : List Char} (h : DollarTag tag) : WordTag tag := by
  refine ⟨fun c hc => ⟨?_, ?_⟩, fun c hc => ?_⟩
  · rw [continuesWord_eq]
    exact continuesIdent_of_continuesTag (h.chars c hc)
  · rintro rfl
    exact h.dollar_notMem hc
  · rcases h.first c hc with rfl | letter
    · rfl
    · simp [startsWord, letter]

/-- Where no dollar quote opens the scanner sees none. -/
theorem dollarQuotedLength?_eq_none {after : List Char} (h : ¬ OpensDollarQuote after) :
    dollarQuotedLength? after = none := by
  rw [dollarQuotedLength?, Option.map_eq_none_iff, Option.eq_none_iff_forall_ne_some]
  intro tag found
  obtain ⟨isTag, rest, split⟩ := dollarTag?_eq_some_iff.1 found
  exact h ⟨tag, rest, isTag.wordTag, split⟩

/-! ### Element by element -/

/-- A literal behind its mark. -/
theorem scan_escapeLiteral {mark : Char} {body : List Char} (marked : marksEscapes mark)
    (free : before.head?.any continuesIdent = false) (quoted : Quoted '\'' true body rest) :
    scan before .code (mark :: '\'' :: (body ++ rest)) = (mark :: '\'' :: body).map (·, .text) ++
      scan ((mark :: '\'' :: body).reverse ++ before) .code rest := by
  have inert : isInert mark := by
    simp only [marksEscapes, Bool.or_eq_true, beq_iff_eq] at marked
    rcases marked with rfl | rfl <;> rfl
  have escapes : opensEscapes (mark :: before) := by
    rw [opensEscapes_cons, free]
    exact (Bool.and_true _).trans marked
  have length := (measures_quoted '\'' (by decide) true).length quoted
  have opened : opening (mark :: before) '\'' (body ++ rest) = (.text, .region body.length) := by
    rw [(OpensAt.literal _).eq, escapes, length]
  rw [scan_text (opening_inert inert _ _), scan_opened body opened]
  simp

/-- A dollar quote whose tag the scanner knows. -/
theorem scan_dollarQuote {tag body : List Char} (isTag : DollarTag tag)
    (free : before.head?.any continuesIdent = false)
    (through : Through (dollarMark tag) body rest) :
    scan before .code (dollarMark tag ++ body ++ rest) =
      (dollarMark tag ++ body).map (·, .text) ++
        scan ((dollarMark tag ++ body).reverse ++ before) .code rest := by
  have digits : (tag ++ '$' :: (body ++ rest)).takeWhile Char.isDigit = [] :=
    takeWhile_run (List.forall_mem_nil _) (isTag.wordTag.head?_isDigit (body ++ rest))
  have length := (measures_through _ (dollarMark_ne_nil tag)).length through
  have size : (tag ++ '$' :: body).length = tag.length + 1 + body.length := by
    simp only [List.length_append, List.length_cons]
    omega
  have opened : opening before '$' (tag ++ '$' :: (body ++ rest)) =
      (.text, .region (tag ++ '$' :: body).length) := by
    rw [(OpensAt.dollar free digits).eq, isTag.quotedLength, length, size]
    rfl
  have text : tag ++ '$' :: (body ++ rest) = (tag ++ '$' :: body) ++ rest := by simp
  rw [text] at opened
  simpa [dollarMark] using scan_opened _ opened

/-- A dollar sign that stands for itself. -/
theorem scan_dollar {after : List Char} (digit : after.head?.any Char.isDigit = false)
    (quote : ¬ OpensDollarQuote after) :
    scan before .code ('$' :: after) = ('$', .text) :: scan ('$' :: before) .code after := by
  have digits : after.takeWhile Char.isDigit = [] := takeWhile_run (List.forall_mem_nil _) digit
  cases ident : before.head?.any continuesIdent with
  | true => exact scan_text (OpensAt.ident ident).eq
  | false =>
    refine scan_opened [] ?_
    rw [List.nil_append, (OpensAt.dollar ident digits).eq, dollarQuotedLength?_eq_none quote]
    rfl

namespace Element.At

/-- A quotation mark behind an element does not open a literal with escapes. -/
theorem closed {e : Element} (h : e.At rest) (plain : e.Plain)
    (escapes : opensEscapes (e.chars.reverse ++ before)) : rest.head? ≠ some '\'' := by
  -- At the end of the text nothing comes behind; otherwise the last character is no `E`.
  have ends {c : Char} (letter : marksEscapes c = false)
      (last : rest = [] ∨ e.chars.getLast? = some c) : rest.head? ≠ some '\'' := by
    rcases last with rfl | last
    · exact nofun
    · rw [opensEscapes_of_getLast? last letter] at escapes
      cases escapes
  cases h with
  | @word c cs _ first more _ mark =>
    have word : ∀ d ∈ c :: cs, continuesIdent d :=
      fun d hd => continuesWord_eq d ▸ continuesWord_of_word first more d hd
    by_cases long : cs = []
    · subst long
      refine mark ?_ rfl
      rw [chars, List.reverse_singleton, List.singleton_append, opensEscapes_cons,
        Bool.and_eq_true] at escapes
      exact escapes.1
    · rw [chars, opensEscapes_of_word word long] at escapes
      cases escapes
  | number longest =>
    rw [chars, longest.1.1.opensEscapes] at escapes
    cases escapes
  | @parameter n _ _ =>
    have digits : opensEscapes (n.digits.reverse ++ '$' :: before) := by
      simpa [chars] using escapes
    rw [n.opensEscapes] at digits
    cases digits
  | literal quoted =>
    refine ends (c := '\'') rfl (quoted.ends.imp_right fun last => ?_)
    simp [chars, List.getLast?_cons, last]
  | escapeLiteral _ escaped =>
    obtain rfl : _ = [] := plain
    cases escaped with
    | last quoted _ =>
      refine ends (c := '\'') rfl (quoted.ends.imp_right fun last => ?_)
      simp [chars, Parts.chars, List.getLast?_cons, last]
  | quotedName quoted =>
    refine ends (c := '"') rfl (quoted.ends.imp_right fun last => ?_)
    simp [chars, List.getLast?_cons, last]
  | @lineComment body ending _ _ lineEnd =>
    rcases lineEnd.ends with rfl | ⟨c, last, newline⟩
    · exact nofun
    · refine ends (c := c) ?_ (.inr (by simp [chars, List.getLast?_cons, last]))
      simp only [isNewline, Bool.or_eq_true, beq_iff_eq] at newline
      rcases newline with rfl | rfl <;> rfl
  | blockComment commented =>
    refine ends (c := '/') rfl (commented.ends.imp_right fun last => ?_)
    simp [chars, List.getLast?_cons, last]
  | @dollarQuoted tag body _ _ through =>
    have closing : (dollarMark tag).getLast? = some '$' := by simp [dollarMark, List.getLast?_cons]
    refine ends (c := '$') rfl ((through.ends closing).imp_right fun last => ?_)
    simp [chars, last]
  | dots _ => exact ends (c := '.') rfl (.inr rfl)
  | other word => exact ends (marksEscapes_of_startsWord word) (.inr rfl)

/-- The scanner takes an element for what it is, provided that an element that needs space has it
and that a quotation mark does not open a literal with escapes. -/
theorem scan_eq {e : Element} (h : e.At rest) (plain : e.Plain)
    (space : e.needsSpace → before.head?.any continuesIdent = false)
    (closed : opensEscapes before → (e.chars ++ rest).head? ≠ some '\'') :
    scan before .code (e.chars ++ rest) =
      e.marks ++ scan (e.chars.reverse ++ before) .code rest := by
  -- Words and numbers are copied character by character. What opens a region is copied as far as
  -- the scanner measures it, and the grammar measures the same, if the element is plain.
  cases h with
  | @word c cs _ first more _ _ =>
    obtain ⟨head, tail⟩ := List.forall_mem_cons.1 fun d hd =>
      continuesWord_eq d ▸ continuesWord_of_word first more d hd
    have dollar : c ≠ '$' := by
      rintro rfl
      cases first
    have inert := opening_inert (isInert_of_continuesIdent head dollar) before (cs ++ rest)
    rw [chars, List.cons_append, scan_text inert, scan_word tail (by simpa using head)]
    simp [marks, chars]
  | number longest => exact longest.1.1.textual before rest
  | @parameter n _ ends =>
    have found := (step_numeral_iff n before rest (rfl : Inside.code.isNumber = false)).2
      ⟨rfl, space rfl, ends⟩
    rw [chars, List.cons_append, scan_numeral n before rest rfl found]
    simp [marks]
  | @literal body _ quoted =>
    have plain : opensEscapes before = false :=
      Bool.eq_false_iff.2 fun escapes => closed escapes rfl
    have length := (measures_quoted '\'' (by decide) false).length quoted
    exact scan_opened _ (by rw [(OpensAt.literal _).eq, plain, length])
  | @escapeLiteral mark body _ parts marked escaped =>
    obtain rfl : parts = [] := plain
    cases escaped with
    | last quoted _ =>
      simpa [chars, Parts.chars, marks] using scan_escapeLiteral marked (space rfl) quoted
  | @quotedName body _ quoted =>
    have length := (measures_quoted '"' (by decide) false).length quoted
    exact scan_opened _ (by rw [(OpensAt.name _).eq, length])
  | @lineComment body ending _ inside lineEnd =>
    have line : Line ('-' :: (body ++ ending)) rest :=
      .char '-' (by decide) (lineEnd.line plain inside)
    have length := measures_line.length line
    exact scan_opened ('-' :: (body ++ ending)) (by rw [(OpensAt.line rfl).eq, length])
  | @blockComment body _ commented =>
    have length := (measures_commented 0).length commented
    exact scan_opened ('*' :: body) (by simp [opening, length, Nat.add_comm])
  | dollarQuoted isTag through =>
    exact scan_dollarQuote (isTag.dollarTag plain) (space rfl) through
  | dots _ =>
    have dots : Textual ['.', '.'] := textual_inert (by simp [isInert])
    exact dots before rest
  | @other c _ word digit quote name line block point dollar =>
    by_cases sign : c = '$'
    · obtain ⟨noDigit, noQuote⟩ := dollar sign
      exact sign ▸ scan_dollar noDigit noQuote
    · exact scan_text (OpensAt.text quote name (not_and.2 line) (not_and.2 block) sign).eq

end Element.At

/-- The scanner takes a text of plain elements apart as SQL does: the parameters are the
placeholders, and nothing else is. -/
theorem Lexes.scan_eq {text : List Char} {es : List Element} (h : Lexes text es)
    (plain : Plain es)
    (space : ∀ e, es.head? = some e → e.needsSpace → before.head?.any continuesIdent = false)
    (closed : opensEscapes before → text.head? ≠ some '\'') :
    scan before .code text = es.flatMap Element.marks := by
  -- Induction on the elements; what stands before an element matters by its last character.
  induction h generalizing before with
  | nil => simp [scan]
  | @cons e rest es first more ih =>
    obtain ⟨known, others⟩ := List.forall_mem_cons.1 plain.elements
    obtain ⟨apart, chain⟩ := List.isChain_cons.1 plain.apart
    have step := first.scan_eq known (space e rfl) closed
    have last : (e.chars.reverse ++ before).head? = e.chars.getLast? := by
      rw [← List.head?_reverse, List.head?_append_of_ne_nil]
      exact List.reverse_ne_nil_iff.2 (Element.chars_ne_nil first)
    rw [step, List.flatMap_cons]
    refine congrArg (e.marks ++ ·) (ih ⟨others, chain⟩ (fun next head needs => ?_) ?_)
    · rw [last]
      exact apart next head needs
    · exact first.closed known

/-- A character that separates words is an element of its own, unless it is a point. -/
theorem Element.At.separator {c : Char} (h : isSeparator c) (point : c ≠ '.') (rest : List Char) :
    (Element.other c).At rest := by
  simp only [isSeparator, isInert, ← continuesWord_eq, continuesWord, Bool.and_eq_true,
    bne_iff_ne, Bool.not_eq_true', Bool.or_eq_false_iff] at h
  obtain ⟨⟨⟨⟨⟨⟨quote, name⟩, dash⟩, slash⟩, dollar⟩, ⟨word, digit⟩, -⟩, -⟩ := h
  exact .other word digit quote name (fun h => absurd h dash) (fun h => absurd h slash)
    (fun h => absurd h point) fun h => absurd h dollar

end Sql

namespace Statement

/-- The piece that an element stands for. -/
def elementPiece (args : Array Value) : Sql.Element → Except Error Piece
  | .parameter n => (argument args n.digits).map .param
  | e => .ok (.text (String.ofList e.chars))

theorem readTokens_run (args : Array Value) (cs : List Char) (marks : List (Char × Sql.Role)) :
    readTokens args (Sql.collect (cs.map (·, .text) ++ marks)) =
      (readTokens args (Sql.collect marks)).map (cs.map Sum.inl ++ ·) := by
  induction cs with
  | nil =>
    rw [List.map_nil, List.nil_append]
    cases readTokens args (Sql.collect marks) <;> rfl
  | cons c cs ih =>
    rw [List.map_cons, List.cons_append, Sql.collect, readTokens_extend, ih]
    cases readTokens args (Sql.collect marks) <;> rfl

/-- An element in front of other text. -/
theorem readTokens_element (args : Array Value) (e : Sql.Element) (marks : List (Char × Sql.Role)) :
    readTokens args (Sql.collect (e.marks ++ marks)) =
      (elementPiece args e).bind fun p =>
        (readTokens args (Sql.collect marks)).map (p.symbols ++ ·) := by
  have text (cs : List Char) : readTokens args (Sql.collect (cs.map (·, .text) ++ marks)) =
      (readTokens args (Sql.collect marks)).map ((Piece.text (String.ofList cs)).symbols ++ ·) := by
    rw [readTokens_run, Piece.symbols, String.toList_ofList]
  cases e with
  | parameter n =>
    rw [Sql.Element.marks, List.cons_append, Sql.collect, Sql.collect_digits, readTokens_cons]
    rfl
  | _ => exact text _

theorem readTokens_elements (args : Array Value) (es : List Sql.Element) :
    readTokens args (Sql.collect (es.flatMap Sql.Element.marks)) =
      (es.mapM (elementPiece args)).map (List.flatMap Piece.symbols) := by
  induction es with
  | nil => rfl
  | cons e es ih =>
    rw [List.flatMap_cons, List.mapM_cons, readTokens_element, ih]
    cases elementPiece args e with
    | error e => rfl
    | ok p => cases es.mapM (elementPiece args) <;> rfl

/-- A statement is read element by element. Its text is a sequence of lexical elements in one
way, and where they are plain the placeholders that the scanner finds are the parameters among
them: each of these stands for its argument, and everything else for its own text. -/
theorem toFragment_elements (s : Statement) :
    ∃ es, Sql.Lexes s.text.toList es ∧ (∀ es', Sql.Lexes s.text.toList es' → es' = es) ∧
      (Sql.Plain es →
        Sql.scan [] .code s.text.toList = es.flatMap Sql.Element.marks ∧
        s.toFragment = (es.mapM (elementPiece s.args.toArray)).map Fragment.ofPieces) := by
  obtain ⟨es, lexed⟩ := Sql.exists_lexes s.text.toList
  refine ⟨es, lexed, fun es' lexed' => lexed'.unique lexed, fun plain => ?_⟩
  have scanned : Sql.scan [] .code s.text.toList = es.flatMap Sql.Element.marks :=
    lexed.scan_eq plain (fun _ _ _ => rfl) nofun
  refine ⟨scanned, ?_⟩
  rw [toFragment_eq, Sql.tokens, scanned, readTokens_elements]
  cases es.mapM (elementPiece s.args.toArray) with
  | error e => rfl
  | ok pieces => exact congrArg Except.ok (Fragment.ofPieces_eq_gather pieces).symm

/-- A text in which one of four dollar signs with a digit behind them is a parameter. -/
def quotedSelect : Statement := ⟨"'$3',$t$ $4 $t$,$1 -- $2", [.null]⟩

/-- The elements of the text. -/
def quotedSelectElements : List Sql.Element :=
  [.literal ['$', '3', '\''], .other ',', .dollarQuoted ['t'] [' ', '$', '4', ' ', '$', 't', '$'],
    .other ',', .parameter ⟨['1'], by decide, List.forall_mem_singleton.2 rfl⟩, .other ' ',
    .lineComment [' ', '$', '2'] []]

theorem toFragment_quotedSelect :
    Sql.Plain quotedSelectElements ∧ quotedSelect.toFragment =
      (quotedSelectElements.mapM (elementPiece quotedSelect.args.toArray)).map
        Fragment.ofPieces := by
  have text : quotedSelect.text.toList = quotedSelectElements.flatMap Sql.Element.chars := by
    decide +kernel
  have tag : Sql.WordTag ['t'] :=
    ⟨List.forall_mem_singleton.2 ⟨rfl, by decide⟩, fun c h => by cases h; rfl⟩
  have lexed : Sql.Lexes quotedSelect.text.toList quotedSelectElements := by
    rw [text]
    refine .cons (.literal ?_) (.cons (.separator (c := ',') rfl (by decide) _) (.cons
      (.dollarQuoted tag ?_) (.cons (.separator (c := ',') rfl (by decide) _) (.cons
        (.parameter rfl) (.cons (.separator (c := ' ') rfl (by decide) _) (.cons
          (.lineComment (by simp [Sql.isNewline]) .text) .nil))))))
    · exact (Sql.measures_quoted _ (by decide) false).length_iff.1 rfl
    · exact (Sql.measures_through _ (Sql.dollarMark_ne_nil _)).length_iff.1 rfl
  have plain : Sql.Plain quotedSelectElements := by
    refine ⟨by simp [quotedSelectElements, Sql.Element.Plain], ?_⟩
    simp [quotedSelectElements, Sql.Element.Apart, Sql.Element.needsSpace, Sql.Element.chars,
      show Sql.continuesIdent ',' = false from rfl]
  obtain ⟨es, -, unique, agrees⟩ := toFragment_elements quotedSelect
  obtain rfl := unique _ lexed
  exact ⟨plain, (agrees plain).2⟩

/-- The tag of a dollar quote may be any word, but the scanner knows ASCII tags only. -/
theorem placeholder_quoted :
    ¬ ∀ (s : Statement) (es : List Sql.Element), Sql.Lexes s.text.toList es →
      s.toFragment = (es.mapM (elementPiece s.args.toArray)).map Fragment.ofPieces := by
  intro claim
  have quoted : Sql.Lexes "$é$ $2 $é$".toList
      [.dollarQuoted ['é'] [' ', '$', '2', ' ', '$', 'é', '$']] := by
    have text : "$é$ $2 $é$".toList = ['$', 'é', '$', ' ', '$', '2', ' ', '$', 'é', '$'] := by
      decide +kernel
    have tag : Sql.WordTag ['é'] :=
      ⟨List.forall_mem_singleton.2 ⟨rfl, by decide⟩, fun c h => by cases h; rfl⟩
    have first : (Sql.Element.dollarQuoted ['é'] [' ', '$', '2', ' ', '$', 'é', '$']).At [] :=
      .dollarQuoted tag ((Sql.measures_through _ (Sql.dollarMark_ne_nil _)).length_iff.1 rfl)
    rw [text]
    exact .cons first .nil
  have fails : (Statement.toFragment ⟨"$é$ $2 $é$", []⟩).isOk = false := by decide +kernel
  rw [claim ⟨"$é$ $2 $é$", []⟩ _ quoted] at fails
  cases fails

end Statement

end SqlBuilder
