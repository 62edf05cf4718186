import Mathlib.Data.List.Chain
import Mathlib.Data.List.Forall2
import Mathlib.Data.List.Infix
import SqlBuilder.Proofs.Neat
import SqlBuilder.Proofs.Outcome
import SqlBuilder.Template

/-!
# Text around parameters

A parameter becomes a dollar sign with digits, so what stands next to it matters: an identifier in
front of it swallows the dollar sign, and digits behind it go on with the number. `Sql.Spaced`
says that no two neighbours run into each other. Spaced symbols of clear text may stand between
separators, also when some of their empty parentheses are filled (`Separable.of_fills`), and so
may an embedded statement whose text is clear: the scanner only takes a dollar sign for a
placeholder where the placeholder is spaced (`Statement.separable_toFragment`).
-/

namespace SqlBuilder

namespace Sql

/-- Text without dollar signs, quotation marks and openings of comments. -/
structure Clear (text : List Char) : Prop where
  dollar : '$' ∉ text
  quote : '\'' ∉ text
  name : '"' ∉ text
  line : ¬ ['-', '-'] <:+: text
  block : ¬ ['/', '*'] <:+: text

instance (text : List Char) : Decidable (Clear text) :=
  decidable_of_iff ('$' ∉ text ∧ '\'' ∉ text ∧ '"' ∉ text ∧ ¬ ['-', '-'] <:+: text ∧
      ¬ ['/', '*'] <:+: text)
    ⟨fun ⟨dollar, quote, name, line, block⟩ => ⟨dollar, quote, name, line, block⟩,
      fun h => ⟨h.dollar, h.quote, h.name, h.line, h.block⟩⟩

/-- Whether two symbols may be neighbours: a parameter goes on neither with an identifier nor
into a digit or another parameter, and two characters open no comment. -/
def apart : Char ⊕ Value → Char ⊕ Value → Bool
  | .inl c, .inl d => !(c == '-' && d == '-') && !(c == '/' && d == '*')
  | .inl c, .inr _ => !continuesIdent c
  | .inr _, .inl d => !d.isDigit
  | .inr _, .inr _ => false

/-- Each symbol may be a neighbour of the next one. -/
def Spaced (symbols : List (Char ⊕ Value)) : Prop := symbols.IsChain fun s t => apart s t

instance (symbols : List (Char ⊕ Value)) : Decidable (Spaced symbols) :=
  inferInstanceAs (Decidable (symbols.IsChain fun s t => apart s t))

/-- No character is a quotation mark or a dollar sign. -/
def Unquoted (symbols : List (Char ⊕ Value)) : Prop :=
  ∀ c, .inl c ∈ symbols → c ≠ '$' ∧ c ≠ '\'' ∧ c ≠ '"'

theorem Unquoted.append {ss ts : List (Char ⊕ Value)} (hss : Unquoted ss) (hts : Unquoted ts) :
    Unquoted (ss ++ ts) := by
  intro c hc
  rcases List.mem_append.1 hc with hc | hc
  · exact hss c hc
  · exact hts c hc

namespace Clear

variable {c d : Char} {cs : List Char}

theorem tail (h : Clear (c :: cs)) : Clear cs := by
  have within (pair : List Char) (inside : pair <:+: cs) : pair <:+: c :: cs :=
    List.infix_cons inside
  exact ⟨fun hc => h.dollar (List.mem_cons_of_mem c hc),
    fun hc => h.quote (List.mem_cons_of_mem c hc), fun hc => h.name (List.mem_cons_of_mem c hc),
    fun inside => h.line (within _ inside), fun inside => h.block (within _ inside)⟩

/-- Text at which no region opens, with neither a dash nor a slash in it. -/
theorem of_inert (h : cs.all isInert) : Clear cs := by
  have absent (c : Char) (opens : isInert c = false) : c ∉ cs := by
    intro hc
    have inert := List.all_eq_true.1 h c hc
    rw [opens] at inert
    cases inert
  refine ⟨absent '$' rfl, absent '\'' rfl, absent '"' rfl, fun inside => ?_, fun inside => ?_⟩
  · exact absent '-' rfl (inside.subset List.mem_cons_self)
  · exact absent '/' rfl (inside.subset List.mem_cons_self)

theorem unquoted (h : Clear cs) : Unquoted (cs.map Sum.inl) := by
  intro c hc
  have mem : c ∈ cs := by simpa using hc
  refine ⟨?_, ?_, ?_⟩
  · rintro rfl
    exact h.dollar mem
  · rintro rfl
    exact h.quote mem
  · rintro rfl
    exact h.name mem

theorem apart_head (h : Clear (c :: d :: cs)) : apart (.inl c) (.inl d) := by
  have opening : [c, d] <:+: c :: d :: cs := ⟨[], cs, rfl⟩
  have line : c = '-' → d ≠ '-' := by
    rintro rfl rfl
    exact h.line opening
  have block : c = '/' → d ≠ '*' := by
    rintro rfl rfl
    exact h.block opening
  simpa [apart, ← imp_iff_not_or] using And.intro line block

theorem spaced (h : Clear cs) : Spaced (cs.map Sum.inl) := by
  induction cs with
  | nil => exact List.IsChain.nil
  | cons c cs ih =>
    cases cs with
    | nil => exact List.IsChain.singleton _
    | cons d cs => exact List.IsChain.cons_cons h.apart_head (ih h.tail)

end Clear

/-! ### Filling parentheses -/

/-- The symbols are those of an outline in which some pairs of empty parentheses are filled with
parts that may stand between separators. -/
inductive Fills : (outline symbols : List (Char ⊕ Value)) → Prop
  | nil : Fills [] []
  | symbol (s : Char ⊕ Value) {os ss : List (Char ⊕ Value)} (rest : Fills os ss) :
      Fills (s :: os) (s :: ss)
  | part {part os ss : List (Char ⊕ Value)} (h : Separable part) (rest : Fills os ss) :
      Fills (.inl '(' :: .inl ')' :: os) (.inl '(' :: (part ++ .inl ')' :: ss))

namespace Fills

variable {os ss os' ss' rest : List (Char ⊕ Value)}

theorem refl (ss : List (Char ⊕ Value)) : Fills ss ss := by
  induction ss with
  | nil => exact .nil
  | cons s ss ih => exact .symbol s ih

theorem append (h : Fills os ss) (h' : Fills os' ss') : Fills (os ++ os') (ss ++ ss') := by
  induction h with
  | nil => exact h'
  | symbol s _ ih => exact .symbol s ih
  | part separable _ ih => simpa using Fills.part separable ih

theorem head?_eq (h : Fills os ss) : ss.head? = os.head? := by
  cases h <;> rfl

/-- What comes first in front of separators is the first symbol of the outline or a separator. -/
theorem head?_append (h : Fills os ss) (follows : Follows rest) {s : Char ⊕ Value}
    (first : (ss ++ rest).head? = some s) :
    os.head? = some s ∨ ∃ c, s = .inl c ∧ isSeparator c := by
  rw [List.head?_append, h.head?_eq] at first
  cases head : os.head? with
  | none =>
    rw [head] at first
    exact .inr (follows.starts s first)
  | some t =>
    rw [head] at first
    exact .inl first

/-- A character that is no separator comes first only if it is the first symbol of the outline. -/
theorem head?_append_ne (h : Fills os ss) (follows : Follows rest) {c : Char}
    (separator : isSeparator c = false) (other : os.head? ≠ some (.inl c)) :
    (ss ++ rest).head? ≠ some (.inl c) := by
  intro first
  rcases h.head?_append follows first with same | ⟨d, same, isSeparator⟩
  · exact other same
  · cases same
    rw [separator] at isSeparator
    cases isSeparator

/-- Filled parentheses do not disturb what stands around them. -/
theorem neat (h : Fills os ss) (unquoted : Unquoted os) (spaced : Spaced os)
    (follows : Follows rest) {joined : Bool}
    (free : joined → ∀ v, os.head? ≠ some (.inr v)) : Neat joined (ss ++ rest) := by
  -- `spaced` is about neighbours in the outline. They are neighbours in the filled text as well,
  -- but for the parentheses, and between these stands what may stand between separators.
  induction h generalizing joined with
  | nil => exact follows.neat joined
  | @symbol s os ss fills ih =>
    obtain ⟨neighbour, spaced⟩ := List.isChain_cons.1 spaced
    have later : Unquoted os := fun c hc => unquoted c (List.mem_cons_of_mem s hc)
    have next (joined : Bool) (free : joined → ∀ v, os.head? ≠ some (.inr v)) :
        Neat joined (ss ++ rest) := ih later spaced free
    cases s with
    | inr v =>
      cases joined with
      | true => exact absurd rfl (free rfl v)
      | false =>
        refine .param v (fun d first => ?_) (next true ?_)
        · rcases fills.head?_append follows first with same | ⟨c, same, separator⟩
          · simpa [apart] using neighbour _ same
          · cases same
            exact not_isDigit_of_isSeparator separator
        · intro _ w same
          cases neighbour _ same
    | inl c =>
      obtain ⟨dollar, quote, name⟩ := unquoted c List.mem_cons_self
      by_cases dash : c = '-'
      · subst dash
        have ends : os.head? ≠ some (.inl '-') := fun same => by cases neighbour _ same
        exact .dash (fills.head?_append_ne follows (by decide) ends) (next false nofun)
      by_cases slash : c = '/'
      · subst slash
        have ends : os.head? ≠ some (.inl '*') := fun same => by cases neighbour _ same
        exact .slash (fills.head?_append_ne follows (by decide) ends) (next false nofun)
      have inert : isInert c := by simp [isInert, dollar, quote, name, dash, slash]
      refine .inert inert (next _ fun ident v same => ?_)
      have apart := neighbour _ same
      simp [Sql.apart, ident] at apart
  | @part part os ss separable fills ih =>
    have later : Unquoted os :=
      fun c hc => unquoted c (List.mem_cons_of_mem _ (List.mem_cons_of_mem _ hc))
    obtain ⟨-, spaced⟩ := List.isChain_cons.1 spaced
    obtain ⟨neighbour, spaced⟩ := List.isChain_cons.1 spaced
    have behind : Neat false (ss ++ rest) := ih later spaced nofun
    have closed := separable (.inl ')' :: (ss ++ rest)) (.cons (by decide) behind)
    rw [List.cons_append, List.append_assoc, List.cons_append]
    exact .inert (by decide) closed

/-- Outlines are filled slot by slot. -/
theorem weave (parts : List String) {fs gs : List Fragment}
    (h : List.Forall₂ (fun f g => Fills f.symbols g.symbols) fs gs) :
    Fills (Fragment.concat (Template.weave parts fs)).symbols
      (Fragment.concat (Template.weave parts gs)).symbols := by
  rw [Fragment.symbols_concat, Fragment.symbols_concat]
  induction parts generalizing fs gs with
  | nil => exact .nil
  | cons part parts ih =>
    cases h with
    | nil => exact .refl _
    | cons head tail => exact (refl _).append (head.append (ih tail))

end Fills

/-- Spaced symbols without quotation marks and dollar signs may stand between separators, with
their empty parentheses filled. -/
theorem Separable.of_fills {os ss : List (Char ⊕ Value)} (h : Fills os ss)
    (unquoted : Unquoted os) (spaced : Spaced os) : Separable ss :=
  fun _ follows => h.neat unquoted spaced follows nofun

theorem Separable.of_clear {cs : List Char} (h : Clear cs) : Separable (cs.map Sum.inl) :=
  .of_fills (.refl _) h.unquoted h.spaced

/-! ### Embedded statements -/

/-- The text of the token is clear; a placeholder has none. -/
def Token.Clear : Token → Prop
  | .text run => Sql.Clear run
  | .placeholder _ => True

instance : DecidablePred Token.Clear
  | .text run => inferInstanceAs (Decidable (Sql.Clear run))
  | .placeholder _ => inferInstanceAs (Decidable True)

/-- The symbols that a token stands for, given the arguments of placeholders. -/
def Token.symbols (argument : List Char → Value) : Token → List (Char ⊕ Value)
  | .text run => run.map Sum.inl
  | .placeholder digits => [.inr (argument digits)]

theorem flatMap_symbols_extend (argument : List Char → Value) (c : Char) (tokens : List Token) :
    (Token.extend c tokens).flatMap (Token.symbols argument) =
      .inl c :: tokens.flatMap (Token.symbols argument) :=
  flatMap_extend (fun _ _ => rfl) c tokens

/-- Of clear tokens with one more character of text in front, the character is no quotation mark
and no dollar sign, and the tokens without it are clear. -/
theorem clear_extend {c : Char} {tokens : List Token}
    (h : ∀ token ∈ Token.extend c tokens, token.Clear) :
    (c ≠ '$' ∧ c ≠ '\'' ∧ c ≠ '"') ∧ ∀ token ∈ tokens, token.Clear := by
  cases tokens with
  | nil =>
    have clear : Clear [c] := h (.text [c]) List.mem_cons_self
    exact ⟨clear.unquoted c List.mem_cons_self, nofun⟩
  | cons token tokens =>
    cases token with
    | placeholder digits =>
      have clear : Clear [c] := h (.text [c]) List.mem_cons_self
      exact ⟨clear.unquoted c List.mem_cons_self,
        fun token ht => h token (List.mem_cons_of_mem _ ht)⟩
    | text run =>
      have clear : Clear (c :: run) := h (.text (c :: run)) List.mem_cons_self
      refine ⟨clear.unquoted c List.mem_cons_self, fun token ht => ?_⟩
      rcases List.mem_cons.1 ht with rfl | ht
      · exact clear.tail
      · exact h token (List.mem_cons_of_mem _ ht)

/-- Two characters of clear text open no comment. -/
theorem apart_of_clear_extend {c d : Char} {tokens : List Token}
    (h : ∀ token ∈ Token.extend c (Token.extend d tokens), token.Clear) :
    apart (.inl c) (.inl d) := by
  have pair : ∃ run, Token.text (c :: d :: run) ∈ Token.extend c (Token.extend d tokens) := by
    cases tokens with
    | nil => exact ⟨[], List.mem_cons_self⟩
    | cons token tokens =>
      cases token with
      | placeholder digits => exact ⟨[], List.mem_cons_self⟩
      | text run => exact ⟨run, List.mem_cons_self⟩
  obtain ⟨run, hrun⟩ := pair
  have clear : Clear (c :: d :: run) := h _ hrun
  exact clear.apart_head

/-- No region opens in clear text. -/
theorem opening_of_clear {before rest : List Char} {c : Char}
    (text : (opening before c rest).1 = .text)
    (clear : ∀ token ∈ collect (scan before .code (c :: rest)), token.Clear) :
    (opening before c rest).2 = .code := by
  have marks : scan before .code (c :: rest) =
      (c, .text) :: scan (c :: before) (opening before c rest).2 rest := by
    rw [scan_cons]
    exact congrArg (fun role => (c, role) :: _) text
  rw [marks, collect] at clear
  obtain ⟨⟨dollar, quote, name⟩, -⟩ := clear_extend clear
  -- A comment opens with two characters, and both of them are text.
  have comment (d : Char) (more : List Char) (left : Nat) (ahead : rest = d :: more)
      (region : (opening before c rest).2 = .region (left + 1)) : apart (.inl c) (.inl d) := by
    rw [region, ahead, scan_cons] at clear
    exact apart_of_clear_extend clear
  cases rest with
  | nil => simp [opening, dollar, quote, name]
  | cons d more =>
    by_cases line : c = '-' ∧ d = '-'
    · obtain ⟨rfl, rfl⟩ := line
      have opened : (opening before '-' ('-' :: more)).2 = .region (lineLength more + 1) := by
        simp [opening, lineLength, Nat.add_comm]
      cases comment '-' more _ rfl opened
    by_cases block : c = '/' ∧ d = '*'
    · obtain ⟨rfl, rfl⟩ := block
      have opened : (opening before '/' ('*' :: more)).2 = .region (blockLength 0 more + 1) := by
        simp [opening, Nat.add_comm]
      cases comment '*' more _ rfl opened
    simp [opening, dollar, quote, name, line, block]

/-- What clear text reads as, when the scanner stands in front of it outside of regions and
numbers: the symbols of its tokens are spaced and unquoted, a placeholder comes first only if no
identifier goes on, and a character that comes first is the first one of the text. -/
structure ReadsSpaced (argument : List Char → Value) (before text : List Char)
    (tokens : List Token) : Prop where
  spaced : Spaced (tokens.flatMap (Token.symbols argument))
  unquoted : Unquoted (tokens.flatMap (Token.symbols argument))
  param : ∀ v, (tokens.flatMap (Token.symbols argument)).head? = some (.inr v) →
    before.head?.any continuesIdent = false
  char : ∀ c, (tokens.flatMap (Token.symbols argument)).head? = some (.inl c) →
    text.head? = some c ∧ ∃ later, tokens = Token.extend c later

/-- A character of text in front of what reads spaced. -/
theorem ReadsSpaced.extend {argument : List Char → Value} {before text : List Char} {c : Char}
    {tokens : List Token} (h : ReadsSpaced argument (c :: before) text tokens)
    (clear : ∀ token ∈ Token.extend c tokens, token.Clear) :
    ReadsSpaced argument before (c :: text) (Token.extend c tokens) := by
  have symbols := flatMap_symbols_extend argument c tokens
  obtain ⟨unquoted, -⟩ := clear_extend clear
  refine ⟨?_, ?_, ?_, ?_⟩
  · rw [symbols]
    refine List.isChain_cons.2 ⟨fun s hs => ?_, h.spaced⟩
    cases s with
    | inl d =>
      obtain ⟨-, later, rfl⟩ := h.char d hs
      exact apart_of_clear_extend clear
    | inr v =>
      have free := h.param v hs
      simpa [apart] using free
  · rw [symbols]
    intro d hd
    rcases List.mem_cons.1 hd with same | hd
    · cases same
      exact unquoted
    · exact h.unquoted d hd
  · intro v first
    rw [symbols] at first
    cases first
  · intro d first
    rw [symbols] at first
    cases first
    exact ⟨rfl, tokens, rfl⟩

/-- A placeholder in front of what reads spaced. -/
theorem ReadsSpaced.placeholder {argument : List Char → Value} {before digits rest : List Char}
    {tokens : List Token} (free : before.head?.any continuesIdent = false)
    (nonempty : digits ≠ []) (isDigit : ∀ d ∈ digits, d.isDigit)
    (ends : rest.head?.any Char.isDigit = false)
    (h : ReadsSpaced argument (digits.reverse ++ '$' :: before) rest tokens) :
    ReadsSpaced argument before ('$' :: (digits ++ rest)) (.placeholder digits :: tokens) := by
  have symbols : (Token.placeholder digits :: tokens).flatMap (Token.symbols argument) =
      .inr (argument digits) :: tokens.flatMap (Token.symbols argument) := rfl
  refine ⟨?_, ?_, fun _ _ => free, ?_⟩
  · rw [symbols]
    refine List.isChain_cons.2 ⟨fun s hs => ?_, h.spaced⟩
    cases s with
    | inl d =>
      obtain ⟨first, -⟩ := h.char d hs
      rw [first] at ends
      simpa [apart] using ends
    | inr v =>
      have ident := continuesIdent_behind nonempty isDigit ('$' :: before)
      rw [h.param v hs] at ident
      cases ident
  · rw [symbols]
    intro d hd
    rcases List.mem_cons.1 hd with same | hd
    · cases same
    · exact h.unquoted d hd
  · intro d first
    rw [symbols] at first
    cases first

/-- Clear text reads spaced: the scanner takes a dollar sign for a placeholder only where it does
not continue an identifier, and takes all the digits behind it. -/
theorem readsSpaced_scan (argument : List Char → Value) (before text : List Char)
    (clear : ∀ token ∈ collect (scan before .code text), token.Clear) :
    ReadsSpaced argument before text (collect (scan before .code text)) := by
  -- Induction on the length, since a placeholder takes up several characters.
  induction length : text.length using Nat.strong_induction_on generalizing before text with
  | _ k ih =>
    cases text with
    | nil => exact ⟨List.IsChain.nil, nofun, nofun, nofun⟩
    | cons c rest =>
      have code : Inside.code.isNumber = false := rfl
      rcases step_cases before code c rest with ⟨text, -⟩ | ⟨n, more, rfl, rfl, found⟩
      · have marks : scan before .code (c :: rest) =
            (c, .text) :: scan (c :: before) .code rest := by
          have opened : step before .code c rest = (.text, .code) :=
            Prod.ext text (opening_of_clear text clear)
          rw [scan_cons, opened]
        rw [marks, collect] at clear ⊢
        have shorter : rest.length < k := by
          rw [← length]
          exact Nat.lt_succ_self _
        exact (ih _ shorter (c :: before) rest (clear_extend clear).2 rfl).extend clear
      · obtain ⟨-, free, ends⟩ := (step_numeral_iff n before more code).1 found
        rw [scan_numeral n before more code found, collect, collect_digits] at clear ⊢
        have shorter : more.length < k := by
          rw [← length]
          simp only [List.length_cons, List.length_append]
          omega
        have later : ∀ token ∈ collect (scan (n.digits.reverse ++ '$' :: before) .code more),
            token.Clear := fun token ht => clear token (List.mem_cons_of_mem _ ht)
        exact .placeholder free n.nonempty n.isDigit ends (ih _ shorter _ more later rfl)

end Sql

/-- An embedded statement of clear text may stand between separators. -/
theorem Statement.separable_toFragment {s : Statement}
    (clear : ∀ token ∈ Sql.tokens s.text, token.Clear) :
    Ensures s.toFragment Fragment.Separable := by
  intro f hf
  -- The argument of a placeholder, where it has one.
  obtain ⟨argument, hargument⟩ : ∃ argument : List Char → Value, ∀ digits v,
      Statement.argument s.args.toArray digits = .ok v → argument digits = v := by
    refine ⟨fun digits => (Statement.argument s.args.toArray digits).toOption.getD .null, ?_⟩
    intro digits v hv
    simp only [hv]
    rfl
  have symbols : f.symbols = (Sql.tokens s.text).flatMap (Sql.Token.symbols argument) := by
    rw [Statement.toFragment] at hf
    cases read : (Sql.tokens s.text).mapM (piece s.args.toArray) with
    | error e =>
      rw [read] at hf
      cases hf
    | ok pieces =>
      rw [read] at hf
      cases hf
      rw [Fragment.symbols_ofPieces]
      refine (flatMap_eq_of_forall₂ ((mapM_eq_ok_iff.1 read).imp fun token p hp => ?_)).symm
      cases token with
      | text run =>
        cases hp
        simp [Sql.Token.symbols, Piece.symbols]
      | placeholder digits =>
        rw [piece] at hp
        cases found : Statement.argument s.args.toArray digits with
        | error e =>
          rw [found] at hp
          cases hp
        | ok v =>
          rw [found] at hp
          cases hp
          rw [Sql.Token.symbols, hargument digits v found]
          rfl
  have reads := Sql.readsSpaced_scan argument [] s.text.toList clear
  rw [Fragment.Separable, symbols]
  exact .of_fills (.refl _) reads.unquoted reads.spaced

end SqlBuilder
