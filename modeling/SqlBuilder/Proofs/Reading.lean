import SqlBuilder.Proofs.Spelling

/-!
# Reading a statement back

A fragment is legible when the scanner finds its placeholders, and nothing else, in its numbered
text. `Fragment.legible_iff` says the same through roles: the scanner gives every character the
role that it was written with. Then the statement of the fragment reads back as the fragment.
-/

namespace SqlBuilder

/-- The characters of a placeholder with their roles. -/
def Sql.placeholderMarks (n : Nat) : List (Char × Sql.Role) :=
  ('$', .placeholder (Nat.toDigits 10 n)) :: (Nat.toDigits 10 n).map (·, .digit)

/-- The number of a token that is a placeholder. -/
def Sql.Token.number? : Sql.Token → Option Nat
  | .placeholder digits => some (Text.digitsValue digits)
  | .text _ => none

/-- The numbers of the placeholders that the scanner finds, in the order of the text. -/
def Statement.placeholderNumbers (s : Statement) : List Nat :=
  (Sql.tokens s.text).filterMap Sql.Token.number?

namespace Fragment

/-- The numbered text of symbols, each character with the role that it is written with; the
first parameter has the number `next`. -/
def marks : (next : Nat) → List (Char ⊕ Value) → List (Char × Sql.Role)
  | _, [] => []
  | next, .inl c :: rest => (c, .text) :: marks next rest
  | next, .inr _ :: rest => Sql.placeholderMarks next ++ marks (next + 1) rest

/-- The numbered text of symbols. -/
def numbered (next : Nat) (symbols : List (Char ⊕ Value)) : List Char :=
  (marks next symbols).map Prod.fst

/-- The number of the first parameter behind some symbols. -/
def numberAfter (next : Nat) (symbols : List (Char ⊕ Value)) : Nat :=
  next + symbols.countP Sum.isRight

theorem marks_append (next : Nat) (ss ts : List (Char ⊕ Value)) :
    marks next (ss ++ ts) = marks next ss ++ marks (numberAfter next ss) ts := by
  induction ss generalizing next with
  | nil => rfl
  | cons s ss ih =>
    cases s with
    | inl c => simp [marks, ih, numberAfter]
    | inr v =>
      have following : numberAfter (next + 1) ss = numberAfter next (.inr v :: ss) := by
        simp only [numberAfter, List.countP_cons, Sum.isRight_inr, if_true]
        omega
      rw [List.cons_append, marks, marks, ih, following, List.append_assoc]

theorem numbered_append (next : Nat) (ss ts : List (Char ⊕ Value)) :
    numbered next (ss ++ ts) = numbered next ss ++ numbered (numberAfter next ss) ts := by
  rw [numbered, marks_append, List.map_append]
  rfl

@[simp] theorem numbered_nil (next : Nat) : numbered next [] = [] := rfl

@[simp] theorem numbered_char (next : Nat) (c : Char) (rest : List (Char ⊕ Value)) :
    numbered next (.inl c :: rest) = c :: numbered next rest := rfl

@[simp] theorem numbered_param (next : Nat) (v : Value) (rest : List (Char ⊕ Value)) :
    numbered next (.inr v :: rest) = '$' :: Nat.toDigits 10 next ++ numbered (next + 1) rest := by
  simp [numbered, marks, Sql.placeholderMarks, Function.comp_def]

theorem toList_write (next : Nat) (pieces : List Piece) :
    (write "" next pieces).toList = numbered next (pieces.flatMap Piece.symbols) := by
  induction pieces generalizing next with
  | nil => simp [write]
  | cons piece rest ih =>
    rw [List.flatMap_cons, numbered_append, ← ih]
    cases piece with
    | text s =>
      have text : numbered next (s.toList.map Sum.inl) = s.toList := by
        induction s.toList with
        | nil => rfl
        | cons c cs ih => rw [List.map_cons, numbered_char, ih]
      have same : numberAfter next (s.toList.map Sum.inl) = next := by
        simp [numberAfter, List.countP_map, Function.comp_def]
      rw [write, write_eq]
      simp [Piece.symbols, text, same]
    | param v =>
      have following : numberAfter next [Sum.inr v] = next + 1 := rfl
      rw [write, write_eq]
      simp [Piece.symbols, following, Nat.toList_repr]

/-- The text of a fragment, read off its symbols. -/
theorem toList_toSql (f : Fragment) : f.toSql.toList = numbered 1 f.symbols :=
  toList_write 1 f.pieces

/-- The scanner finds the parameters of the fragment in its text, and no others. Positions are
given by the symbols `ss` in front of them. -/
structure Legible (f : Fragment) : Prop where
  /-- A parameter stands outside of quotes, comments and dollar-quoted bodies. -/
  exposed : ∀ ss v ts, f.symbols = ss ++ .inr v :: ts →
    (Sql.insideAt f.toSql.toList (numbered 1 ss).length).isProtected = false
  /-- No identifier ends directly before a parameter. -/
  before : ∀ ss v ts, f.symbols = ss ++ .inr v :: ts →
    (numbered 1 ss).getLast?.any Sql.continuesIdent = false
  /-- No digit follows a parameter directly. -/
  after : ∀ ss v ts, f.symbols = ss ++ .inr v :: ts →
    (numbered (numberAfter 1 ss + 1) ts).head?.any Char.isDigit = false
  /-- Any other dollar sign before a digit is protected, or continues an identifier. -/
  others : ∀ ss d ts, f.symbols = ss ++ .inl '$' :: .inl d :: ts → d.isDigit →
    (Sql.insideAt f.toSql.toList (numbered 1 ss).length).isProtected ∨
      (numbered 1 ss).getLast?.any Sql.continuesIdent

theorem isDigit_toDigits (n : Nat) : ∀ d ∈ Nat.toDigits 10 n, d.isDigit :=
  fun _ hd => Nat.isDigit_of_mem_toDigits (by decide) (by decide) hd

/-- A dollar sign in text is not followed by a digit unless the digit is text as well. -/
theorem digit_ahead {next : Nat} {ts : List (Char ⊕ Value)}
    (h : (numbered next ts).takeWhile Char.isDigit ≠ []) :
    ∃ d rest, ts = .inl d :: rest ∧ d.isDigit := by
  cases ts with
  | nil => simp at h
  | cons t ts =>
    cases t with
    | inl d =>
      refine ⟨d, ts, rfl, Classical.byContradiction fun no => ?_⟩
      simp [no] at h
    | inr v => simp [Char.isDigit] at h

/-- What the scanner is inside of between two parts of a numbered text. -/
def insideBetween (ss ts : List (Char ⊕ Value)) : Sql.Inside :=
  Sql.reach [] .code (numbered 1 ss) (numbered (numberAfter 1 ss) ts)

/-- The scan of a numbered text behind some of its symbols. -/
def scanBehind (ss ts : List (Char ⊕ Value)) : List (Char × Sql.Role) :=
  Sql.scan (numbered 1 ss).reverse (insideBetween ss ts) (numbered (numberAfter 1 ss) ts)

theorem insideAt_eq {f : Fragment} {ss ts : List (Char ⊕ Value)} (h : f.symbols = ss ++ ts) :
    Sql.insideAt f.toSql.toList (numbered 1 ss).length = insideBetween ss ts := by
  rw [toList_toSql, h, numbered_append]
  simp [Sql.insideAt, insideBetween]

/-- What happens at a character of text. -/
theorem scanBehind_char (ss : List (Char ⊕ Value)) (c : Char) (ts : List (Char ⊕ Value)) :
    let done := Sql.step (numbered 1 ss).reverse (insideBetween ss (.inl c :: ts)) c
      (numbered (numberAfter 1 ss) ts)
    insideBetween (ss ++ [.inl c]) ts = done.2 ∧
      scanBehind ss (.inl c :: ts) = (c, done.1) :: scanBehind (ss ++ [.inl c]) ts := by
  intro done
  have same : numberAfter 1 (ss ++ [.inl c]) = numberAfter 1 ss := by simp [numberAfter]
  have passed : numbered 1 (ss ++ [.inl c]) = numbered 1 ss ++ [c] := by simp [numbered_append]
  have inside : insideBetween (ss ++ [.inl c]) ts = done.2 := by
    rw [insideBetween, same, passed, Sql.reach_append]
    simp [Sql.reach, done, insideBetween]
  refine ⟨inside, ?_⟩
  rw [scanBehind, scanBehind, inside, same, passed, numbered_char, Sql.scan_cons]
  simp [done]

/-- What happens at a parameter, when the scanner takes its dollar sign for a placeholder. -/
theorem scanBehind_param (ss : List (Char ⊕ Value)) (v : Value) (ts : List (Char ⊕ Value))
    (found : Sql.step (numbered 1 ss).reverse (insideBetween ss (.inr v :: ts)) '$'
      (Nat.toDigits 10 (numberAfter 1 ss) ++ numbered (numberAfter 1 ss + 1) ts) =
        (.placeholder (Nat.toDigits 10 (numberAfter 1 ss)),
          .number (Nat.toDigits 10 (numberAfter 1 ss)).length)) :
    insideBetween (ss ++ [.inr v]) ts = .number 0 ∧
      scanBehind ss (.inr v :: ts) =
        Sql.placeholderMarks (numberAfter 1 ss) ++ scanBehind (ss ++ [.inr v]) ts := by
  have following : numberAfter 1 (ss ++ [.inr v]) = numberAfter 1 ss + 1 := by
    simp [numberAfter, Nat.add_assoc]
  have passed : numbered 1 (ss ++ [.inr v]) =
      numbered 1 ss ++ '$' :: Nat.toDigits 10 (numberAfter 1 ss) := by
    simp [numbered_append]
  have inside : insideBetween (ss ++ [.inr v]) ts = .number 0 := by
    rw [insideBetween, following, passed, Sql.reach_append, Sql.reach]
    have ahead : '$' :: Nat.toDigits 10 (numberAfter 1 ss) ++ numbered (numberAfter 1 ss + 1) ts =
        numbered (numberAfter 1 ss) (.inr v :: ts) := (numbered_param _ v ts).symm
    rw [ahead, List.append_nil, ← insideBetween, found]
    exact Sql.reach_number _ _ _
  refine ⟨inside, ?_⟩
  rw [scanBehind, scanBehind, inside, following, passed, numbered_param, List.cons_append,
    Sql.scan_cons, found, Sql.scan_number]
  simp [Sql.placeholderMarks]

/-- The scanner gives every character the role that it is written with if the fragment is
legible. -/
theorem Legible.scanBehind_eq {f : Fragment} (h : f.Legible) (ts : List (Char ⊕ Value)) :
    ∀ ss, f.symbols = ss ++ ts → (insideBetween ss ts).isNumber = false →
      scanBehind ss ts = marks (numberAfter 1 ss) ts := by
  -- Induction on what is still ahead; between symbols the scanner is never inside of a number.
  induction ts with
  | nil =>
    intro ss _ _
    simp [scanBehind, Sql.scan, marks]
  | cons t ts ih =>
    intro ss split number
    have rest := ih (ss ++ [t]) (by simpa using split)
    cases t with
    | inl c =>
      obtain ⟨inside, scanned⟩ := scanBehind_char ss c ts
      have same : numberAfter 1 (ss ++ [.inl c]) = numberAfter 1 ss := by simp [numberAfter]
      rw [inside, same] at rest
      rw [scanned, marks]
      have text : (Sql.step (numbered 1 ss).reverse (insideBetween ss (.inl c :: ts)) c
            (numbered (numberAfter 1 ss) ts)).1 = .text ∧
          (Sql.step (numbered 1 ss).reverse (insideBetween ss (.inl c :: ts)) c
            (numbered (numberAfter 1 ss) ts)).2.isNumber = false := by
        cases region : (insideBetween ss (.inl c :: ts)).isProtected with
        | true => exact Sql.step_protected region _ _ _
        | false =>
          rw [Sql.step_code region number]
          rcases Sql.opening_cases (numbered 1 ss).reverse c (numbered (numberAfter 1 ss) ts)
            with ⟨role, inside, -⟩ | ⟨rfl, before, digits, -⟩
          · exact ⟨role, inside⟩
          · obtain ⟨d, more, rfl, digit⟩ := digit_ahead digits
            rcases h.others ss d more split digit with inside | ident
            · rw [insideAt_eq split, region] at inside
              cases inside
            · rw [List.head?_reverse, ident] at before
              cases before
      rw [text.1, rest text.2]
    | inr v =>
      have exposed := h.exposed ss v ts split
      rw [insideAt_eq split] at exposed
      have digits := Sql.takeWhile_run (isDigit_toDigits (numberAfter 1 ss)) (h.after ss v ts split)
      have found := Sql.step_code exposed number (numbered 1 ss).reverse '$'
        (Nat.toDigits 10 (numberAfter 1 ss) ++ numbered (numberAfter 1 ss + 1) ts)
      have following : numberAfter 1 (ss ++ [.inr v]) = numberAfter 1 ss + 1 := by
        simp [numberAfter, Nat.add_assoc]
      rcases Sql.opening_cases (numbered 1 ss).reverse '$'
        (Nat.toDigits 10 (numberAfter 1 ss) ++ numbered (numberAfter 1 ss + 1) ts)
        with ⟨-, -, no⟩ | ⟨-, -, -, opened⟩
      · rcases no rfl with ident | none
        · rw [List.head?_reverse, h.before ss v ts split] at ident
          cases ident
        · rw [digits] at none
          exact absurd none Nat.toDigits_ne_nil
      · rw [opened, digits] at found
        obtain ⟨inside, scanned⟩ := scanBehind_param ss v ts found
        rw [scanned, marks, rest (by rw [inside]; rfl), following]

/-- What is scanned behind some symbols of a fragment whose characters get their roles. -/
theorem scanBehind_of_scan {f : Fragment}
    (h : Sql.scan [] .code f.toSql.toList = marks 1 f.symbols) {ss ts : List (Char ⊕ Value)}
    (split : f.symbols = ss ++ ts) : scanBehind ss ts = marks (numberAfter 1 ss) ts := by
  rw [toList_toSql, split, numbered_append, marks_append] at h
  have behind := Sql.drop_scan [] .code (numbered 1 ss) (numbered (numberAfter 1 ss) ts)
  have length : (marks 1 ss).length = (numbered 1 ss).length := by simp [numbered]
  rw [h, ← length, List.drop_left, List.append_nil] at behind
  exact behind.symm

/-- The scanner finds a placeholder exactly where the roles say so. -/
theorem legible_of_scan {f : Fragment}
    (h : Sql.scan [] .code f.toSql.toList = marks 1 f.symbols) : f.Legible := by
  -- The sign of a parameter is marked as a placeholder, which it is in code only, behind nothing
  -- that it continues, and with all digits that follow it.
  have param (ss : List (Char ⊕ Value)) (v : Value) (ts : List (Char ⊕ Value))
      (split : f.symbols = ss ++ .inr v :: ts) :
      (insideBetween ss (.inr v :: ts)).isProtected = false ∧
      (numbered 1 ss).getLast?.any Sql.continuesIdent = false ∧
      (numbered (numberAfter 1 ss + 1) ts).head?.any Char.isDigit = false := by
    have scanned := scanBehind_of_scan h split
    rw [scanBehind, numbered_param, List.cons_append, Sql.scan_cons, marks, Sql.placeholderMarks,
      List.cons_append, List.cons.injEq, Prod.mk.injEq] at scanned
    obtain ⟨⟨-, role⟩, -⟩ := scanned
    cases region : (insideBetween ss (.inr v :: ts)).isProtected with
    | true =>
      rw [(Sql.step_protected region _ _ _).1] at role
      cases role
    | false =>
      cases number : (insideBetween ss (.inr v :: ts)).isNumber with
      | true =>
        rw [Sql.step_number number] at role
        cases role
      | false =>
        rw [Sql.step_code region number] at role
        rcases Sql.opening_cases (numbered 1 ss).reverse '$'
          (Nat.toDigits 10 (numberAfter 1 ss) ++ numbered (numberAfter 1 ss + 1) ts)
          with ⟨text, -, -⟩ | ⟨-, ident, -, opened⟩
        · rw [text] at role
          cases role
        · rw [List.head?_reverse] at ident
          refine ⟨rfl, ident, ?_⟩
          rw [opened, Sql.Role.placeholder.injEq,
            List.takeWhile_append_of_pos (isDigit_toDigits _)] at role
          have none := List.append_right_eq_self.1 role
          cases ahead : numbered (numberAfter 1 ss + 1) ts with
          | nil => rfl
          | cons c rest =>
            rw [ahead, List.takeWhile_cons] at none
            cases digit : c.isDigit with
            | true => simp [digit] at none
            | false => simp [digit]
  refine ⟨fun ss v ts split => ?_, fun ss v ts split => (param ss v ts split).2.1,
    fun ss v ts split => (param ss v ts split).2.2, fun ss d ts split digit => ?_⟩
  · rw [insideAt_eq split]
    exact (param ss v ts split).1
  -- A sign in the text itself is marked as text, so something keeps it from being a placeholder.
  · have scanned := scanBehind_of_scan h split
    rw [scanBehind, numbered_char, Sql.scan_cons, marks, List.cons.injEq, Prod.mk.injEq] at scanned
    obtain ⟨⟨-, role⟩, -⟩ := scanned
    rw [insideAt_eq split]
    cases region : (insideBetween ss (.inl '$' :: .inl d :: ts)).isProtected with
    | true => exact .inl rfl
    | false =>
      cases number : (insideBetween ss (.inl '$' :: .inl d :: ts)).isNumber with
      | true =>
        rw [Sql.step_number number] at role
        cases role
      | false =>
        rw [Sql.step_code region number] at role
        rcases Sql.opening_cases (numbered 1 ss).reverse '$'
          (numbered (numberAfter 1 ss) (.inl d :: ts)) with ⟨-, -, text⟩ | ⟨-, -, -, opened⟩
        · rcases text rfl with ident | none
          · rw [List.head?_reverse] at ident
            exact .inr ident
          · simp [digit] at none
        · rw [opened] at role
          cases role

/-- A fragment is legible when the scanner gives every character of its numbered text the role
that it is written with. -/
theorem legible_iff (f : Fragment) :
    f.Legible ↔ Sql.scan [] .code f.toSql.toList = marks 1 f.symbols := by
  refine ⟨fun h => ?_, legible_of_scan⟩
  have scanned := h.scanBehind_eq f.symbols [] rfl rfl
  rw [toList_toSql]
  exact scanned

/-! ### Reading back -/

theorem digitsValue_toDigits (n : Nat) : Text.digitsValue (Nat.toDigits 10 n) = n :=
  Nat.ofDigitChars_ten_toDigits

/-- The placeholder with the number of an argument stands for that argument. -/
theorem argument_toDigits (done rest : List Value) (v : Value)
    (word : done.length + 1 < Text.wordLimit) :
    Statement.argument (done ++ v :: rest).toArray (Nat.toDigits 10 (done.length + 1)) = .ok v := by
  have found : (done ++ v :: rest).toArray[done.length]? = some v := by simp
  simp only [Statement.argument, digitsValue_toDigits, found]
  rw [if_neg (by omega)]

theorem collect_placeholderMarks (n : Nat) (rest : List (Char × Sql.Role)) :
    Sql.collect (Sql.placeholderMarks n ++ rest) =
      .placeholder (Nat.toDigits 10 n) :: Sql.collect rest := by
  rw [Sql.placeholderMarks, List.cons_append, Sql.collect, Sql.collect_digits]

/-- The numeral of a number. -/
def numeral (n : Nat) : Sql.Numeral := ⟨Nat.toDigits 10 n, Nat.toDigits_ne_nil, isDigit_toDigits n⟩

/-- The spelling in which symbols are written; the first parameter has the number `next`. -/
def spelling : (next : Nat) → List (Char ⊕ Value) → Sql.Spelling
  | _, [] => []
  | next, .inl c :: rest => .inl c :: spelling next rest
  | next, .inr _ :: rest => .inr (numeral next) :: spelling (next + 1) rest

theorem marks_spelling (next : Nat) (symbols : List (Char ⊕ Value)) :
    (spelling next symbols).marks = marks next symbols := by
  induction symbols generalizing next with
  | nil => rfl
  | cons s symbols ih =>
    cases s <;> simp [spelling, Sql.Spelling.marks, marks, ih, numeral, Sql.placeholderMarks]

/-- The symbols are read back from the spelling that they were written in. -/
theorem mapM_spelling (symbols : List (Char ⊕ Value)) (done : List Value)
    (word : done.length + (symbols.filterMap Sum.getRight?).length < Text.wordLimit) :
    (spelling (done.length + 1) symbols).mapM
      (Statement.symbol (done ++ symbols.filterMap Sum.getRight?).toArray) = .ok symbols := by
  induction symbols generalizing done with
  | nil => rfl
  | cons s symbols ih =>
    cases s with
    | inl c =>
      have rest := ih done word
      rw [spelling, List.mapM_cons]
      simp only [List.filterMap_cons, Sum.getRight?_inl, rest]
      rfl
    | inr v =>
      have args : done ++ (Sum.inr v :: symbols).filterMap Sum.getRight? =
          (done ++ [v]) ++ symbols.filterMap Sum.getRight? := by simp
      have length : (done ++ [v]).length = done.length + 1 := by simp
      have bound : (done ++ [v]).length + (symbols.filterMap Sum.getRight?).length <
          Text.wordLimit := by
        rw [← List.length_append, ← args, List.length_append]
        exact word
      have first := argument_toDigits done (symbols.filterMap Sum.getRight?) v (by omega)
      have rest := ih (done ++ [v]) bound
      rw [List.append_assoc, List.singleton_append, length] at rest
      rw [spelling, List.mapM_cons, args, List.append_assoc, List.singleton_append, rest,
        Statement.symbol, numeral, first]
      rfl

theorem filterMap_collect_marks (next : Nat) (symbols : List (Char ⊕ Value)) :
    (Sql.collect (marks next symbols)).filterMap Sql.Token.number? =
      List.range' next (symbols.filterMap Sum.getRight?).length := by
  induction symbols generalizing next with
  | nil => rfl
  | cons s symbols ih =>
    cases s with
    | inl c =>
      rw [marks, Sql.collect, Sql.filterMap_extend fun _ => rfl]
      exact ih next
    | inr v =>
      rw [marks, collect_placeholderMarks, List.filterMap_cons, Sql.Token.number?,
        digitsValue_toDigits, ih]
      simp [List.range'_succ]

/-- The tokens of a legible fragment. -/
theorem Legible.tokens_eq {f : Fragment} (h : f.Legible) :
    Sql.tokens f.toStatement.text = Sql.collect (marks 1 f.symbols) := by
  rw [← (legible_iff f).1 h]
  rfl

/-- The placeholders of a legible fragment are numbered from one up to the number of its
arguments. -/
theorem Legible.placeholderNumbers {f : Fragment} (h : f.Legible) :
    f.toStatement.placeholderNumbers = List.range' 1 f.args.length := by
  rw [Statement.placeholderNumbers, h.tokens_eq, filterMap_collect_marks, args_eq_symbols]

/-- A legible fragment in canonical form is what its statement reads back as. -/
theorem Legible.toFragment {f : Fragment} (h : f.Legible) (canonical : f.Canonical)
    (word : f.args.length < Text.wordLimit) : f.toStatement.toFragment = .ok f := by
  have spelled : Sql.scan [] .code f.toStatement.text.toList = (spelling 1 f.symbols).marks := by
    rw [marks_spelling]
    exact (legible_iff f).1 h
  have args : f.toStatement.args = f.symbols.filterMap Sum.getRight? := args_eq_symbols f
  have read := mapM_spelling f.symbols [] (by simpa [args_eq_symbols] using word)
  rw [List.nil_append, List.length_nil, Nat.zero_add] at read
  rw [Statement.toFragment_of_spelling spelled, args, read]
  exact congrArg Except.ok canonical.symm

end Fragment

end SqlBuilder
