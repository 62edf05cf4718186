import SqlBuilder.Proofs.Fragment
import SqlBuilder.Proofs.Outcome
import SqlBuilder.Proofs.Sql.Scan
import SqlBuilder.Statement

/-!
# The spelling of SQL text

What the scanner makes of a text is a sequence of characters and numerals, the numerals standing
for parameters. `Sql.Spelling.marks` gives the characters of such a sequence their roles, and
`Sql.exists_spelling` says that every scan is of that form. A statement is read by looking up the
numerals of its spelling (`Statement.toFragment_of_spelling`).
-/

namespace SqlBuilder

namespace Sql

/-- A run of decimal digits, at least one. -/
structure Numeral where
  digits : List Char
  nonempty : digits ≠ []
  isDigit : ∀ d ∈ digits, d.isDigit

/-- Characters and the numerals of placeholders. -/
abbrev Spelling := List (Char ⊕ Numeral)

namespace Spelling

/-- The characters of the spelled text, each with its role. -/
def marks : Spelling → List (Char × Role)
  | [] => []
  | .inl c :: rest => (c, .text) :: marks rest
  | .inr n :: rest =>
    ('$', .placeholder n.digits) :: (n.digits.map (·, .digit) ++ marks rest)

/-- The spelled text. -/
def text (xs : Spelling) : List Char := xs.marks.map Prod.fst

/-- The numerals in order. -/
def numerals (xs : Spelling) : List Numeral := xs.filterMap Sum.getRight?

@[simp] theorem text_nil : text [] = [] := rfl

@[simp] theorem text_char (c : Char) (xs : Spelling) : text (.inl c :: xs) = c :: text xs := rfl

@[simp] theorem text_numeral (n : Numeral) (xs : Spelling) :
    text (.inr n :: xs) = '$' :: (n.digits ++ text xs) := by
  simp [text, marks, Function.comp_def]

theorem marks_append (xs ys : Spelling) : marks (xs ++ ys) = marks xs ++ marks ys := by
  induction xs with
  | nil => rfl
  | cons x xs ih => cases x <;> simp [marks, ih]

@[simp] theorem text_append (xs ys : Spelling) : text (xs ++ ys) = text xs ++ text ys := by
  rw [text, marks_append, List.map_append]
  rfl

@[simp] theorem text_chars (cs : List Char) : text (cs.map Sum.inl) = cs := by
  induction cs with
  | nil => rfl
  | cons c cs ih => rw [List.map_cons, text_char, ih]

end Spelling

/-- The digits that a number takes, and what is behind them. -/
theorem exists_numeral {ahead : List Char} (digits : ahead.takeWhile Char.isDigit ≠ []) :
    ∃ (n : Numeral) (rest : List Char), n.digits = ahead.takeWhile Char.isDigit ∧
      ahead = n.digits ++ rest ∧ rest.head?.any Char.isDigit = false := by
  obtain ⟨run, rest, rfl, isDigit, ends⟩ := exists_run Char.isDigit ahead
  rw [takeWhile_run isDigit ends] at digits ⊢
  exact ⟨⟨run, digits, isDigit⟩, rest, rfl, rfl, ends⟩

/-- The digits that a number takes are those of the numeral, unless more of them follow. -/
theorem Numeral.takeWhile_iff (n : Numeral) (rest : List Char) :
    (n.digits ++ rest).takeWhile Char.isDigit = n.digits ↔
      rest.head?.any Char.isDigit = false := by
  rw [List.takeWhile_append_of_pos n.isDigit, List.append_right_eq_self]
  cases rest with
  | nil => simp
  | cons c rest => cases digit : c.isDigit <;> simp [digit]

/-- The scanner takes a dollar sign and the digits behind it for a placeholder where it is
outside of every region, no identifier goes on, and the digits end with the numeral. -/
theorem step_numeral_iff (n : Numeral) (before rest : List Char) {inside : Inside}
    (number : inside.isNumber = false) :
    (step before inside '$' (n.digits ++ rest)).1 = .placeholder n.digits ↔
      inside.isProtected = false ∧ before.head?.any continuesIdent = false ∧
        rest.head?.any Char.isDigit = false := by
  cases region : inside.isProtected with
  | true =>
    rw [(step_protected region _ _ _).1]
    exact iff_of_false nofun nofun
  | false =>
    rw [step_code region number, ← n.takeWhile_iff]
    rcases opening_cases before '$' (n.digits ++ rest) with ⟨role, -, text⟩ | ⟨-, free, -, opened⟩
    · rw [role]
      refine iff_of_false nofun fun ⟨_, free, digits⟩ => ?_
      rcases text rfl with ident | none
      · rw [free] at ident
        cases ident
      · exact n.nonempty (digits.symm.trans none)
    · rw [opened, Role.placeholder.injEq]
      exact ⟨fun digits => ⟨rfl, free, digits⟩, fun h => h.2.2⟩

/-- Where the scanner takes a placeholder it goes on behind its digits. -/
theorem scan_numeral (n : Numeral) (before rest : List Char) {inside : Inside}
    (number : inside.isNumber = false)
    (found : (step before inside '$' (n.digits ++ rest)).1 = .placeholder n.digits) :
    scan before inside ('$' :: (n.digits ++ rest)) = ('$', .placeholder n.digits) ::
      (n.digits.map (·, .digit) ++ scan (n.digits.reverse ++ '$' :: before) .code rest) := by
  obtain ⟨region, free, ends⟩ := (step_numeral_iff n before rest number).1 found
  have digits := (n.takeWhile_iff rest).2 ends
  rw [scan_cons, found]
  rw [step_code region number] at found ⊢
  rcases opening_cases before '$' (n.digits ++ rest) with ⟨role, -, -⟩ | ⟨-, -, -, opened⟩
  · rw [role] at found
    cases found
  · rw [opened, digits, scan_number, scan_number_zero]

/-- The scanner takes a character for text, or a dollar sign and the digits behind it for a
placeholder. -/
theorem step_cases (before : List Char) {inside : Inside} (number : inside.isNumber = false)
    (c : Char) (ahead : List Char) :
    (step before inside c ahead).1 = .text ∧ (step before inside c ahead).2.isNumber = false ∨
    ∃ (n : Numeral) (rest : List Char), c = '$' ∧ ahead = n.digits ++ rest ∧
      (step before inside '$' (n.digits ++ rest)).1 = .placeholder n.digits := by
  cases region : inside.isProtected with
  | true => exact .inl (step_protected region before c ahead)
  | false =>
    rw [step_code region number]
    rcases opening_cases before c ahead with ⟨role, inside, -⟩ | ⟨rfl, -, digits, opened⟩
    · exact .inl ⟨role, inside⟩
    · obtain ⟨n, rest, taken, split, -⟩ := exists_numeral digits
      refine .inr ⟨n, rest, rfl, split, ?_⟩
      rw [step_code region number, ← split, opened, taken]

/-- Every scan that does not begin inside of a number is the scan of a spelling. -/
theorem exists_spelling (before text : List Char) {inside : Inside}
    (number : inside.isNumber = false) :
    ∃ xs : Spelling, scan before inside text = xs.marks := by
  -- Induction on the length, since a placeholder takes up several characters.
  induction length : text.length using Nat.strongRecOn generalizing before inside text with
  | ind _ ih =>
    cases text with
    | nil => exact ⟨[], by simp [scan, Spelling.marks]⟩
    | cons c ahead =>
      have within {rest : List Char} (shorter : rest.length ≤ ahead.length) (before : List Char)
          {inside : Inside} (number : inside.isNumber = false) :
          ∃ xs : Spelling, scan before inside rest = xs.marks := by
        refine ih _ ?_ before rest number rfl
        rw [← length, List.length_cons]
        omega
      rcases step_cases before number c ahead with ⟨role, later⟩ | ⟨n, rest, rfl, rfl, found⟩
      · obtain ⟨xs, scanned⟩ := within (Nat.le_refl _) (c :: before) later
        exact ⟨.inl c :: xs, by rw [scan_cons, role, scanned, Spelling.marks]⟩
      · have shorter : rest.length ≤ (n.digits ++ rest).length := by simp
        obtain ⟨xs, scanned⟩ := within shorter (n.digits.reverse ++ '$' :: before)
          (rfl : Inside.code.isNumber = false)
        exact ⟨.inr n :: xs, by
          rw [scan_numeral n before rest number found, scanned, Spelling.marks]⟩

end Sql

namespace Statement

/-- What a symbol of a spelling stands for. -/
def symbol (args : Array Value) : Char ⊕ Sql.Numeral → Except Error (Char ⊕ Value)
  | .inl c => .ok (.inl c)
  | .inr n => (argument args n.digits).map .inr

/-- The symbols that tokens stand for. -/
def readTokens (args : Array Value) (tokens : List Sql.Token) :
    Except Error (List (Char ⊕ Value)) :=
  (tokens.mapM (piece args)).map (List.flatMap Piece.symbols)

theorem readTokens_cons (args : Array Value) (token : Sql.Token) (tokens : List Sql.Token) :
    readTokens args (token :: tokens) =
      (piece args token).bind fun p => (readTokens args tokens).map (p.symbols ++ ·) := by
  rw [readTokens, readTokens, List.mapM_cons]
  cases piece args token with
  | error e => rfl
  | ok p => cases tokens.mapM (piece args) <;> rfl

/-- One more character of text in front of tokens. -/
theorem readTokens_extend (args : Array Value) (c : Char) (tokens : List Sql.Token) :
    readTokens args (Sql.Token.extend c tokens) =
      (readTokens args tokens).map (.inl c :: ·) := by
  have alone : readTokens args (.text [c] :: tokens) =
      (readTokens args tokens).map (.inl c :: ·) := by
    rw [readTokens_cons]
    simp [piece, Except.bind, Piece.symbols]
  cases tokens with
  | nil => exact alone
  | cons token tokens =>
    cases token with
    | placeholder digits => exact alone
    | text run =>
      rw [Sql.Token.extend, readTokens_cons, readTokens_cons]
      simp only [piece, Except.bind, Piece.symbols, String.toList_ofList, List.map_cons]
      cases readTokens args tokens <;> rfl

theorem readTokens_collect (args : Array Value) (xs : Sql.Spelling) :
    readTokens args (Sql.collect xs.marks) = xs.mapM (symbol args) := by
  induction xs with
  | nil => rfl
  | cons x xs ih =>
    cases x with
    | inl c =>
      rw [Sql.Spelling.marks, Sql.collect, readTokens_extend, ih, List.mapM_cons]
      cases xs.mapM (symbol args) <;> rfl
    | inr n =>
      rw [Sql.Spelling.marks, Sql.collect, Sql.collect_digits, readTokens_cons, ih, List.mapM_cons,
        piece, symbol]
      cases argument args n.digits with
      | error e => rfl
      | ok v => cases xs.mapM (symbol args) <;> rfl

/-- The fragment of a statement gathers what its tokens stand for. -/
theorem toFragment_eq (s : Statement) :
    s.toFragment = (readTokens s.args.toArray (Sql.tokens s.text)).map
      fun ss => ⟨Fragment.gather ss⟩ := by
  rw [toFragment, readTokens]
  cases (Sql.tokens s.text).mapM (piece s.args.toArray) with
  | error e => rfl
  | ok pieces => exact congrArg Except.ok (Fragment.ofPieces_eq_gather pieces)

/-- A statement is read symbol by symbol. -/
theorem toFragment_of_spelling {s : Statement} {xs : Sql.Spelling}
    (spelled : Sql.scan [] .code s.text.toList = xs.marks) :
    s.toFragment = (xs.mapM (symbol s.args.toArray)).map fun ss => ⟨Fragment.gather ss⟩ := by
  rw [toFragment_eq, Sql.tokens, spelled, readTokens_collect]

end Statement

end SqlBuilder
