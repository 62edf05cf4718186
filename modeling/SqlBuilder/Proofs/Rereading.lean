import SqlBuilder.Proofs.Reading
import SqlBuilder.Proofs.Sql.Respelling

/-!
# Reading a statement and writing it again

A statement that is read loses nothing: with the digits that its placeholders had, the fragment
is written as the text that it was read from, and its parameters are the arguments that the
digits point at. Written with numbers of its own it is a statement that reads as the same
fragment, however many digits come or go (`Statement.toFragment_reread`).
-/

namespace SqlBuilder

namespace Sql

/-- The digits of a token that is a placeholder. -/
def Token.digits? : Token → Option (List Char)
  | .placeholder digits => some digits
  | .text _ => none

/-- The characters that a token stands for in the text. -/
def Token.chars : Token → List Char
  | .text run => run
  | .placeholder digits => '$' :: digits

namespace Spelling

theorem flatMap_chars_collect (xs : Spelling) :
    (collect xs.marks).flatMap Token.chars = xs.text := by
  induction xs with
  | nil => rfl
  | cons x xs ih =>
    cases x with
    | inl c =>
      rw [marks, collect, flatMap_extend fun _ _ => rfl, ih]
      rfl
    | inr n =>
      rw [marks, collect, collect_digits, List.flatMap_cons, ih, text_numeral]
      rfl

theorem filterMap_digits_collect (xs : Spelling) :
    (collect xs.marks).filterMap Token.digits? = xs.numerals.map Numeral.digits := by
  induction xs with
  | nil => rfl
  | cons x xs ih =>
    cases x with
    | inl c =>
      rw [marks, collect, filterMap_extend fun _ => rfl, ih]
      rfl
    | inr n =>
      rw [marks, collect, collect_digits, List.filterMap_cons, ih]
      rfl

end Spelling

/-- The spelling that the scanner finds in a text. -/
theorem exists_spelling_of_text (sql : String) :
    ∃ xs : Spelling, scan [] .code sql.toList = xs.marks ∧ xs.text = sql.toList := by
  obtain ⟨xs, spelled⟩ := exists_spelling [] sql.toList (rfl : Inside.code.isNumber = false)
  exact ⟨xs, spelled, by rw [Spelling.text, ← spelled, scan_fst]⟩

end Sql

namespace Fragment

/-- Pieces written with the given digits for their parameters, in order. -/
def writeWith : (digits : List (List Char)) → List Piece → String
  | _, [] => ""
  | digits, .text s :: rest => s ++ writeWith digits rest
  | digits, .param _ :: rest =>
    "$" ++ String.ofList (digits.headD []) ++ writeWith digits.tail rest

/-- Written with the numerals of a matching spelling, pieces are the spelled text. -/
theorem toList_writeWith {R : Sql.Numeral → Value → Prop} {xs : Sql.Spelling}
    {pieces : List Piece} (h : Sql.Matching R xs (pieces.flatMap Piece.symbols)) :
    (writeWith (xs.numerals.map Sql.Numeral.digits) pieces).toList = xs.text := by
  induction pieces generalizing xs with
  | nil =>
    cases h
    rfl
  | cons piece pieces ih =>
    rw [List.flatMap_cons] at h
    cases piece with
    | text s =>
      obtain ⟨xs', rfl, rest⟩ := h.split_right
      have numerals : Sql.Spelling.numerals (s.toList.map Sum.inl ++ xs') =
          Sql.Spelling.numerals xs' := by simp [Sql.Spelling.numerals, List.filterMap_map]
      rw [writeWith, String.toList_append, numerals, ih rest, Sql.Spelling.text_append,
        Sql.Spelling.text_chars]
    | param v =>
      cases h with
      | cons head rest =>
        cases head with
        | @inr n _ _ =>
          simp [writeWith, Sql.Spelling.numerals, ← ih rest]

theorem text_spelling (next : Nat) (symbols : List (Char ⊕ Value)) :
    (spelling next symbols).text = numbered next symbols := by
  rw [Sql.Spelling.text, marks_spelling, numbered]

theorem matching_spelling (next : Nat) (symbols : List (Char ⊕ Value)) :
    Sql.Matching (fun _ _ => True) symbols (spelling next symbols) := by
  induction symbols generalizing next with
  | nil => exact .nil
  | cons s symbols ih =>
    cases s with
    | inl c => exact .cons (.inl rfl) (ih next)
    | inr v => exact .cons (.inr trivial) (ih (next + 1))

@[simp] theorem symbols_gather (ss : List (Char ⊕ Value)) :
    (Fragment.mk (gather ss)).symbols = ss := by
  rw [symbols]
  fun_induction gather ss with
  | case1 => rfl
  | case2 c rest s pieces found ih =>
    rw [found] at ih
    simp [Piece.symbols, ← ih]
  | case3 c rest _ ih => simp [Piece.symbols, ih]
  | case4 v rest ih => rw [List.flatMap_cons, ih]; rfl

end Fragment

namespace Statement

/-- The digits of the placeholders that the scanner finds, in the order of the text. -/
def placeholders (s : Statement) : List (List Char) :=
  (Sql.tokens s.text).filterMap Sql.Token.digits?

/-- The number of a placeholder is zero, or there are fewer arguments, or no word holds it. -/
def Dangling (s : Statement) (digits : List Char) : Prop :=
  Text.digitsValue digits = 0 ∨ s.args.length < Text.digitsValue digits ∨
    Text.wordLimit ≤ Text.digitsValue digits

theorem placeholders_eq {s : Statement} {xs : Sql.Spelling}
    (spelled : Sql.scan [] .code s.text.toList = xs.marks) :
    s.placeholders = xs.numerals.map Sql.Numeral.digits := by
  rw [placeholders, Sql.tokens, spelled, Sql.Spelling.filterMap_digits_collect]

/-- The argument of a placeholder, if it does not dangle. -/
theorem argument_cases (s : Statement) (digits : List Char) :
    (s.Dangling digits ∧ ∃ fault, argument s.args.toArray digits = .error (.arity fault)) ∨
    (¬ s.Dangling digits ∧ ∃ v, s.args[Text.digitsValue digits - 1]? = some v ∧
      argument s.args.toArray digits = .ok v) := by
  simp only [argument, Dangling, List.getElem?_toArray]
  generalize Text.digitsValue digits = n
  by_cases limit : Text.wordLimit ≤ n
  · exact .inl ⟨.inr (.inr limit), by simp [limit]⟩
  · cases n with
    | zero => exact .inl ⟨.inl rfl, by simp [limit]⟩
    | succ n =>
      cases found : s.args[n]? with
      | none =>
        have few := List.getElem?_eq_none_iff.1 found
        exact .inl ⟨.inr (.inl (by omega)), by simp [limit, found]⟩
      | some v =>
        have enough := (List.getElem?_eq_some_iff.1 found).1
        exact .inr ⟨by omega, v, by simpa using found, by simp [limit, found]⟩

theorem isOk_symbol_iff (s : Statement) (x : Char ⊕ Sql.Numeral) :
    (symbol s.args.toArray x).isOk ↔ ∀ n, x = .inr n → ¬ s.Dangling n.digits := by
  cases x with
  | inl c => exact iff_of_true rfl nofun
  | inr n =>
    rw [symbol, isOk_map]
    rcases s.argument_cases n.digits with ⟨dangling, fault, read⟩ | ⟨bound, v, -, read⟩
    · rw [read]
      exact iff_of_false Bool.false_ne_true fun h => h n rfl dangling
    · rw [read]
      refine iff_of_true rfl fun m same => ?_
      cases same
      exact bound

theorem failsWith_symbol (s : Statement) (x : Char ⊕ Sql.Numeral) :
    FailsWith (fun e => ∃ fault, e = .arity fault) (symbol s.args.toArray x) := by
  cases x with
  | inl c => exact .ok _
  | inr n =>
    refine FailsWith.map ?_ Sum.inr
    rcases s.argument_cases n.digits with ⟨-, fault, read⟩ | ⟨-, v, -, read⟩
    · exact read ▸ .error ⟨fault, rfl⟩
    · exact read ▸ .ok v

/-- A fragment that is read matches the spelling of the text. -/
theorem matching_of_toFragment {s : Statement} {f : Fragment} {xs : Sql.Spelling}
    (spelled : Sql.scan [] .code s.text.toList = xs.marks) (read : s.toFragment = .ok f) :
    f.Canonical ∧
      Sql.Matching (fun n v => s.args[Text.digitsValue n.digits - 1]? = some v) xs f.symbols := by
  rw [toFragment_of_spelling spelled] at read
  obtain ⟨ss, symbols, rfl⟩ := map_eq_ok read
  refine ⟨by rw [Fragment.Canonical, Fragment.symbols_gather], ?_⟩
  rw [Fragment.symbols_gather]
  refine (mapM_eq_ok_iff.1 symbols).imp fun x y found => ?_
  cases x with
  | inl c =>
    cases found
    exact .inl rfl
  | inr n =>
    obtain ⟨v, ok, rfl⟩ := map_eq_ok found
    rcases s.argument_cases n.digits with ⟨-, fault, error⟩ | ⟨-, w, supplied, ok'⟩
    · rw [ok] at error
      cases error
    · rw [ok] at ok'
      cases ok'
      exact .inr supplied

/-- What is written with fresh numbers reads as it was meant, since what it was read from did. -/
theorem legible_of_matching {R : Sql.Numeral → Value → Prop} {text : List Char}
    {xs : Sql.Spelling} {f : Fragment} (spelled : Sql.scan [] .code text = xs.marks)
    (matching : Sql.Matching R xs f.symbols) : f.Legible := by
  have text : xs.text = text := by rw [Sql.Spelling.text, ← spelled, Sql.scan_fst]
  have renumbered : Sql.Respelled xs (Fragment.spelling 1 f.symbols) :=
    matching.trans (Fragment.matching_spelling 1 f.symbols) fun _ _ _ _ _ => trivial
  have scanned := renumbered.scan_eq ⟨rfl, rfl⟩ rfl (text ▸ spelled)
  rw [Fragment.legible_iff, Fragment.toList_toSql, ← Fragment.text_spelling, scanned,
    Fragment.marks_spelling]

/-- There are no more placeholders than characters. -/
theorem length_numerals_le (xs : Sql.Spelling) : xs.numerals.length ≤ xs.text.length := by
  induction xs with
  | nil => exact Nat.le_refl 0
  | cons x xs ih =>
    cases x with
    | inl c => exact Nat.le_succ_of_le ih
    | inr n =>
      rw [Sql.Spelling.text_numeral, List.length_cons, List.length_append]
      exact Nat.succ_le_succ (Nat.le_trans ih (Nat.le_add_left _ _))

/-- A statement is readable if none of its placeholders dangles. -/
theorem isOk_toFragment_iff (s : Statement) :
    s.toFragment.isOk ↔ ∀ digits ∈ s.placeholders, ¬ s.Dangling digits := by
  obtain ⟨xs, spelled, -⟩ := Sql.exists_spelling_of_text s.text
  rw [toFragment_of_spelling spelled, isOk_map, isOk_mapM_iff, placeholders_eq spelled]
  simp only [isOk_symbol_iff, Sql.Spelling.numerals, List.forall_mem_map, List.mem_filterMap]
  refine ⟨fun h n ⟨x, hx, same⟩ => ?_, fun h x hx n same => ?_⟩
  · exact h x hx n (Sum.getRight?_eq_some_iff.1 same)
  · exact h n ⟨x, hx, Sum.getRight?_eq_some_iff.2 same⟩

/-- Reading a statement loses nothing, and what was read is read again from what it is written
as. Every stretch that the scanner passes over ends within the text, and the tokens are the text
cut into pieces. Reading fails for counts alone, and exactly if a placeholder dangles. Otherwise
the fragment is the text again when its parameters are written with the digits that they had,
each parameter is the argument that its digits point at, and the statement of the fragment reads
as the fragment; a text has fewer placeholders than a word can count. -/
theorem toFragment_reread (s : Statement) :
    (∀ before c after, s.text.toList = before ++ c :: after →
      (Sql.opening before.reverse c after).2.left ≤ after.length) ∧
    (Sql.tokens s.text).flatMap Sql.Token.chars = s.text.toList ∧
    FailsWith (fun e => ∃ fault, e = .arity fault) s.toFragment ∧
    (s.toFragment.isOk = false ↔ ∃ digits ∈ s.placeholders, s.Dangling digits) ∧
    Ensures s.toFragment fun f =>
      Fragment.writeWith s.placeholders f.pieces = s.text ∧
      List.Forall₂ (fun v digits => s.args[Text.digitsValue digits - 1]? = some v)
        f.args s.placeholders ∧
      (s.text.length < Text.wordLimit → f.toStatement.toFragment = .ok f) := by
  obtain ⟨xs, spelled, text⟩ := Sql.exists_spelling_of_text s.text
  refine ⟨fun before c after _ => Sql.opening_left_le _ c after, ?_, ?_, ?_, fun f read => ?_⟩
  · rw [Sql.tokens, spelled, Sql.Spelling.flatMap_chars_collect, text]
  · rw [toFragment_of_spelling spelled]
    exact (FailsWith.mapM fun x _ => s.failsWith_symbol x).map _
  · rw [Bool.eq_false_iff, ne_eq, isOk_toFragment_iff]
    simp only [not_forall, not_not, exists_prop]
  · obtain ⟨canonical, matching⟩ := matching_of_toFragment spelled read
    have params := matching.params
    rw [← Fragment.args_eq_symbols] at params
    rw [placeholders_eq spelled]
    refine ⟨?_, List.forall₂_map_right_iff.2 params.flip, fun fits => ?_⟩
    · rw [← String.toList_inj, Fragment.toList_writeWith matching, text]
    · refine (legible_of_matching spelled matching).toFragment canonical ?_
      rw [← params.length_eq]
      refine Nat.lt_of_le_of_lt (length_numerals_le xs) ?_
      rw [text, String.length_toList]
      exact fits

/-- A text that has no use for its first argument and two for its second one. -/
def cheapSelect : Statement := ⟨"select '$1', $2 where price < $2", [.null, .int 7]⟩

theorem toFragment_reread_cheap :
    ∃ f, cheapSelect.toFragment = .ok f ∧ f.toSql = "select '$1', $1 where price < $2" ∧
      Fragment.writeWith cheapSelect.placeholders f.pieces = cheapSelect.text ∧
      f.toStatement.toFragment = .ok f := by
  have written : ∃ f, cheapSelect.toFragment = .ok f ∧
      f.toSql = "select '$1', $1 where price < $2" := ⟨_, rfl, by decide +kernel⟩
  obtain ⟨f, read, sql⟩ := written
  obtain ⟨-, -, -, -, reread⟩ := toFragment_reread cheapSelect
  obtain ⟨same, -, stable⟩ := reread f read
  exact ⟨f, read, sql, same, stable (by decide +kernel)⟩

end Statement

end SqlBuilder
