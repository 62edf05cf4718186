import SqlBuilder.Fragment

/-!
# Fragments as sequences

A fragment is read through the sequence of its characters and parameters, `Fragment.symbols`.
The equations here give the symbols and the parameters of fragments put together; that empty
fragments are left out of a join makes no difference to its parameters. A fragment in canonical
form is determined by its symbols.
-/

namespace SqlBuilder.Fragment

@[simp] theorem symbols_empty : empty.symbols = [] := rfl

@[simp] theorem symbols_ofSql (sql : String) : (ofSql sql).symbols = sql.toList.map Sum.inl := by
  simp [ofSql, Piece.symbols]

@[simp] theorem symbols_ofValue (v : Value) : (ofValue v).symbols = [Sum.inr v] := by
  simp [ofValue, Piece.symbols]

@[simp] theorem symbols_push (f : Fragment) (sql : String) :
    (f.push sql).symbols = f.symbols ++ sql.toList.map Sum.inl := by
  simp [push]

@[simp] theorem symbols_parenthesized (f : Fragment) :
    f.parenthesized.symbols = [Sum.inl '('] ++ f.symbols ++ [Sum.inl ')'] := by
  simp [parenthesized]

@[simp] theorem symbols_headed (keyword : String) (f : Fragment) :
    (headed keyword f).symbols =
      keyword.toList.map Sum.inl ++ [Sum.inl ' '] ++ f.symbols := by
  simp [headed]

/-- The parameters are those among the symbols, in order. -/
theorem args_eq_symbols (f : Fragment) : f.args = f.symbols.filterMap Sum.getRight? := by
  obtain ⟨pieces⟩ := f
  induction pieces with
  | nil => rfl
  | cons piece rest ih =>
    simp only [args, symbols] at ih
    cases piece with
    | text s => simp [args, symbols, Piece.symbols, ih, List.filterMap_map, Function.comp_def]
    | param v => simp [args, symbols, Piece.symbols, ih]

/-- A fragment without pieces binds nothing. -/
theorem args_eq_nil_of_isEmpty {f : Fragment} (h : f.isEmpty) : f.args = [] := by
  obtain ⟨pieces⟩ := f
  cases pieces with
  | nil => rfl
  | cons piece rest => simp [isEmpty] at h

@[simp] theorem args_ofPieces (pieces : List Piece) :
    (ofPieces pieces).args = (Fragment.mk pieces).args := by
  rw [args_eq_symbols, args_eq_symbols, symbols_ofPieces]
  rfl

@[simp] theorem args_empty : empty.args = [] := rfl

@[simp] theorem args_ofSql (sql : String) : (ofSql sql).args = [] := by
  rw [ofSql, args_ofPieces]
  rfl

@[simp] theorem args_ofValue (v : Value) : (ofValue v).args = [v] := by
  rw [ofValue, args_ofPieces]
  rfl

@[simp] theorem args_append (f g : Fragment) : (f ++ g).args = f.args ++ g.args := by
  simp [args_eq_symbols]

@[simp] theorem args_push (f : Fragment) (sql : String) : (f.push sql).args = f.args := by
  simp [push]

@[simp] theorem args_parenthesized (f : Fragment) : f.parenthesized.args = f.args := by
  simp [parenthesized]

@[simp] theorem args_headed (keyword : String) (f : Fragment) :
    (headed keyword f).args = f.args := by
  simp [headed]

@[simp] theorem args_headedUnlessEmpty (keyword : String) (f : Fragment) :
    (headedUnlessEmpty keyword f).args = f.args := by
  unfold headedUnlessEmpty
  split
  · rename_i h
    rw [args_eq_nil_of_isEmpty h, args_empty]
  · exact args_headed keyword f

/-- Fragments bind their arguments one after the other. -/
@[simp] theorem args_concat (fs : List Fragment) : (concat fs).args = fs.flatMap args := by
  induction fs with
  | nil => rfl
  | cons f fs ih => simpa [args_eq_symbols] using ih

/-- What stands between fragments has no parameters. -/
theorem flatMap_args_intersperse (fs : List Fragment) (separator : String) :
    (fs.intersperse (ofSql separator)).flatMap args = fs.flatMap args := by
  induction fs with
  | nil => rfl
  | cons f fs ih =>
    cases fs with
    | nil => rfl
    | cons f' fs => simpa using ih

@[simp] theorem args_join (fs : List Fragment) (separator : String) :
    (join fs separator).args = fs.flatMap args := by
  have filtered : (fs.filter fun f => !f.isEmpty).flatMap args = fs.flatMap args := by
    induction fs with
    | nil => rfl
    | cons f fs ih =>
      by_cases h : f.isEmpty
      · simp [h, ih, args_eq_nil_of_isEmpty h]
      · simp [h, ih]
  rw [join, args_concat, flatMap_args_intersperse, filtered]

/-- The pieces of a sequence of symbols, with each run of characters made one piece. -/
def gather : List (Char ⊕ Value) → List Piece
  | [] => []
  | .inl c :: rest =>
    match gather rest with
    | .text s :: pieces => .text (String.ofList (c :: s.toList)) :: pieces
    | pieces => .text (String.ofList [c]) :: pieces
  | .inr v :: rest => .param v :: gather rest

/-- A run of characters that ends at a parameter or at the end becomes one piece. -/
theorem gather_run (cs : List Char) (rest : List (Char ⊕ Value))
    (ends : ∀ c, rest.head? ≠ some (Sum.inl c)) :
    gather (cs.map Sum.inl ++ rest) = consText (String.ofList cs) (gather rest) := by
  have behind : ∀ s pieces, gather rest ≠ .text s :: pieces := by
    intro s pieces
    cases rest with
    | nil => simp [gather]
    | cons x rest =>
      cases x with
      | inl c => exact absurd rfl (ends c)
      | inr v => simp [gather]
  induction cs with
  | nil => rfl
  | cons c cs ih =>
    rw [List.map_cons, List.cons_append, gather, ih]
    cases cs with
    | nil =>
      have nothing : consText (String.ofList []) (gather rest) = gather rest := rfl
      rw [nothing]
      split
      · exact absurd ‹_› (behind _ _)
      · simp [consText]
    | cons d cs => simp [consText]

/-- Merging gathers the characters of neighbouring texts, from the run at hand on. -/
theorem merge_eq_gather (run : String) (pieces : List Piece) :
    merge run pieces = gather (run.toList.map Sum.inl ++ pieces.flatMap Piece.symbols) := by
  fun_induction merge run pieces with
  | case1 run => simpa [gather] using (gather_run run.toList [] (by simp)).symm
  | case2 run s rest ih => simp [ih, Piece.symbols]
  | case3 run v rest ih =>
    rw [ih]
    simpa [Piece.symbols, gather] using
      (gather_run run.toList (Sum.inr v :: rest.flatMap Piece.symbols) (by simp)).symm

/-- The canonical form depends on the symbols alone. -/
theorem ofPieces_eq_gather (pieces : List Piece) :
    ofPieces pieces = ⟨gather (pieces.flatMap Piece.symbols)⟩ := by
  rw [ofPieces, merge_eq_gather]
  rfl

/-- Empty text is left out and text runs into text. -/
def Canonical (f : Fragment) : Prop := f = ⟨gather f.symbols⟩

/-- Merging neighbouring texts gives the canonical form. -/
theorem canonical_ofPieces (pieces : List Piece) : (ofPieces pieces).Canonical := by
  rw [Canonical, symbols_ofPieces, ofPieces_eq_gather]

/-- Canonical fragments with the same symbols are the same. -/
theorem Canonical.eq_of_symbols {f g : Fragment} (hf : f.Canonical) (hg : g.Canonical)
    (h : f.symbols = g.symbols) : f = g := by
  rw [hf, hg, h]

end SqlBuilder.Fragment
