import SqlBuilder.Value

/-!
# Fragments

A `Fragment` is a stretch of SQL as runs of text and parameters. No placeholder number is part
of it: numbers are given once, when a finished fragment is written out, so fragments built
independently can be appended freely.

Fragments are canonical: `Fragment.ofPieces` drops empty text and merges neighbouring runs, and
every other operation is built from it. It goes through the pieces once, so long statements are
collected first and merged in one pass by `Fragment.concat`. `Fragment.symbols` is the view as
one sequence of characters and parameters.
-/

namespace SqlBuilder

/-- A run of text or one parameter. -/
inductive Piece
  | text (s : String)
  | param (v : Value)

namespace Piece

/-- Equality of pieces, parameters as values. -/
protected def beq : Piece → Piece → Bool
  | .text a, .text b => a == b
  | .param a, .param b => a == b
  | _, _ => false

instance : BEq Piece := ⟨Piece.beq⟩

/-- The characters of a piece, or its parameter. -/
def symbols : Piece → List (Char ⊕ Value)
  | .text s => s.toList.map Sum.inl
  | .param v => [Sum.inr v]

end Piece

/-- SQL text with parameters in it. -/
structure Fragment where
  pieces : List Piece

namespace Fragment

/-- The fragment without any piece. -/
def empty : Fragment := ⟨[]⟩

instance : Inhabited Fragment := ⟨empty⟩

instance : BEq Fragment := ⟨fun f g => f.pieces == g.pieces⟩

/-- Puts text in front of pieces that do not begin with text; empty text vanishes. -/
def consText (s : String) (pieces : List Piece) : List Piece :=
  if s.isEmpty then pieces else .text s :: pieces

/-- The pieces behind a run of text that has begun, with each run of text made one piece. -/
def merge : (run : String) → List Piece → List Piece
  | run, [] => consText run []
  | run, .text s :: rest => merge (run ++ s) rest
  | run, .param v :: rest => consText run (.param v :: merge "" rest)

/-- The fragment with the given pieces; empty text vanishes and text runs into text. -/
def ofPieces (pieces : List Piece) : Fragment := ⟨merge "" pieces⟩

/-- One fragment after the other. -/
protected def append (f g : Fragment) : Fragment := ofPieces (f.pieces ++ g.pieces)

instance : Append Fragment := ⟨Fragment.append⟩

/-- A fragment of text alone. -/
def ofSql (sql : String) : Fragment := ofPieces [.text sql]

/-- A fragment of one parameter. -/
def ofValue (v : Value) : Fragment := ofPieces [.param v]

/-- Adds text at the end. -/
def push (f : Fragment) (sql : String) : Fragment := f ++ ofSql sql

/-- Adds a parameter at the end. -/
def pushValue (f : Fragment) (v : Value) : Fragment := f ++ ofValue v

/-- The fragment between parentheses. -/
def parenthesized (f : Fragment) : Fragment := ofSql "(" ++ f ++ ofSql ")"

/-- Whether nothing would be written. -/
def isEmpty (f : Fragment) : Bool := f.pieces.isEmpty

/-- A body behind its keyword. -/
def headed (keyword : String) (body : Fragment) : Fragment := ofSql (keyword ++ " ") ++ body

/-- A body behind its keyword, or nothing if there is no body. -/
def headedUnlessEmpty (keyword : String) (body : Fragment) : Fragment :=
  if body.isEmpty then empty else headed keyword body

/-- Fragments one after the other. -/
def concat (fs : List Fragment) : Fragment := ofPieces (fs.flatMap pieces)

/-- The fragments that are not empty, with a separator between them. -/
def join (fs : List Fragment) (separator : String) : Fragment :=
  concat ((fs.filter fun f => !f.isEmpty).intersperse (ofSql separator))

/-- The parameters in order. -/
def args (f : Fragment) : List Value :=
  f.pieces.filterMap fun
    | .param v => some v
    | .text _ => none

/-- Writes pieces behind the text written so far; the first parameter has the number `next`. -/
def write : (written : String) → (next : Nat) → List Piece → String
  | written, _, [] => written
  | written, next, .text s :: rest => write (written ++ s) next rest
  | written, next, .param _ :: rest => write (written ++ "$" ++ Nat.repr next) (next + 1) rest

/-- The SQL text with placeholders numbered from `$1`. -/
def toSql (f : Fragment) : String := write "" 1 f.pieces

/-- The sequence of characters and parameters. -/
def symbols (f : Fragment) : List (Char ⊕ Value) := f.pieces.flatMap Piece.symbols

theorem flatMap_symbols_consText (s : String) (pieces : List Piece) :
    (consText s pieces).flatMap Piece.symbols =
      (Piece.text s).symbols ++ pieces.flatMap Piece.symbols := by
  by_cases h : s = ""
  · simp [consText, h, Piece.symbols]
  · simp [consText, h]

theorem flatMap_symbols_merge (run : String) (pieces : List Piece) :
    (merge run pieces).flatMap Piece.symbols =
      (Piece.text run).symbols ++ pieces.flatMap Piece.symbols := by
  fun_induction merge run pieces with
  | case1 run => exact flatMap_symbols_consText run []
  | case2 run s rest ih => simp [ih, Piece.symbols]
  | case3 run v rest ih => simp [flatMap_symbols_consText, ih, Piece.symbols]

@[simp] theorem symbols_ofPieces (pieces : List Piece) :
    (ofPieces pieces).symbols = pieces.flatMap Piece.symbols := by
  simp [ofPieces, symbols, flatMap_symbols_merge, Piece.symbols]

@[simp] theorem symbols_append (f g : Fragment) : (f ++ g).symbols = f.symbols ++ g.symbols := by
  rw [show f ++ g = ofPieces (f.pieces ++ g.pieces) from rfl, symbols_ofPieces]
  exact List.flatMap_append

@[simp] theorem symbols_concat (fs : List Fragment) :
    (concat fs).symbols = fs.flatMap symbols := by
  rw [concat, symbols_ofPieces, List.flatMap_assoc]
  rfl

theorem write_eq (written : String) (next : Nat) (pieces : List Piece) :
    write written next pieces = written ++ write "" next pieces := by
  induction pieces generalizing written next with
  | nil => simp [write]
  | cons piece rest ih =>
    cases piece with
    | text s => rw [write, write, ih (written ++ s), ih ("" ++ s)]; simp [String.append_assoc]
    | param v =>
      rw [write, write, ih (written ++ "$" ++ _), ih ("" ++ "$" ++ _)]
      simp [String.append_assoc]

end Fragment

end SqlBuilder
