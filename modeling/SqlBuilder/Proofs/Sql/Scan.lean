import Mathlib.Tactic.SplitIfs
import SqlBuilder.Sql.Token

/-!
# The scanner step by step

`Sql.step` is what the scanner does at one character, and `Sql.reach` is what it is inside of
once it has passed some text. A scan of two texts is the scan of the first and then the scan of
the second from the state that was reached.
-/

namespace SqlBuilder.Sql

/-- The role of one character, and what the scanner is inside of behind it. -/
def step (before : List Char) (inside : Inside) (c : Char) (after : List Char) : Role × Inside :=
  match inside with
  | .region (left + 1) => (.text, .region left)
  | .number (left + 1) => (.digit, .number left)
  | _ => opening before c after

/-- What the scanner is inside of once it has passed the first text and the second one is
ahead. -/
def reach (before : List Char) (inside : Inside) : (passed ahead : List Char) → Inside
  | [], _ => inside
  | c :: passed, ahead =>
    reach (c :: before) (step before inside c (passed ++ ahead)).2 passed ahead

/-- What the scanner is inside of when it meets a position of a text. -/
def insideAt (sql : List Char) (position : Nat) : Inside :=
  reach [] .code (sql.take position) (sql.drop position)

namespace Inside

/-- Inside of a quoted stretch, a comment or a dollar-quoted body. -/
def isProtected : Inside → Bool
  | .region (_ + 1) => true
  | _ => false

/-- Between the digits of a placeholder. -/
def isNumber : Inside → Bool
  | .number (_ + 1) => true
  | _ => false

end Inside

theorem scan_cons (before : List Char) (inside : Inside) (c : Char) (rest : List Char) :
    scan before inside (c :: rest) = (c, (step before inside c rest).1) ::
      scan (c :: before) (step before inside c rest).2 rest := by
  match inside with
  | .code => rfl
  | .region 0 => rfl
  | .region (left + 1) => rfl
  | .number 0 => rfl
  | .number (left + 1) => rfl

/-- Outside of every region and number the next character may open one. -/
theorem step_code {inside : Inside} (region : inside.isProtected = false)
    (number : inside.isNumber = false) (before : List Char) (c : Char) (after : List Char) :
    step before inside c after = opening before c after := by
  match inside with
  | .code => rfl
  | .region 0 => rfl
  | .region (left + 1) => cases region
  | .number 0 => rfl
  | .number (left + 1) => cases number

theorem step_protected {inside : Inside} (region : inside.isProtected) (before : List Char)
    (c : Char) (after : List Char) :
    (step before inside c after).1 = .text ∧
      (step before inside c after).2.isNumber = false := by
  match inside with
  | .code => cases region
  | .region 0 => cases region
  | .region (left + 1) => exact ⟨rfl, rfl⟩
  | .number 0 => cases region
  | .number (left + 1) => cases region

theorem step_number {inside : Inside} (number : inside.isNumber) (before : List Char) (c : Char)
    (after : List Char) : (step before inside c after).1 = .digit := by
  match inside with
  | .code => cases number
  | .region 0 => cases number
  | .region (left + 1) => cases number
  | .number 0 => cases number
  | .number (left + 1) => rfl

/-- What opens at a character, by the character and what is behind it. -/
inductive OpensAt (before : List Char) : (c : Char) → (after : List Char) → Role × Inside → Prop
  | literal (after : List Char) :
      OpensAt before '\'' after (.text, .region (quotedLength '\'' (opensEscapes before) after))
  | name (after : List Char) :
      OpensAt before '"' after (.text, .region (quotedLength '"' false after))
  | line {after : List Char} (dash : after.head? = some '-') :
      OpensAt before '-' after (.text, .region (lineLength after))
  | block {after : List Char} (star : after.head? = some '*') :
      OpensAt before '/' after (.text, .region (1 + blockLength 0 (after.drop 1)))
  | ident {after : List Char} (continues : before.head?.any continuesIdent) :
      OpensAt before '$' after (.text, .code)
  | dollar {after : List Char} (free : before.head?.any continuesIdent = false)
      (digits : after.takeWhile Char.isDigit = []) :
      OpensAt before '$' after (.text, .region ((dollarQuotedLength? after).getD 0))
  | number {after : List Char} (free : before.head?.any continuesIdent = false)
      (digits : after.takeWhile Char.isDigit ≠ []) :
      OpensAt before '$' after (.placeholder (after.takeWhile Char.isDigit),
        .number (after.takeWhile Char.isDigit).length)
  | text {c : Char} {after : List Char} (quote : c ≠ '\'') (name : c ≠ '"')
      (line : ¬ (c = '-' ∧ after.head? = some '-')) (block : ¬ (c = '/' ∧ after.head? = some '*'))
      (dollar : c ≠ '$') : OpensAt before c after (.text, .code)

theorem opensAt (before : List Char) (c : Char) (after : List Char) :
    OpensAt before c after (opening before c after) := by
  unfold opening
  split_ifs with quote name line block dollar ident
  · obtain rfl := eq_of_beq quote
    exact .literal after
  · obtain rfl := eq_of_beq name
    exact .name after
  · simp only [Bool.and_eq_true, beq_iff_eq] at line
    obtain ⟨rfl, dash⟩ := line
    exact .line dash
  · simp only [Bool.and_eq_true, beq_iff_eq] at block
    obtain ⟨rfl, star⟩ := block
    exact .block star
  · obtain rfl := eq_of_beq dollar
    exact .ident ident
  · obtain rfl := eq_of_beq dollar
    have free := Bool.eq_false_iff.2 ident
    simp only
    split_ifs with digits
    · exact .dollar free (List.isEmpty_iff.1 digits)
    · exact .number free fun none => digits (List.isEmpty_iff.2 none)
  · simp only [Bool.and_eq_true, beq_iff_eq] at quote name line block dollar
    exact .text quote name line block dollar

/-- What opens is determined by the character and its surroundings. -/
theorem OpensAt.eq {before : List Char} {c : Char} {after : List Char} {opened : Role × Inside}
    (h : OpensAt before c after opened) : opening before c after = opened := by
  cases h with
  | literal => rfl
  | name => rfl
  | line dash => simp [opening, dash]
  | block star => simp [opening, star]
  | ident continues => simp [opening, continues]
  | dollar free digits => simp [opening, free, digits]
  | number free digits => simp [opening, free, digits]
  | text quote name line block dollar => simp [opening, quote, name, line, block, dollar]
/-- A character is text, or it is the dollar sign of a placeholder. -/
theorem opening_cases (before : List Char) (c : Char) (after : List Char) :
    ((opening before c after).1 = .text ∧ (opening before c after).2.isNumber = false ∧
      (c = '$' → before.head?.any continuesIdent ∨ after.takeWhile Char.isDigit = [])) ∨
    (c = '$' ∧ before.head?.any continuesIdent = false ∧ after.takeWhile Char.isDigit ≠ [] ∧
      opening before c after = (.placeholder (after.takeWhile Char.isDigit),
        .number (after.takeWhile Char.isDigit).length)) := by
  have opens := opensAt before c after
  generalize opening before c after = opened at opens
  cases opens with
  | literal => exact .inl ⟨rfl, rfl, nofun⟩
  | name => exact .inl ⟨rfl, rfl, nofun⟩
  | line => exact .inl ⟨rfl, rfl, nofun⟩
  | block => exact .inl ⟨rfl, by simp [Inside.isNumber], nofun⟩
  | ident continues => exact .inl ⟨rfl, rfl, fun _ => .inl continues⟩
  | dollar _ digits =>
    refine .inl ⟨rfl, rfl, fun _ => .inr digits⟩
  | number free digits => exact .inr ⟨rfl, free, digits, rfl⟩
  | text _ _ _ _ dollar => exact .inl ⟨rfl, rfl, fun h => absurd h dollar⟩

theorem reach_append (before : List Char) (inside : Inside) (passed passed' ahead : List Char) :
    reach before inside (passed ++ passed') ahead =
      reach (passed.reverse ++ before) (reach before inside passed (passed' ++ ahead)) passed'
        ahead := by
  induction passed generalizing before inside with
  | nil => rfl
  | cons c passed ih => simp [reach, ih]

/-- The scan goes on from where the passed text left it. -/
theorem drop_scan (before : List Char) (inside : Inside) (passed ahead : List Char) :
    (scan before inside (passed ++ ahead)).drop passed.length =
      scan (passed.reverse ++ before) (reach before inside passed ahead) ahead := by
  induction passed generalizing before inside with
  | nil => rfl
  | cons c passed ih => simp [scan_cons, reach, ih]

/-- A region that the scanner is inside of. -/
theorem scan_region (before passed rest : List Char) :
    scan before (.region passed.length) (passed ++ rest) =
      passed.map (·, Role.text) ++ scan (passed.reverse ++ before) (.region 0) rest := by
  induction passed generalizing before with
  | nil => rfl
  | cons c passed ih =>
    rw [List.cons_append, scan_cons]
    simp only [List.length_cons, step, ih, List.map_cons, List.cons_append, List.reverse_cons,
      List.append_assoc, List.nil_append]

/-- The digits of a placeholder. -/
theorem scan_number (before digits rest : List Char) :
    scan before (.number digits.length) (digits ++ rest) =
      digits.map (·, Role.digit) ++ scan (digits.reverse ++ before) (.number 0) rest := by
  induction digits generalizing before with
  | nil => rfl
  | cons d digits ih =>
    rw [List.cons_append, scan_cons]
    simp only [List.length_cons, step, ih, List.map_cons, List.cons_append, List.reverse_cons,
      List.append_assoc, List.nil_append]

theorem scan_number_zero (before text : List Char) :
    scan before (.number 0) text = scan before .code text := by
  cases text <;> rfl

/-- Behind digits an identifier may go on. -/
theorem continuesIdent_behind {digits : List Char} (nonempty : digits ≠ [])
    (h : ∀ d ∈ digits, d.isDigit) (before : List Char) :
    (digits.reverse ++ before).head?.any continuesIdent := by
  cases last : digits.reverse with
  | nil => exact absurd (List.reverse_eq_nil_iff.1 last) nonempty
  | cons d ds =>
    have digit : d.isDigit := h d (by
      rw [← List.mem_reverse, last]
      exact List.mem_cons_self)
    simp [continuesIdent, Char.isAlphanum, digit]

/-- What is read off tokens when a character of text comes in front of them. -/
theorem flatMap_extend {α : Type} {f : Token → List α}
    (run : ∀ c cs, f (.text (c :: cs)) = f (.text [c]) ++ f (.text cs)) (c : Char)
    (tokens : List Token) :
    (Token.extend c tokens).flatMap f = f (.text [c]) ++ tokens.flatMap f := by
  cases tokens with
  | nil => rfl
  | cons token tokens =>
    cases token with
    | placeholder digits => rfl
    | text cs => rw [Token.extend, List.flatMap_cons, List.flatMap_cons, run, List.append_assoc]

theorem filterMap_extend {α : Type} {f : Token → Option α} (text : ∀ run, f (.text run) = none)
    (c : Char) (tokens : List Token) :
    (Token.extend c tokens).filterMap f = tokens.filterMap f := by
  cases tokens with
  | nil => simp [Token.extend, text]
  | cons token tokens => cases token <;> simp [Token.extend, text]

theorem exists_run (p : Char → Bool) (text : List Char) :
    ∃ run rest, text = run ++ rest ∧ (∀ c ∈ run, p c) ∧ rest.head?.any p = false := by
  refine ⟨text.takeWhile p, text.dropWhile p, List.takeWhile_append_dropWhile.symm,
    List.all_eq_true.1 List.all_takeWhile, ?_⟩
  have none := List.head?_dropWhile_not p text
  cases head : (text.dropWhile p).head? with
  | none => rfl
  | some d => simpa [head] using none

/-- A run of characters that ends where it has to. -/
theorem takeWhile_run {p : Char → Bool} {run rest : List Char} (all : ∀ c ∈ run, p c)
    (ends : rest.head?.any p = false) : (run ++ rest).takeWhile p = run := by
  rw [List.takeWhile_append_of_pos all]
  cases rest with
  | nil => simp
  | cons c rest => simp at ends; simp [ends]

theorem run_unique {p : Char → Bool} {run rest run' rest' : List Char} (all : ∀ c ∈ run, p c)
    (ends : rest.head?.any p = false) (all' : ∀ c ∈ run', p c)
    (ends' : rest'.head?.any p = false) (same : run ++ rest = run' ++ rest') :
    run = run' ∧ rest = rest' := by
  have runs := congrArg (List.takeWhile p) same
  rw [takeWhile_run all ends, takeWhile_run all' ends'] at runs
  exact List.append_inj same (congrArg List.length runs)

theorem collect_digits (digits : List Char) (marks : List (Char × Role)) :
    collect (digits.map (·, .digit) ++ marks) = collect marks := by
  induction digits with
  | nil => rfl
  | cons d digits ih => exact ih

theorem reach_number (before digits ahead : List Char) :
    reach before (.number digits.length) digits ahead = .number 0 := by
  induction digits generalizing before with
  | nil => rfl
  | cons d digits ih => exact ih (d :: before)

end SqlBuilder.Sql
