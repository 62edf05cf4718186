import Mathlib.Data.List.SplitBy
import SqlBuilder.Proofs.Fragment
import SqlBuilder.Proofs.Operand
import SqlBuilder.Proofs.Outcome

/-!
# The slots of a template

The text of a template is read one maximal run of equal characters after the other. A run of
question marks stands for half as many literal ones, and for a slot behind them if one is left
over; every other run stands for itself (`marksOf_splitSlots`). Nothing is lost: the parts with
doubled question marks, joined by single ones, are the text again. A template with as many
arguments as slots is written with the text of each argument in its slot, and any other number of
arguments is refused whatever they are (`parse_exact`).
-/

namespace SqlBuilder.Template

/-! ### Parts with something between them -/

section Spelling

variable {β : Type} (write : Char → List β) (slot : β)

/-- The parts one after the other, with each character written and a slot between neighbours. -/
def spell (parts : List (List Char)) : List β := [slot].intercalate (parts.map (List.flatMap write))

theorem spell_singleton (part : List Char) : spell write slot [part] = part.flatMap write := by
  simp [spell]

theorem spell_cons {parts : List (List Char)} (part : List Char) (h : parts ≠ []) :
    spell write slot (part :: parts) = part.flatMap write ++ slot :: spell write slot parts := by
  obtain ⟨next, rest, rfl⟩ := List.exists_cons_of_ne_nil h
  simp [spell, List.intercalate]

theorem spell_pushFront {parts : List (List Char)} (c : Char) (h : parts ≠ []) :
    spell write slot (pushFront c parts) = write c ++ spell write slot parts := by
  obtain ⟨part, rest, rfl⟩ := List.exists_cons_of_ne_nil h
  cases rest with
  | nil => simp [pushFront, spell_singleton]
  | cons next rest => simp [pushFront, spell_cons write slot _ (List.cons_ne_nil next rest)]

theorem pushFront_ne_nil (c : Char) (parts : List (List Char)) : pushFront c parts ≠ [] := by
  cases parts <;> simp [pushFront]

theorem splitSlots_ne_nil (text : List Char) : splitSlots text ≠ [] := by
  fun_cases splitSlots text with
  | case1 => simp
  | case2 rest => exact pushFront_ne_nil _ _
  | case3 rest => simp
  | case4 c rest => exact pushFront_ne_nil _ _

/-- What the three steps through a text write: a doubled mark, a slot and any other character. -/
theorem spell_splitSlots_doubled (rest : List Char) :
    spell write slot (splitSlots ('?' :: '?' :: rest)) =
      write '?' ++ spell write slot (splitSlots rest) := by
  rw [splitSlots, spell_pushFront write slot _ (splitSlots_ne_nil rest)]

theorem spell_splitSlots_slot {rest : List Char} (h : rest.head? ≠ some '?') :
    spell write slot (splitSlots ('?' :: rest)) = slot :: spell write slot (splitSlots rest) := by
  have cut : splitSlots ('?' :: rest) = [] :: splitSlots rest := by
    rw [splitSlots]
    rintro rest' rfl
    exact h rfl
  rw [cut, spell_cons write slot [] (splitSlots_ne_nil rest)]
  rfl

theorem spell_splitSlots_char {c : Char} (h : c ≠ '?') (rest : List Char) :
    spell write slot (splitSlots (c :: rest)) = write c ++ spell write slot (splitSlots rest) := by
  have copied : splitSlots (c :: rest) = pushFront c (splitSlots rest) := by
    rw [splitSlots]
    · rintro rest' rfl
      exact absurd rfl h
    · exact h
  rw [copied, spell_pushFront write slot _ (splitSlots_ne_nil rest)]

end Spelling

/-! ### Runs -/

/-- Characters, and `none` for a slot, in the order of the text. -/
abbrev Marks := List (Option Char)

/-- The parts with a slot between neighbours. -/
def marksOf (parts : List (List Char)) : Marks := spell (fun c => [some c]) none parts

theorem marksOf_singleton (part : List Char) : marksOf [part] = part.map some := by
  rw [marksOf, spell_singleton, ← List.map_eq_flatMap]

theorem marksOf_cons {parts : List (List Char)} (part : List Char) (h : parts ≠ []) :
    marksOf (part :: parts) = part.map some ++ none :: marksOf parts := by
  rw [marksOf, spell_cons _ _ part h, ← List.map_eq_flatMap, marksOf]

/-- The characters and slots of a template. -/
def marks {α : Type} (t : Template α) : Marks := marksOf (t.parts.map String.toList)

/-- The maximal runs of equal characters of a text. -/
def runs (text : String) : List (List Char) := text.toList.splitBy (· == ·)

/-- Whether the run consists of question marks of which one is left over. -/
def isOdd (run : List Char) : Bool := run.head? == some '?' && run.length % 2 == 1

/-- What a run stands for: two question marks are a literal one and a single one is a slot. -/
def readRun (run : List Char) : Marks :=
  if run.head? = some '?' then
    List.replicate (run.length / 2) (some '?') ++ if isOdd run then [none] else []
  else run.map some

theorem marksOf_questions (k : Nat) {rest : List Char} (h : rest.head? ≠ some '?') :
    marksOf (splitSlots (List.replicate (k + 1) '?' ++ rest)) =
      readRun (List.replicate (k + 1) '?') ++ marksOf (splitSlots rest) := by
  -- Two question marks go at a time, so the induction is in steps of two.
  induction k using Nat.twoStepInduction with
  | zero => simp [marksOf, readRun, isOdd, spell_splitSlots_slot _ _ h]
  | one =>
    have two : List.replicate (1 + 1) '?' ++ rest = '?' :: '?' :: rest := rfl
    rw [marksOf, two, spell_splitSlots_doubled]
    rfl
  | more k ih =>
    have more : List.replicate (k + 2 + 1) '?' ++ rest =
        '?' :: '?' :: (List.replicate (k + 1) '?' ++ rest) := rfl
    have parity : (k + 2 + 1) % 2 = (k + 1) % 2 := by omega
    have half : (k + 2 + 1) / 2 = (k + 1) / 2 + 1 := by omega
    rw [marksOf, more, spell_splitSlots_doubled, ← marksOf, ih]
    simp [readRun, isOdd, parity, half, List.replicate_succ]

theorem marksOf_copied {run : List Char} (h : '?' ∉ run) (rest : List Char) :
    marksOf (splitSlots (run ++ rest)) = run.map some ++ marksOf (splitSlots rest) := by
  induction run with
  | nil => rfl
  | cons c run ih =>
    obtain ⟨first, others⟩ := not_or.1 (mt List.mem_cons.2 h)
    rw [List.cons_append, marksOf, spell_splitSlots_char _ _ (Ne.symm first), ← marksOf, ih others]
    rfl

/-- A run of equal characters, read in front of a text that does not continue it. -/
theorem marksOf_run {c : Char} (k : Nat) {rest : List Char} (h : rest.head? ≠ some c) :
    marksOf (splitSlots (List.replicate (k + 1) c ++ rest)) =
      readRun (List.replicate (k + 1) c) ++ marksOf (splitSlots rest) := by
  by_cases mark : c = '?'
  · subst mark
    exact marksOf_questions k h
  · have absent : '?' ∉ List.replicate (k + 1) c := by simp [Ne.symm mark]
    have read : readRun (List.replicate (k + 1) c) = (List.replicate (k + 1) c).map some :=
      if_neg (by simpa [List.replicate_succ] using mark)
    rw [marksOf_copied absent, read]

/-- A maximal run repeats its first character. -/
theorem eq_replicate_of_isChain {run : List Char} (nonempty : run ≠ [])
    (equal : run.IsChain fun x y => (x == y) = true) :
    ∃ c k, run = List.replicate (k + 1) c := by
  obtain ⟨c, cs, rfl⟩ := List.exists_cons_of_ne_nil nonempty
  refine ⟨c, cs.length, ?_⟩
  have same : cs = List.replicate cs.length c :=
    List.isChain_cons_eq_iff_eq_replicate.1 (equal.imp fun _ _ => eq_of_beq)
  rw [List.replicate_succ, ← same]

/-- The text of a template is read run by run. -/
theorem marksOf_splitSlots (text : List Char) :
    marksOf (splitSlots text) = (text.splitBy (· == ·)).flatMap readRun := by
  obtain ⟨flat, nonempty, equal, maximal⟩ :=
    (List.splitBy_eq_iff (m := text) (r := (· == ·))).1 rfl
  generalize text.splitBy (· == ·) = rs at flat nonempty equal maximal
  subst flat
  induction rs with
  | nil => rfl
  | cons run rs ih =>
    obtain ⟨given, others⟩ := not_or.1 (mt List.mem_cons.2 nonempty)
    obtain ⟨first, later⟩ := List.forall_mem_cons.1 equal
    obtain ⟨c, k, rfl⟩ := eq_replicate_of_isChain (Ne.symm given) first
    have ends : rs.flatten.head? ≠ some c := by
      cases rs with
      | nil => simp
      | cons next rs =>
        obtain ⟨⟨_, spoken, differs⟩, -⟩ := List.isChain_cons_cons.1 maximal
        obtain ⟨d, ds, rfl⟩ := List.exists_cons_of_ne_nil spoken
        rw [List.getLast_replicate, List.head_cons, beq_eq_false_iff_ne] at differs
        simpa using differs.symm
    rw [List.flatten_cons, marksOf_run k ends, List.flatMap_cons, ih others later maximal.tail]

theorem count_none_map (text : List Char) : (text.map some).count none = 0 := by
  rw [List.count_eq_zero]
  simp

theorem count_none_marksOf (parts : List (List Char)) :
    (marksOf parts).count none = parts.length - 1 := by
  induction parts with
  | nil => rfl
  | cons part parts ih =>
    cases parts with
    | nil => rw [marksOf_singleton, count_none_map]; rfl
    | cons next parts =>
      rw [marksOf_cons part (List.cons_ne_nil next parts), List.count_append, count_none_map,
        List.count_cons_self, ih]
      simp

theorem count_none_readRun (run : List Char) :
    (readRun run).count none = if isOdd run then 1 else 0 := by
  by_cases mark : run.head? = some '?'
  · rw [readRun, if_pos mark, List.count_append, ← List.map_replicate, count_none_map]
    cases isOdd run <;> rfl
  · have even : isOdd run = false := by simp [isOdd, mark]
    rw [readRun, if_neg mark, count_none_map, even]
    rfl

/-- The slots are the odd runs. -/
theorem count_none_flatMap (rs : List (List Char)) :
    (rs.flatMap readRun).count none = (rs.filter isOdd).length := by
  induction rs with
  | nil => rfl
  | cons run rs ih =>
    rw [List.flatMap_cons, List.count_append, ih, count_none_readRun]
    cases odd : isOdd run <;> simp [odd, Nat.add_comm]

/-- Parts with doubled question marks and single ones between them are the text again. -/
theorem spell_doubled_splitSlots (text : List Char) :
    spell (fun c => if c = '?' then ['?', '?'] else [c]) '?' (splitSlots text) = text := by
  fun_induction splitSlots text with
  | case1 => rfl
  | case2 rest ih =>
    rw [spell_pushFront _ _ _ (splitSlots_ne_nil rest), ih]
    rfl
  | case3 rest _ ih =>
    rw [spell_cons _ _ _ (splitSlots_ne_nil rest), ih]
    rfl
  | case4 c rest _ other ih =>
    rw [spell_pushFront _ _ _ (splitSlots_ne_nil rest), ih, if_neg other]
    rfl

/-! ### Arguments in the slots -/

/-- The characters with a fragment in each slot. -/
def fill : Marks → List Fragment → List (Char ⊕ Value)
  | [], _ => []
  | some c :: rest, fs => .inl c :: fill rest fs
  | none :: rest, [] => fill rest []
  | none :: rest, f :: fs => f.symbols ++ fill rest fs

theorem fill_append (cs : List Char) (rest : Marks) (fs : List Fragment) :
    fill (cs.map some ++ rest) fs = cs.map Sum.inl ++ fill rest fs := by
  induction cs with
  | nil => rfl
  | cons c cs ih => rw [List.map_cons, List.cons_append, fill, ih, List.map_cons, List.cons_append]

/-- Parts woven with fragments hold the fragments in their slots. -/
theorem symbols_weave {parts : List String} {fs : List Fragment}
    (h : parts.length = fs.length + 1) :
    (weave parts fs).flatMap Fragment.symbols = fill (marksOf (parts.map String.toList)) fs := by
  induction fs generalizing parts with
  | nil =>
    obtain ⟨part, rfl⟩ := List.length_eq_one_iff.1 h
    have all := fill_append part.toList [] []
    rw [List.append_nil] at all
    simp [weave, marksOf_singleton, all, fill]
  | cons f fs ih =>
    obtain ⟨part, parts, rfl⟩ := List.exists_cons_of_length_eq_add_one h
    have rest : parts.length = fs.length + 1 := Nat.succ.inj h
    have more : parts.map String.toList ≠ [] := by
      rintro none
      simp [List.map_eq_nil_iff.1 none] at rest
    rw [weave, List.flatMap_cons, List.flatMap_cons, ih rest, List.map_cons, marksOf_cons _ more,
      fill_append, fill, Fragment.symbols_ofSql]

section Rendering

variable {α : Type} {t : Template α} {operand : α → Except Error Fragment}

theorem length_parts (h : t.parts ≠ []) : t.parts.length = t.slots + 1 := by
  rw [slots, Nat.sub_add_cancel (List.length_pos_iff.2 h)]

/-- A count that does not match is refused whatever the arguments are. -/
theorem render_refused (h : t.parts ≠ []) (differ : t.args.length ≠ t.slots) :
    t.render operand = .error (.arity (.slots t.slots t.args.length)) := by
  rw [render, length_parts h, if_neg (by omega)]

theorem render_eq (h : t.parts ≠ []) (same : t.args.length = t.slots) :
    t.render operand =
      (t.args.mapM operand).map fun fs => Fragment.concat (weave t.parts fs) := by
  rw [render, length_parts h, if_pos (by omega)]

theorem isOk_render_iff (h : t.parts ≠ []) :
    (t.render operand).isOk ↔ t.args.length = t.slots ∧ ∀ x ∈ t.args, (operand x).isOk := by
  by_cases same : t.args.length = t.slots
  · rw [render_eq h same, isOk_map, isOk_mapM_iff]
    exact (and_iff_right same).symm
  · rw [render_refused h same]
    exact iff_of_false nofun fun both => same both.1

/-- What is written has the fragment of each argument in its slot. -/
theorem ensures_render (h : t.parts ≠ []) :
    Ensures (t.render operand) fun f =>
      ∃ fs, List.Forall₂ (fun x g => operand x = .ok g) t.args fs ∧ f.Canonical ∧
        f.symbols = fill t.marks fs := by
  by_cases same : t.args.length = t.slots
  · intro f written
    rw [render_eq h same] at written
    obtain ⟨fs, found, rfl⟩ := map_eq_ok written
    have each := mapM_eq_ok_iff.1 found
    refine ⟨fs, each, Fragment.canonical_ofPieces _, ?_⟩
    rw [Fragment.symbols_concat, symbols_weave, marks]
    rw [length_parts h, ← same, each.length_eq]
  · rw [render_refused h same]
    exact .error _

end Rendering

/-- Within a query the arguments are written as operands. -/
theorem text_eq (config : Config) (t : Template Operand) :
    t.text config = t.render fun x => (x.term config).operand := by
  obtain ⟨parts, args⟩ := t
  simp [Template.text, render, slots, operandTerms_eq, List.mapM_map, Function.comp_def]

/-- The parts of a text. -/
theorem parts_parse {α : Type} (text : String) :
    (parse text : Template α).parts.map String.toList = splitSlots text.toList := by
  simp [parse, Function.comp_def]

/-- The text of a template with every question mark doubled. -/
def doubled (part : String) : String :=
  String.ofList (part.toList.flatMap fun c => if c = '?' then ['?', '?'] else [c])

/-- The text of a template is read exactly: its parts and slots are what its runs stand for, there
are as many slots as odd runs of question marks, and the parts give the text back. However its
arguments are written, a template is written if they are as many as its slots and can all be
written, with each argument in its own slot; any other number of arguments is refused whatever the
arguments are. In a query they are written as operands. -/
theorem parse_exact {α : Type} (text : String) (args : List α)
    (operand : α → Except Error Fragment) :
    let t : Template α := parse text
    t.marks = (runs text).flatMap readRun ∧
    t.slots = ((runs text).filter isOdd).length ∧
    "?".intercalate (t.parts.map doubled) = text ∧
    (((t.bindAll args).render operand).isOk ↔
      args.length = t.slots ∧ ∀ x ∈ args, (operand x).isOk) ∧
    (args.length ≠ t.slots →
      (t.bindAll args).render operand = .error (.arity (.slots t.slots args.length))) ∧
    (Ensures ((t.bindAll args).render operand) fun f =>
      ∃ fs, List.Forall₂ (fun x g => operand x = .ok g) args fs ∧ f.Canonical ∧
        f.symbols = fill t.marks fs) ∧
    ∀ config (xs : List Operand), ((parse text).bindAll xs).text config =
      ((parse text).bindAll xs).render fun x => (x.term config).operand := by
  intro t
  have marks_eq : t.marks = (runs text).flatMap readRun := by
    rw [marks, parts_parse, marksOf_splitSlots, runs]
  have given : t.parts ≠ [] := by
    rintro none
    have cut : splitSlots text.toList = [] := by rw [← parts_parse (α := α), none]; rfl
    exact splitSlots_ne_nil _ cut
  refine ⟨marks_eq, ?_, ?_, isOk_render_iff (t := t.bindAll args) given,
    render_refused (t := t.bindAll args) given, ensures_render (t := t.bindAll args) given,
    fun config xs => text_eq config _⟩
  · rw [slots, ← count_none_flatMap, ← marks_eq, marks, count_none_marksOf, List.length_map]
  · rw [← String.toList_inj, String.toList_intercalate, List.map_map]
    have parts := congrArg (List.map (List.flatMap fun c => if c = '?' then ['?', '?'] else [c]))
      (parts_parse (α := α) text)
    simpa [doubled, Function.comp_def, spell, ← parts] using spell_doubled_splitSlots text.toList

example : (parse "a ?| b ???? c ???" : Template Operand).parts = ["a ", "| b ?? c ?", ""] := rfl

end SqlBuilder.Template
