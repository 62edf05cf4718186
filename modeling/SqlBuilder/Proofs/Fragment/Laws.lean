import Mathlib.Data.List.Chain
import Mathlib.Data.List.Induction
import SqlBuilder.Proofs.Correspondence.Fragment
import SqlBuilder.Proofs.Emptiness
import SqlBuilder.Proofs.Reading

/-!
# The laws of fragments

A fragment can be looked at as two lists, its parts, where a parameter has no value of its own, and
its arguments. Appending goes part by part (`Fragment.parts_append`). All that the operations make
(`Fragment.Made`) is in canonical form, which in terms of the two lists means that it is tidy
(`Fragment.Tidy`): as many arguments as parameters, no empty text, no text next to text. Hence
fragments are equal exactly if they have the same characters and parameters, appending is a monoid,
and joining may be done in stages (`Fragment.canonical_laws`).
-/

namespace SqlBuilder

/-- The text of a piece; `none` for a parameter. -/
def Piece.text? : Piece → Option String
  | .text s => some s
  | .param _ => none

namespace Fragment

variable {f g : Fragment}

/-! ### Parts and arguments -/

/-- The runs of text and the parameters, these without their values. -/
def parts (f : Fragment) : List (Option String) := f.pieces.map Piece.text?

/-- Adds a part at the end: text runs into the text that is there, and empty text is left out. -/
def pushPart (parts : List (Option String)) : Option String → List (Option String)
  | none => parts ++ [none]
  | some s =>
    if s.isEmpty then parts
    else
      match parts.getLast? with
      | some (some last) => parts.dropLast ++ [some (last ++ s)]
      | _ => parts ++ [some s]

/-- As many arguments as parameters, no empty run of text, and no run next to another one. -/
structure Tidy (f : Fragment) : Prop where
  aligned : f.parts.count none = f.args.length
  full : some "" ∉ f.parts
  merged : f.parts.IsChain fun a b => a = none ∨ b = none

theorem consText_append (s : String) (ps qs : List Piece) :
    consText s (ps ++ qs) = consText s ps ++ qs := by
  unfold consText
  split
  · rfl
  · rfl

/-- Only the last part matters for what is added behind it. -/
theorem pushPart_concat (front : List (Option String)) (last part : Option String) :
    pushPart (front ++ [last]) part = front ++ pushPart [last] part := by
  cases part with
  | none => simp [pushPart]
  | some s =>
    by_cases empty : s = ""
    · simp [pushPart, empty]
    · cases last <;> simp [pushPart, empty]

theorem pushPart_append (front back : List (Option String)) (part : Option String) :
    pushPart (front ++ none :: back) part = front ++ none :: pushPart back part := by
  cases back using List.reverseRecOn with
  | nil =>
    rw [pushPart_concat]
    cases part with
    | none => rfl
    | some s => by_cases empty : s = "" <;> simp [pushPart, empty]
  | append_singleton back last =>
    have split : front ++ none :: (back ++ [last]) = (front ++ none :: back) ++ [last] := by simp
    rw [split, pushPart_concat, pushPart_concat back, List.append_assoc, List.cons_append]

theorem merge_snoc (run : String) (ps : List Piece) (p : Piece) :
    (merge run (ps ++ [p])).map Piece.text? =
      pushPart ((merge run ps).map Piece.text?) p.text? := by
  fun_induction merge run ps with
  | case1 run =>
    cases p with
    | text s =>
      by_cases none : run = "" <;> by_cases empty : s = "" <;>
        simp [merge, consText, pushPart, Piece.text?, none, empty]
    | param v =>
      by_cases none : run = "" <;> simp [merge, consText, pushPart, Piece.text?, none]
  | case2 run s rest ih => exact ih
  | case3 run v rest ih =>
    -- A parameter closes the run in front of it, so what comes last only meets what is behind.
    have front (qs : List Piece) : (consText run (.param v :: qs)).map Piece.text? =
        (consText run []).map Piece.text? ++ none :: qs.map Piece.text? := by
      rw [← List.nil_append (Piece.param v :: qs), consText_append]
      simp [Piece.text?]
    rw [List.cons_append, merge, front, front, ih, pushPart_append]

theorem Canonical.ofPieces_eq (hf : f.Canonical) : ofPieces f.pieces = f := by
  rw [ofPieces_eq_gather]
  exact hf.symm

/-- Appending adds the parts one after the other. -/
theorem parts_append (hf : f.Canonical) (g : Fragment) :
    (f ++ g).parts = g.parts.foldl pushPart f.parts := by
  obtain ⟨qs⟩ := g
  change (ofPieces (f.pieces ++ qs)).parts = (qs.map Piece.text?).foldl pushPart f.parts
  induction qs using List.reverseRecOn with
  | nil => rw [List.append_nil, hf.ofPieces_eq]; rfl
  | append_singleton qs q ih =>
    rw [List.map_append, List.foldl_append, ← ih, ← List.append_assoc]
    exact merge_snoc "" (f.pieces ++ qs) q

/-! ### The canonical form is tidy -/

theorem count_none_parts (f : Fragment) : f.parts.count none = f.args.length := by
  obtain ⟨pieces⟩ := f
  induction pieces with
  | nil => rfl
  | cons piece rest ih =>
    simp only [parts, args] at ih
    cases piece with
    | text s => simpa [parts, args, Piece.text?] using ih
    | param v => simpa [parts, args, Piece.text?] using ih

/-- A run of text is tidy in front of a parameter, and at the end. -/
theorem tidy_consText (run : String) {ps : List Piece} (rest : Tidy ⟨ps⟩)
    (ends : ∀ part ∈ (ps.map Piece.text?).head?, part = none) : Tidy ⟨consText run ps⟩ := by
  unfold consText
  split
  · exact rest
  · rename_i spoken
    refine ⟨count_none_parts _, ?_, ?_⟩
    · have apart : some run ≠ some "" := by simpa using spoken
      exact List.not_mem_cons_of_ne_of_not_mem apart.symm rest.full
    · exact List.isChain_cons.2 ⟨fun part hpart => .inr (ends part hpart), rest.merged⟩

theorem tidy_merge (run : String) (ps : List Piece) : Tidy ⟨merge run ps⟩ := by
  fun_induction merge run ps with
  | case1 run =>
    have nothing : Tidy ⟨[]⟩ := ⟨rfl, List.not_mem_nil, .nil⟩
    exact tidy_consText run nothing (by simp)
  | case2 run s rest ih => exact ih
  | case3 run v rest ih =>
    have param : Tidy ⟨.param v :: merge "" rest⟩ := by
      refine ⟨count_none_parts _, ?_, ?_⟩
      · exact List.not_mem_cons_of_ne_of_not_mem (by simp [Piece.text?]) ih.full
      · exact List.isChain_cons.2 ⟨fun _ _ => .inl rfl, ih.merged⟩
    exact tidy_consText run param fun part hpart => (Option.mem_some.1 hpart).symm

theorem Canonical.tidy (hf : f.Canonical) : f.Tidy := by
  rw [← hf.ofPieces_eq]
  exact tidy_merge "" f.pieces

/-! ### Equality -/

variable {R : Value → Value → Prop}

/-- The characters of a fragment and the places of its parameters. -/
def outline (f : Fragment) : List (Char ⊕ Unit) := f.symbols.map (Sum.map id fun _ => ())

theorem beq_iff_forall₂ {α : Type} [BEq α] {xs ys : List α} :
    (xs == ys) = true ↔ List.Forall₂ (fun x y => (x == y) = true) xs ys := by
  induction xs generalizing ys with
  | nil => cases ys <;> simp
  | cons x xs ih =>
    cases ys with
    | nil => simp
    | cons y ys => rw [List.cons_beq_cons, Bool.and_eq_true, List.forall₂_cons, ih]

theorem beq_iff_corresponds (f g : Fragment) :
    (f == g) = true ↔ f.Corresponds (fun v w => (v == w) = true) g := by
  have piece (p q : Piece) :
      (p == q) = true ↔ p.Corresponds (fun v w => (v == w) = true) q := by
    constructor
    · intro same
      cases p <;> cases q
      · rw [LawfulBEq.eq_of_beq (α := String) same]
        exact .text _
      · cases same
      · cases same
      · exact .param same
    · rintro (s | related)
      · exact beq_self_eq_true s
      · exact related
  refine beq_iff_forall₂.trans ?_
  simp only [piece]
  rfl

/-- The same runs come from symbols that are related one by one. -/
theorem corresponds_gather {ss ts : List (Char ⊕ Value)}
    (related : List.Forall₂ (Sum.LiftRel Eq R) ss ts) :
    List.Forall₂ (Piece.Corresponds R) (gather ss) (gather ts) := by
  induction related with
  | nil => exact .nil
  | @cons _ _ ss ts head _ ih =>
    cases head with
    | inl same =>
      subst same
      unfold gather
      generalize gather ss = ps, gather ts = qs at ih
      cases ih with
      | nil => exact .cons (.text _) .nil
      | cons first rest =>
        cases first with
        | text s => exact .cons (.text _) rest
        | param related => exact .cons (.text _) (.cons (.param related) rest)
    | inr related => exact .cons (.param related) ih

/-- Symbols are related if they have the same outline and related parameters. -/
theorem related_of_outline {ss ts : List (Char ⊕ Value)}
    (shape : ss.map (Sum.map id fun _ => ()) = ts.map (Sum.map id fun _ => ()))
    (params : List.Forall₂ R (ss.filterMap Sum.getRight?) (ts.filterMap Sum.getRight?)) :
    List.Forall₂ (Sum.LiftRel Eq R) ss ts := by
  induction ss generalizing ts with
  | nil =>
    cases ts with
    | nil => exact .nil
    | cons t ts => cases shape
  | cons s ss ih =>
    cases ts with
    | nil => cases shape
    | cons t ts =>
      obtain ⟨first, rest⟩ := List.cons.inj shape
      cases s with
      | inl c =>
        cases t with
        | inl d => exact .cons (.inl (Sum.inl.inj first)) (ih rest params)
        | inr w => cases first
      | inr v =>
        cases t with
        | inl d => cases first
        | inr w =>
          obtain ⟨related, others⟩ := List.forall₂_cons.1 params
          exact .cons (.inr related) (ih rest others)

theorem Corresponds.outline_eq (related : f.Corresponds R g) : f.outline = g.outline := by
  obtain ⟨ps⟩ := f
  obtain ⟨qs⟩ := g
  change List.Forall₂ _ ps qs at related
  unfold outline symbols
  induction related with
  | nil => rfl
  | cons head _ ih =>
    rw [List.flatMap_cons, List.flatMap_cons, List.map_append, List.map_append, ih]
    cases head <;> rfl

/-- Fragments in canonical form are equal as data if they have the same characters, with equal
parameters in the same places. -/
theorem Canonical.beq_iff (hf : f.Canonical) (hg : g.Canonical) :
    (f == g) = true ↔ f.outline = g.outline ∧ (f.args == g.args) = true := by
  rw [beq_iff_corresponds, beq_iff_forall₂]
  constructor
  · intro related
    exact ⟨related.outline_eq, related.args⟩
  · rintro ⟨shape, params⟩
    rw [args_eq_symbols, args_eq_symbols] at params
    have related := corresponds_gather (related_of_outline shape params)
    unfold Corresponds
    rwa [hf, hg]

/-! ### Appending -/

theorem append_assoc (f g h : Fragment) : f ++ g ++ h = f ++ (g ++ h) := by
  apply (canonical_ofPieces _).eq_of_symbols (canonical_ofPieces _)
  show (f ++ g ++ h).symbols = (f ++ (g ++ h)).symbols
  simp

theorem Canonical.empty_append (hf : f.Canonical) : empty ++ f = f := hf.ofPieces_eq

theorem Canonical.append_empty (hf : f.Canonical) : f ++ empty = f := by
  show ofPieces (f.pieces ++ []) = f
  rw [List.append_nil]
  exact hf.ofPieces_eq

/-- The second text goes on counting where the first one has stopped. -/
theorem toSql_append (f g : Fragment) :
    (f ++ g).toSql = f.toSql ++ write "" (f.args.length + 1) g.pieces := by
  have following : numberAfter 1 f.symbols = f.args.length + 1 := by
    rw [numberAfter, args_eq_symbols, Nat.add_comm, List.length_filterMap_eq_countP]
    congr 2
    funext x
    cases x <;> rfl
  apply String.toList_inj.1
  rw [String.toList_append, toList_toSql, toList_toSql, toList_write, symbols_append,
    numbered_append, following]
  rfl

/-! ### Joining -/

theorem intersperse_append {α : Type} (x : α) {as bs : List α} (has : as ≠ []) (hbs : bs ≠ []) :
    (as ++ bs).intersperse x = as.intersperse x ++ x :: bs.intersperse x := by
  induction as with
  | nil => exact absurd rfl has
  | cons a as ih =>
    cases as with
    | nil =>
      obtain ⟨b, bs, rfl⟩ := List.exists_cons_of_ne_nil hbs
      rfl
    | cons a' as => simpa using ih (by simp)

/-- Fragments without text are left out. -/
theorem join_of_blank {fs : List Fragment} (blank : ∀ f ∈ fs, f.isEmpty)
    (before after : List Fragment) (separator : String) :
    join (before ++ fs ++ after) separator = join (before ++ after) separator := by
  have none : (fs.filter fun f => !f.isEmpty) = [] := by
    rw [List.filter_eq_nil_iff]
    intro f hf
    simp [blank f hf]
  rw [join, join, List.filter_append, List.filter_append, none, List.append_nil,
    ← List.filter_append]

theorem symbols_join_ne_nil {fs : List Fragment} (canonical : ∀ f ∈ fs, f.Canonical)
    (spoken : ¬ ∀ f ∈ fs, f.isEmpty) (separator : String) : (join fs separator).symbols ≠ [] := by
  intro silent
  apply spoken
  intro f hf
  exact (canonical f hf).isEmpty_iff.2 ((symbols_join_eq_nil_iff canonical separator).1 silent f hf)

theorem join_eq_empty {fs : List Fragment} (blank : ∀ f ∈ fs, f.isEmpty) (separator : String) :
    join fs separator = empty := by
  have nothing := join_of_blank blank [] [] separator
  rw [List.append_nil] at nothing
  exact nothing

/-- A list may be joined in two parts, which are then joined. -/
theorem join_append {fs gs : List Fragment} (hfs : ∀ f ∈ fs, f.Canonical)
    (hgs : ∀ g ∈ gs, g.Canonical) (separator : String) :
    join (fs ++ gs) separator = join [join fs separator, join gs separator] separator := by
  have canonical (fs : List Fragment) : (join fs separator).Canonical := canonical_ofPieces _
  have noText : ∀ f ∈ [empty], f.isEmpty := List.forall_mem_singleton.2 rfl
  by_cases blankFs : ∀ f ∈ fs, f.isEmpty
  · calc join (fs ++ gs) separator
      _ = join gs separator := join_of_blank blankFs [] gs separator
      _ = join [join gs separator] separator := (join_singleton (canonical gs) separator).symm
      _ = join [empty, join gs separator] separator :=
        (join_of_blank noText [] [join gs separator] separator).symm
      _ = join [join fs separator, join gs separator] separator := by
        rw [join_eq_empty blankFs]
  by_cases blankGs : ∀ g ∈ gs, g.isEmpty
  · calc join (fs ++ gs) separator
      _ = join fs separator := by simpa using join_of_blank blankGs fs [] separator
      _ = join [join fs separator] separator := (join_singleton (canonical fs) separator).symm
      _ = join [join fs separator, empty] separator :=
        (join_of_blank noText [join fs separator] [] separator).symm
      _ = join [join fs separator, join gs separator] separator := by
        rw [join_eq_empty blankGs]
  · apply (canonical _).eq_of_symbols (canonical _)
    rw [join_pair (symbols_join_ne_nil hfs blankFs separator)
      (symbols_join_ne_nil hgs blankGs separator)]
    have someFs : (fs.filter fun f => !f.isEmpty) ≠ [] := by simpa using blankFs
    have someGs : (gs.filter fun g => !g.isEmpty) ≠ [] := by simpa using blankGs
    simp [join, List.filter_append, intersperse_append _ someFs someGs]

/-- Lists may be joined one by one, and the results after that. -/
theorem join_flatten {fss : List (List Fragment)} (canonical : ∀ fs ∈ fss, ∀ f ∈ fs, f.Canonical)
    (separator : String) :
    join fss.flatten separator = join (fss.map fun fs => join fs separator) separator := by
  have joined (fs : List Fragment) : (join fs separator).Canonical := canonical_ofPieces _
  induction fss with
  | nil => rfl
  | cons fs fss ih =>
    obtain ⟨first, others⟩ := List.forall_mem_cons.1 canonical
    have flat : ∀ f ∈ fss.flatten, f.Canonical := by
      intro f hf
      obtain ⟨gs, hgs, hf⟩ := List.mem_flatten.1 hf
      exact others gs hgs f hf
    have mapped : ∀ f ∈ fss.map fun fs => join fs separator, f.Canonical :=
      List.forall_mem_map.2 fun gs _ => joined gs
    have alone : ∀ f ∈ [join fs separator], f.Canonical :=
      List.forall_mem_singleton.2 (joined fs)
    calc join (fs ++ fss.flatten) separator
      _ = join [join fs separator, join fss.flatten separator] separator :=
        join_append first flat separator
      _ = join [join [join fs separator] separator,
          join (fss.map fun fs => join fs separator) separator] separator := by
        rw [ih others, join_singleton (joined fs)]
      _ = join ([join fs separator] ++ fss.map fun fs => join fs separator) separator :=
        (join_append alone mapped separator).symm

/-! ### What the operations make -/

/-- A fragment that the operations can make. -/
inductive Made : Fragment → Prop
  | empty : Made empty
  | ofSql (sql : String) : Made (ofSql sql)
  | ofValue (v : Value) : Made (ofValue v)
  | push {f : Fragment} (made : Made f) (sql : String) : Made (f.push sql)
  | pushValue {f : Fragment} (made : Made f) (v : Value) : Made (f.pushValue v)
  | append {f g : Fragment} (first : Made f) (second : Made g) : Made (f ++ g)
  | parenthesized {f : Fragment} (made : Made f) : Made f.parenthesized
  | join {fs : List Fragment} (made : ∀ f ∈ fs, Made f) (separator : String) :
    Made (join fs separator)
  | toFragment {s : Statement} {f : Fragment} (read : s.toFragment = .ok f) : Made f

theorem Made.canonical (made : f.Made) : f.Canonical := by
  cases made with
  | empty => rfl
  | ofSql | ofValue | push | pushValue | append | parenthesized | join =>
    exact canonical_ofPieces _
  | toFragment read =>
    obtain ⟨pieces, -, rfl⟩ := map_eq_ok read
    exact canonical_ofPieces pieces

/-- Fragments that the operations make are tidy, so they are equal exactly if they have the same
characters and parameters. Appending them goes part by part, is associative, has the empty fragment
as its unit and counts the parameters on. Joining leaves out what is empty and may be done in
stages. -/
theorem canonical_laws (hf : f.Made) (hg : g.Made) (h : Fragment) {fss : List (List Fragment)}
    (made : ∀ fs ∈ fss, ∀ f ∈ fs, f.Made) (separator : String) :
    f.Tidy ∧
    (f = g ↔ f.symbols = g.symbols) ∧
    ((f == g) = true ↔ f.outline = g.outline ∧ (f.args == g.args) = true) ∧
    (f ++ g).parts = g.parts.foldl pushPart f.parts ∧
    (f ++ g).args = f.args ++ g.args ∧
    f ++ g ++ h = f ++ (g ++ h) ∧
    empty ++ f = f ∧
    f ++ empty = f ∧
    (f ++ g).toSql = f.toSql ++ write "" (f.args.length + 1) g.pieces ∧
    join fss.flatten separator = join (fss.map fun fs => join fs separator) separator ∧
    ∀ before after,
      join (before ++ empty :: after) separator = join (before ++ after) separator := by
  have canonical : ∀ fs ∈ fss, ∀ f ∈ fs, f.Canonical :=
    fun fs hfs f hf => (made fs hfs f hf).canonical
  have noText : ∀ f ∈ [empty], f.isEmpty := List.forall_mem_singleton.2 rfl
  refine ⟨hf.canonical.tidy, ⟨congrArg symbols, hf.canonical.eq_of_symbols hg.canonical⟩,
    hf.canonical.beq_iff hg.canonical, parts_append hf.canonical g, args_append f g,
    append_assoc f g h, hf.canonical.empty_append, hf.canonical.append_empty, toSql_append f g,
    join_flatten canonical separator, ?_⟩
  intro before after
  have absent := join_of_blank noText before after separator
  rwa [List.append_assoc, List.singleton_append] at absent

/-- A column compared with an integer. -/
def comparison (column : String) (n : Int64) : Fragment :=
  (ofSql (column ++ " = ")).pushValue (.int n)

theorem canonical_laws_comparison :
    let f := comparison "a" 1
    let g := comparison "b" 2
    f.Made ∧ g.Made ∧ (∀ fs ∈ [[f, empty], [], [g, f]], ∀ f ∈ fs, f.Made) ∧
    f.Tidy ∧ ((f == g) = true ↔ f.outline = g.outline ∧ (f.args == g.args) = true) ∧
    (f ++ g).toSql = f.toSql ++ write "" 2 g.pieces ∧
    join [f, empty, g, f] ", " = join [join [f, empty] ", ", empty, join [g, f] ", "] ", " ∧
    (join [f, empty, g, f] ", ").toSql = "a = $1, b = $2, a = $3" := by
  intro f g
  have hf : f.Made := .pushValue (.ofSql _) _
  have hg : g.Made := .pushValue (.ofSql _) _
  have lists : ∀ fs ∈ [[f, empty], [], [g, f]], ∀ f ∈ fs, f.Made := by
    simp only [List.forall_mem_cons]
    exact ⟨⟨hf, .empty, nofun⟩, nofun, ⟨hg, hf, nofun⟩, nofun⟩
  obtain ⟨tidy, -, equal, -, -, -, -, -, text, joined, -⟩ := canonical_laws hf hg f lists ", "
  exact ⟨hf, hg, lists, tidy, equal, text, joined, by decide +kernel⟩

end Fragment

end SqlBuilder
