import SqlBuilder.Proofs.Sql.Region
import SqlBuilder.Proofs.Spelling

/-!
# Other numerals in the same text

Two spellings match when they differ in their numerals alone. Numerals of other lengths move
everything behind them, and yet the scanner makes the same decisions on both texts
(`Matching.scan_eq`): a region ends where it ended, since it has no numeral in it and no more
than the character behind it has a say in its end, and the text before a character has a say in
what it opens only as far as `Behind` goes.
-/

namespace SqlBuilder.Sql

/-! ### Regions stay within the text -/

/-- How many more characters the region or number has. -/
def Inside.left : Inside → Nat
  | .code => 0
  | .region left => left
  | .number left => left

theorem dollarQuotedLength?_le (after : List Char) :
    (dollarQuotedLength? after).getD 0 ≤ after.length := by
  cases found : dollarTag? after with
  | none => simp [dollarQuotedLength?, found]
  | some tag =>
    obtain ⟨isTag, rest, rfl⟩ := dollarTag?_eq_some_iff.1 found
    have inside := (measures_through _ (dollarMark_ne_nil tag)).le rest
    rw [isTag.quotedLength, Option.getD_some, List.length_append, List.length_cons]
    omega

/-- What opens at a character ends within the text. -/
theorem opening_left_le (before : List Char) (c : Char) (after : List Char) :
    (opening before c after).2.left ≤ after.length := by
  have opens := opensAt before c after
  generalize opening before c after = opened at opens
  cases opens with
  | literal => exact (measures_quoted _ (by decide) _).le after
  | name => exact (measures_quoted _ (by decide) _).le after
  | line => exact measures_line.le after
  | block star =>
    obtain ⟨rest, rfl⟩ := List.head?_eq_some_iff.1 star
    have inside := (measures_commented 0).le rest
    simp only [Inside.left, List.drop_one, List.tail_cons, List.length_cons]
    omega
  | ident => exact Nat.zero_le _
  | dollar => exact dollarQuotedLength?_le after
  | number => exact (List.takeWhile_sublist _).length_le
  | text => exact Nat.zero_le _

/-! ### Matching spellings -/

/-- The same characters at the same places, and related parameters between them. -/
def Matching {α β : Type} (R : α → β → Prop) (xs : List (Char ⊕ α)) (ys : List (Char ⊕ β)) : Prop :=
  List.Forall₂ (Sum.LiftRel Eq R) xs ys

/-- The spellings differ in their numerals alone. -/
abbrev Respelled (xs ys : Spelling) : Prop := Matching (fun _ _ => True) xs ys

namespace Matching

section

variable {α β : Type} {R : α → β → Prop} {xs : List (Char ⊕ α)} {ys : List (Char ⊕ β)}

/-- A run of characters is matched by itself. -/
theorem split_left {cs : List Char} (h : Matching R (cs.map Sum.inl ++ xs) ys) :
    ∃ ys', ys = cs.map Sum.inl ++ ys' ∧ Matching R xs ys' := by
  induction cs generalizing ys with
  | nil => exact ⟨ys, rfl, h⟩
  | cons c cs ih =>
    cases h with
    | cons head tail =>
      cases head with
      | inl same =>
        obtain ⟨ys', rfl, rest⟩ := ih tail
        exact ⟨ys', by rw [same]; rfl, rest⟩

theorem flip (h : Matching R xs ys) : Matching (fun b a => R a b) ys xs := by
  refine List.Forall₂.imp (fun y x related => ?_) (List.Forall₂.flip h)
  cases related with
  | inl same => exact .inl same.symm
  | inr related => exact .inr related

theorem trans {γ : Type} {S : β → γ → Prop} {T : α → γ → Prop} {zs : List (Char ⊕ γ)}
    (h : Matching R xs ys) (h' : Matching S ys zs) (both : ∀ a b c, R a b → S b c → T a c) :
    Matching T xs zs := by
  induction h generalizing zs with
  | nil =>
    cases h'
    exact .nil
  | cons head _ ih =>
    cases h' with
    | cons head' tail' =>
      refine .cons ?_ (ih tail')
      cases head with
      | inl same =>
        cases head' with
        | inl same' => exact .inl (same.trans same')
      | inr related =>
        cases head' with
        | inr related' => exact .inr (both _ _ _ related related')

theorem split_right {cs : List Char} (h : Matching R xs (cs.map Sum.inl ++ ys)) :
    ∃ xs', xs = cs.map Sum.inl ++ xs' ∧ Matching R xs' ys := by
  obtain ⟨xs', split, rest⟩ := split_left (flip h)
  exact ⟨xs', split, flip rest⟩

/-- The parameters are related in their order. -/
theorem params (h : Matching R xs ys) :
    List.Forall₂ R (xs.filterMap Sum.getRight?) (ys.filterMap Sum.getRight?) := by
  induction h with
  | nil => exact .nil
  | cons head _ ih =>
    cases head with
    | inl _ => exact ih
    | inr related => exact .cons related ih

end

variable {xs ys : Spelling} (h : Respelled xs ys)

include h

theorem head?_text : (Spelling.text xs).head? = (Spelling.text ys).head? := by
  cases h with
  | nil => rfl
  | cons head _ =>
    cases head with
    | inl same => simp [same]
    | inr _ => simp

theorem takeWhile_text {p : Char → Bool} (dollar : p '$' = false) :
    (Spelling.text xs).takeWhile p = (Spelling.text ys).takeWhile p := by
  induction h with
  | nil => rfl
  | cons head _ ih =>
    cases head with
    | inl same => simp [same, List.takeWhile_cons, ih]
    | inr _ => simp [dollar]

/-- Up to its first dollar sign the text is the same. -/
theorem dollar_ahead {cs rest : List Char} (clear : '$' ∉ cs)
    (split : Spelling.text xs = cs ++ '$' :: rest) :
    ∃ rest', Spelling.text ys = cs ++ '$' :: rest' := by
  induction cs generalizing xs ys with
  | nil =>
    have head := head?_text h
    rw [split] at head
    obtain ⟨rest', same⟩ := List.head?_eq_some_iff.1 head.symm
    exact ⟨rest', same⟩
  | cons c cs ih =>
    obtain ⟨first, clear⟩ := not_or.1 fun mem => clear (List.mem_cons.2 mem)
    cases h with
    | nil => cases split
    | cons head tail =>
      cases head with
      | inl same =>
        rw [Spelling.text_char, List.cons_append, List.cons.injEq] at split
        obtain ⟨rest', behind⟩ := ih tail clear split.2
        exact ⟨rest', by rw [Spelling.text_char, behind, ← same, split.1]; rfl⟩
      | inr _ =>
        rw [Spelling.text_numeral, List.cons_append, List.cons.injEq] at split
        exact absurd split.1 first

theorem dollarTag?_text : dollarTag? (Spelling.text xs) = dollarTag? (Spelling.text ys) := by
  refine Option.ext fun tag => ?_
  rw [dollarTag?_eq_some_iff, dollarTag?_eq_some_iff]
  refine and_congr_right fun isTag => ⟨fun ⟨rest, split⟩ => ?_, fun ⟨rest, split⟩ => ?_⟩
  · exact dollar_ahead h isTag.dollar_notMem split
  · exact dollar_ahead (flip h) isTag.dollar_notMem split

/-- A stretch without numerals has the same length in both texts. It begins behind the first `n`
characters of them. -/
theorem measure_drop_eq {measure : List Char → Nat} {Stretch : (body rest : List Char) → Prop}
    (measures : Measures measure Stretch) {n : Nat} {cs : List Char} {xs' : Spelling}
    (chars : xs = cs.map Sum.inl ++ xs')
    (length : cs.length = n + measure ((Spelling.text xs).drop n)) :
    measure ((Spelling.text ys).drop n) = measure ((Spelling.text xs).drop n) := by
  subst chars
  obtain ⟨ys', rfl, rest⟩ := split_left h
  have split (zs : Spelling) :
      (Spelling.text (cs.map Sum.inl ++ zs)).drop n = cs.drop n ++ Spelling.text zs := by
    have room : n ≤ (Spelling.text (cs.map Sum.inl)).length := by
      rw [Spelling.text_chars]
      omega
    rw [Spelling.text_append, List.drop_append_of_le_length room, Spelling.text_chars]
  have length : measure (cs.drop n ++ Spelling.text xs') = (cs.drop n).length := by
    rw [← split, List.length_drop]
    omega
  rw [split, split, length, measures.congr length (head?_text rest)]

theorem measure_eq {measure : List Char → Nat} {Stretch : (body rest : List Char) → Prop}
    (measures : Measures measure Stretch) {cs : List Char} {xs' : Spelling}
    (chars : xs = cs.map Sum.inl ++ xs') (length : cs.length = measure (Spelling.text xs)) :
    measure (Spelling.text ys) = measure (Spelling.text xs) :=
  measure_drop_eq h (n := 0) measures chars (by rw [length, Nat.zero_add]; rfl)

/-- A dollar quote without numerals has the same length in both texts. -/
theorem dollarQuotedLength?_eq {cs : List Char} {xs' : Spelling}
    (chars : xs = cs.map Sum.inl ++ xs')
    (length : cs.length = (dollarQuotedLength? (Spelling.text xs)).getD 0) :
    dollarQuotedLength? (Spelling.text ys) = dollarQuotedLength? (Spelling.text xs) := by
  have tags := dollarTag?_text h
  cases found : dollarTag? (Spelling.text xs) with
  | none => simp only [dollarQuotedLength?, ← tags, found, Option.map_none]
  | some tag =>
    simp only [dollarQuotedLength?, found, Option.map_some, Option.getD_some] at length
    have measures := measures_through ('$' :: tag ++ ['$']) (dollarMark_ne_nil tag)
    simp only [dollarQuotedLength?, ← tags, found, Option.map_some,
      measure_drop_eq h measures chars length]

end Matching

/-! ### The same decisions -/

/-- What text has in common that a character cannot tell apart when it stands behind it. -/
structure Behind (before before' : List Char) : Prop where
  ident : before.head?.any continuesIdent = before'.head?.any continuesIdent
  escapes : opensEscapes before = opensEscapes before'

theorem opensEscapes_cons (c : Char) (before : List Char) :
    opensEscapes (c :: before) =
      ((c == 'E' || c == 'e') && !before.head?.any continuesIdent) := by
  cases before with
  | nil => simp [opensEscapes]
  | cons d before => rfl

/-- A number has no letter at its end. -/
theorem Numeral.opensEscapes (n : Numeral) (before : List Char) :
    opensEscapes (n.digits.reverse ++ before) = false := by
  cases last : n.digits.reverse with
  | nil => exact absurd (List.reverse_eq_nil_iff.1 last) n.nonempty
  | cons d ds =>
    have digit : d.isDigit := n.isDigit d (by
      rw [← List.mem_reverse, last]
      exact List.mem_cons_self)
    rw [List.cons_append, opensEscapes_cons]
    have letter : (d == 'E' || d == 'e') = false := by
      rw [Bool.eq_false_iff]
      intro letter
      simp only [Bool.or_eq_true, beq_iff_eq] at letter
      rcases letter with rfl | rfl <;> cases digit
    rw [letter, Bool.false_and]

namespace Behind

variable {before before' : List Char}

theorem cons (h : Behind before before') (c : Char) : Behind (c :: before) (c :: before') :=
  ⟨rfl, by rw [opensEscapes_cons, opensEscapes_cons, h.ident]⟩

theorem numerals (m n : Numeral) (before before' : List Char) :
    Behind (m.digits.reverse ++ before) (n.digits.reverse ++ before') where
  ident := by
    rw [continuesIdent_behind m.nonempty m.isDigit, continuesIdent_behind n.nonempty n.isDigit]
  escapes := by rw [m.opensEscapes, n.opensEscapes]

end Behind

namespace Matching

variable {xs ys : Spelling} {before before' : List Char}

/-- A character opens the same stretch, provided that the stretch has no numeral in it. -/
theorem opening_eq (h : Respelled xs ys) (behind : Behind before before') {c : Char}
    {cs : List Char} {xs' : Spelling} (chars : xs = cs.map Sum.inl ++ xs')
    (length : cs.length = (opening before c (Spelling.text xs)).2.left) :
    opening before' c (Spelling.text ys) = opening before c (Spelling.text xs) := by
  have head := head?_text h
  have digits : (Spelling.text xs).takeWhile Char.isDigit =
      (Spelling.text ys).takeWhile Char.isDigit := takeWhile_text h rfl
  have opens := opensAt before c (Spelling.text xs)
  generalize opening before c (Spelling.text xs) = opened at length opens ⊢
  cases opens with
  | literal =>
    rw [(OpensAt.literal _).eq, ← behind.escapes,
      measure_eq h (measures_quoted _ (by decide) _) chars length]
  | name => rw [(OpensAt.name _).eq, measure_eq h (measures_quoted _ (by decide) _) chars length]
  | line dash => rw [(OpensAt.line (head ▸ dash)).eq, measure_eq h measures_line chars length]
  | block star =>
    rw [(OpensAt.block (head ▸ star)).eq, measure_drop_eq h (measures_commented 0) chars length]
  | ident continues => exact (OpensAt.ident (behind.ident ▸ continues)).eq
  | dollar free none =>
    rw [(OpensAt.dollar (behind.ident ▸ free) (digits ▸ none)).eq,
      dollarQuotedLength?_eq h chars length]
  | number free some =>
    rw [(OpensAt.number (behind.ident ▸ free) (digits ▸ some)).eq, digits]
  | text quote name line block dollar =>
    exact (OpensAt.text quote name (head ▸ line) (head ▸ block) dollar).eq

/-- The first characters of a scan inside of a region are text. -/
theorem chars_of_scan_region {before : List Char} {left : Nat} {xs : Spelling}
    (scanned : scan before (.region left) xs.text = xs.marks) (within : left ≤ xs.text.length) :
    ∃ (cs : List Char) (xs' : Spelling), xs = cs.map Sum.inl ++ xs' ∧ cs.length = left := by
  induction xs generalizing before left with
  | nil => exact ⟨[], [], rfl, (Nat.le_zero.1 within).symm⟩
  | cons x xs ih =>
    cases left with
    | zero => exact ⟨[], x :: xs, rfl, rfl⟩
    | succ left =>
      cases x with
      | inl c =>
        rw [Spelling.text_char, scan_cons, Spelling.marks, List.cons.injEq] at scanned
        obtain ⟨cs, xs', rfl, length⟩ := ih scanned.2 (Nat.le_of_succ_le_succ within)
        exact ⟨c :: cs, xs', rfl, congrArg (· + 1) length⟩
      | inr n =>
        rw [Spelling.text_numeral, scan_cons, Spelling.marks, List.cons.injEq, Prod.mk.injEq]
          at scanned
        cases scanned.1.2

/-- Behind text the scanner is not inside of a number. -/
theorem isNumber_of_text {before : List Char} {inside : Inside} {c : Char} {after : List Char}
    (number : inside.isNumber = false) (role : (step before inside c after).1 = .text) :
    (step before inside c after).2.isNumber = false := by
  cases region : inside.isProtected with
  | true => exact (step_protected region _ _ _).2
  | false =>
    rw [step_code region number] at role ⊢
    rcases opening_cases before c after with ⟨-, later, -⟩ | ⟨-, -, -, opened⟩
    · exact later
    · rw [opened] at role
      cases role

/-- The scanner does the same at a character of text. -/
theorem step_eq (h : Respelled xs ys) (behind : Behind before before') {inside : Inside}
    (number : inside.isNumber = false) {c : Char}
    (role : (step before inside c xs.text).1 = .text)
    (later : scan (c :: before) (step before inside c xs.text).2 xs.text = xs.marks) :
    step before' inside c ys.text = step before inside c xs.text := by
  cases region : inside.isProtected with
  | true =>
    match inside with
    | .region (left + 1) => rfl
  | false =>
    have numberless := isNumber_of_text number role
    rw [step_code region number] at later numberless ⊢
    rw [step_code region number]
    obtain ⟨cs, xs', chars, length⟩ : ∃ (cs : List Char) (xs' : Spelling),
        xs = cs.map Sum.inl ++ xs' ∧ cs.length = (opening before c xs.text).2.left := by
      have within := opening_left_le before c xs.text
      cases opened : (opening before c xs.text).2 with
      | code => exact ⟨[], xs, rfl, rfl⟩
      | region left =>
        rw [opened] at later within
        exact chars_of_scan_region later within
      | number left =>
        cases left with
        | zero => exact ⟨[], xs, rfl, rfl⟩
        | succ left =>
          rw [opened] at numberless
          cases numberless
    exact opening_eq h behind chars length

/-- The scanner gives the characters of a spelling the same roles whatever the numerals are. -/
theorem scan_eq {xs ys : Spelling} (h : Respelled xs ys) {before before' : List Char}
    (behind : Behind before before') {inside : Inside} (number : inside.isNumber = false)
    (scanned : scan before inside xs.text = xs.marks) :
    scan before' inside (Spelling.text ys) = Spelling.marks ys := by
  -- Lockstep through both spellings; between symbols the scanner is inside of the same region.
  induction h generalizing before before' inside with
  | nil => simp [scan, Spelling.marks]
  | @cons x y xs ys head tail ih =>
    cases head with
    | @inl c _ same =>
      subst same
      rw [Spelling.text_char, scan_cons, Spelling.marks, List.cons.injEq, Prod.mk.injEq] at scanned
      obtain ⟨⟨-, role⟩, later⟩ := scanned
      have step := step_eq tail behind number role later
      rw [Spelling.text_char, scan_cons, Spelling.marks, step, role]
      exact congrArg _ (ih (behind.cons c) (isNumber_of_text number role) later)
    | @inr m n _ =>
      have found : (step before inside '$' (m.digits ++ Spelling.text xs)).1 =
          .placeholder m.digits := by
        rw [Spelling.text_numeral, scan_cons, Spelling.marks, List.cons.injEq, Prod.mk.injEq]
          at scanned
        exact scanned.1.2
      obtain ⟨region, free, ends⟩ := (step_numeral_iff m before _ number).1 found
      have found' : (step before' inside '$' (n.digits ++ Spelling.text ys)).1 =
          .placeholder n.digits := by
        refine (step_numeral_iff n before' _ number).2 ⟨region, ?_, ?_⟩
        · rw [← behind.ident, free]
        · rw [← head?_text tail, ends]
      rw [Spelling.text_numeral, scan_numeral m before _ number found, Spelling.marks,
        List.cons.injEq, List.append_cancel_left_eq] at scanned
      rw [Spelling.text_numeral, scan_numeral n before' _ number found', Spelling.marks,
        ih (.numerals m n _ _) rfl scanned.2]

end Matching

end SqlBuilder.Sql
