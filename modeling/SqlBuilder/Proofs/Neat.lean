import SqlBuilder.Proofs.Ident
import SqlBuilder.Proofs.Reading

/-!
# Neat text

Text is neat when the scanner cannot be led astray by it: quotation marks come only as quoted
identifiers, dollar signs only inside of identifiers, and no dash or slash opens a comment. The
scanner gives neat text the roles that it is written with. Parts that may stand between
separators, such as identifiers and parameters, are put together to neat text.
-/

namespace SqlBuilder

open Fragment (marks numbered)

namespace Sql

/-- Characters at which no region opens. -/
def isInert (c : Char) : Bool := c != '\'' && c != '"' && c != '-' && c != '/' && c != '$'

/-- Inert characters that neither continue an identifier nor complete the opening of a comment. -/
def isSeparator (c : Char) : Bool := isInert c && !continuesIdent c && c != '*'

theorem opening_inert {c : Char} (h : isInert c) (before after : List Char) :
    opening before c after = (.text, .code) := by
  simp only [isInert, Bool.and_eq_true, bne_iff_ne, ne_eq] at h
  obtain ⟨⟨⟨⟨quote, name⟩, dash⟩, slash⟩, dollar⟩ := h
  simp [opening, quote, name, dash, slash, dollar]

theorem not_isDigit_of_isSeparator {c : Char} (h : isSeparator c) : c.isDigit = false := by
  simp only [isSeparator, continuesIdent, Char.isAlphanum, Bool.and_eq_true, Bool.not_eq_true',
    Bool.or_eq_false_iff] at h
  exact h.1.2.1.2.2

/-- A quoted identifier ends with its own quotation mark. -/
theorem quotedLength_doubleQuotes (name : List Char) {rest : List Char}
    (ends : rest.head? ≠ some '"') :
    quotedLength '"' false (Ident.doubleQuotes name ++ '"' :: rest) =
      (Ident.doubleQuotes name).length + 1 := by
  induction name with
  | nil =>
    cases rest with
    | nil => rfl
    | cons d rest =>
      have other : d ≠ '"' := fun same => ends (congrArg some same)
      simp [Ident.doubleQuotes, quotedLength, other]
  | cons c name ih =>
    by_cases quote : c = '"'
    · subst quote
      simp only [Ident.doubleQuotes, if_true, List.cons_append, quotedLength, Bool.false_and,
        Bool.false_eq_true, if_false, beq_self_eq_true, ih, List.length_cons]
      omega
    · obtain ⟨d, more, split⟩ : ∃ d more, Ident.doubleQuotes name ++ '"' :: rest = d :: more :=
        List.exists_cons_of_ne_nil (by simp)
      simp only [Ident.doubleQuotes, quote, if_false, List.cons_append, List.length_cons]
      rw [← ih, split, quotedLength]
      simp [quote, Nat.add_comm]

/-- Symbols whose text the scanner reads as it is written. The flag tells whether an identifier
may be going on in front of them. -/
inductive Neat : (joined : Bool) → List (Char ⊕ Value) → Prop
  | nil {joined : Bool} : Neat joined []
  | inert {joined : Bool} {c : Char} {rest : List (Char ⊕ Value)} (h : isInert c)
      (next : Neat (continuesIdent c) rest) : Neat joined (.inl c :: rest)
  | dash {joined : Bool} {rest : List (Char ⊕ Value)} (ends : rest.head? ≠ some (.inl '-'))
      (next : Neat false rest) : Neat joined (.inl '-' :: rest)
  | slash {joined : Bool} {rest : List (Char ⊕ Value)} (ends : rest.head? ≠ some (.inl '*'))
      (next : Neat false rest) : Neat joined (.inl '/' :: rest)
  | dollar {rest : List (Char ⊕ Value)} (next : Neat true rest) : Neat true (.inl '$' :: rest)
  | quoted {joined : Bool} (name : List Char) {rest : List (Char ⊕ Value)}
      (ends : rest.head? ≠ some (.inl '"')) (next : Neat false rest) :
      Neat joined (.inl '"' :: (Ident.doubleQuotes name ++ ['"']).map Sum.inl ++ rest)
  | param (v : Value) {rest : List (Char ⊕ Value)}
      (ends : ∀ d, rest.head? = some (.inl d) → d.isDigit = false) (next : Neat true rest) :
      Neat false (.inr v :: rest)

theorem head?_numbered {next : Nat} {rest : List (Char ⊕ Value)} {c : Char}
    (h : (numbered next rest).head? = some c) : rest.head? = some (.inl c) ∨ c = '$' := by
  cases rest with
  | nil => simp at h
  | cons s rest =>
    cases s with
    | inl d =>
      left
      simpa using h
    | inr v =>
      right
      simpa using h.symm

theorem head?_numbered_ne (next : Nat) {rest : List (Char ⊕ Value)} {c : Char} (dollar : c ≠ '$')
    (h : rest.head? ≠ some (.inl c)) : (numbered next rest).head? ≠ some c := by
  intro same
  rcases head?_numbered same with ahead | rfl
  · exact h ahead
  · exact dollar rfl

/-- The scanner reads neat text as it is written. -/
theorem Neat.scan_eq {joined : Bool} {symbols : List (Char ⊕ Value)} (h : Neat joined symbols) :
    ∀ (before : List Char) (inside : Inside) (next : Nat),
      before.head?.any continuesIdent = joined → inside.isProtected = false →
      inside.isNumber = false →
      scan before inside (numbered next symbols) = marks next symbols := by
  -- The reader stands between two elements, and every case leaves it there. A quoted name and the
  -- digits of a placeholder are read as a whole, for only behind them is it back in such a place.
  induction h with
  | nil =>
    intro before inside next _ _ _
    simp [scan, marks]
  | inert inert _ ih =>
    intro before inside next _ region number
    rw [Fragment.numbered_char, scan_cons, step_code region number, opening_inert inert, marks,
      ih _ _ _ rfl rfl rfl]
  | @dash _ rest ends _ ih =>
    intro before inside next _ region number
    have ends' := head?_numbered_ne next (by decide) ends
    have text : opening before '-' (numbered next rest) = (.text, .code) := by
      simp [opening, ends']
    rw [Fragment.numbered_char, scan_cons, step_code region number, marks, text,
      ih _ _ _ rfl rfl rfl]
  | @slash _ rest ends _ ih =>
    intro before inside next _ region number
    have ends' := head?_numbered_ne next (by decide) ends
    have text : opening before '/' (numbered next rest) = (.text, .code) := by
      simp [opening, ends']
    rw [Fragment.numbered_char, scan_cons, step_code region number, marks, text,
      ih _ _ _ rfl rfl rfl]
  | @dollar rest _ ih =>
    intro before inside next ident region number
    rw [Fragment.numbered_char, scan_cons, step_code region number, marks]
    have text : opening before '$' (numbered next rest) = (.text, .code) := by
      simp [opening, ident]
    rw [text, ih _ _ _ rfl rfl rfl]
  | @quoted _ name rest ends _ ih =>
    intro before inside next _ region number
    have ends' := head?_numbered_ne next (by decide) ends
    have chars (cs : List Char) : numbered next (cs.map Sum.inl ++ rest) =
        cs ++ numbered next rest ∧
          marks next (cs.map Sum.inl ++ rest) = cs.map (·, Role.text) ++ marks next rest := by
      induction cs with
      | nil => exact ⟨rfl, rfl⟩
      | cons c cs ih => simp [marks, ih.1, ih.2]
    have opened : opening before '"' ((Ident.doubleQuotes name ++ ['"']) ++ numbered next rest) =
        (.text, .region (Ident.doubleQuotes name ++ ['"']).length) := by
      simp [opening, quotedLength_doubleQuotes name ends']
    rw [List.cons_append, Fragment.numbered_char, marks, (chars _).1, (chars _).2, scan_cons,
      step_code region number, opened, scan_region]
    rw [ih _ _ _ (by simp [continuesIdent]) rfl rfl]
  | @param v rest ends _ ih =>
    intro before inside next free region number
    have after : (numbered (next + 1) rest).head?.any Char.isDigit = false := by
      cases ahead : (numbered (next + 1) rest).head? with
      | none => rfl
      | some c =>
        rcases head?_numbered ahead with same | rfl
        · exact ends c same
        · rfl
    have digits := takeWhile_run (Fragment.isDigit_toDigits next) after
    have opened : opening before '$' (Nat.toDigits 10 next ++ numbered (next + 1) rest) =
        (.placeholder (Nat.toDigits 10 next), .number (Nat.toDigits 10 next).length) := by
      rcases opening_cases before '$' (Nat.toDigits 10 next ++ numbered (next + 1) rest)
        with ⟨-, -, no⟩ | ⟨-, -, -, opened⟩
      · rcases no rfl with ident | none
        · rw [free] at ident
          cases ident
        · rw [digits] at none
          exact absurd none Nat.toDigits_ne_nil
      · rw [opened, digits]
    rw [Fragment.numbered_param, List.cons_append, scan_cons, step_code region number, opened,
      scan_number, marks, placeholderMarks, List.cons_append]
    have joined := continuesIdent_behind Nat.toDigits_ne_nil (Fragment.isDigit_toDigits next)
      ('$' :: before)
    rw [ih _ _ _ joined rfl rfl]

/-! ### Parts between separators -/

/-- What may follow a part: nothing, or a separator, behind which the text is neat. -/
structure Follows (rest : List (Char ⊕ Value)) : Prop where
  starts : ∀ s, rest.head? = some s → ∃ c, s = .inl c ∧ isSeparator c
  neat : ∀ joined, Neat joined rest

/-- Symbols that may stand between separators. -/
def Separable (symbols : List (Char ⊕ Value)) : Prop :=
  ∀ rest, Follows rest → Neat false (symbols ++ rest)

theorem Follows.nil : Follows [] := ⟨by simp, fun _ => .nil⟩

theorem Follows.cons {c : Char} (h : isSeparator c) {rest : List (Char ⊕ Value)}
    (neat : Neat false rest) : Follows (.inl c :: rest) := by
  have split := h
  simp only [isSeparator, Bool.and_eq_true, Bool.not_eq_true'] at split
  obtain ⟨⟨inert, free⟩, -⟩ := split
  refine ⟨fun s hs => ⟨c, (Option.some.inj hs).symm, h⟩, fun joined => .inert inert ?_⟩
  rw [free]
  exact neat

namespace Separable

variable {xs ys : List (Char ⊕ Value)}

theorem neat (h : Separable xs) : Neat false xs := by
  simpa using h [] .nil

theorem nil : Separable [] := fun _ follows => follows.neat false

theorem param (v : Value) : Separable [.inr v] := by
  refine fun rest follows => .param v (fun d hd => ?_) (follows.neat true)
  obtain ⟨c, hc, separator⟩ := follows.starts _ hd
  cases hc
  exact not_isDigit_of_isSeparator separator

/-- Characters at which no region opens. -/
theorem inert {cs : List Char} (h : cs.all isInert) : Separable (cs.map Sum.inl) := by
  intro rest follows
  have neat (joined : Bool) : Neat joined (cs.map Sum.inl ++ rest) := by
    induction cs generalizing joined with
    | nil => exact follows.neat joined
    | cons c cs ih =>
      simp only [List.all_cons, Bool.and_eq_true] at h
      exact .inert h.1 (ih h.2 _)
  exact neat false

/-- Two parts with a separator between them. -/
theorem between {c : Char} (h : isSeparator c) (hxs : Separable xs) (hys : Separable ys) :
    Separable (xs ++ .inl c :: ys) := by
  intro rest follows
  rw [List.append_assoc, List.cons_append]
  exact hxs _ (.cons h (hys rest follows))

theorem isInert_of_isBareChar {c : Char} (h : Ident.isBareChar c) (dollar : c ≠ '$') :
    isInert c := by
  simp only [isInert, Bool.and_eq_true, bne_iff_ne, ne_eq]
  refine ⟨⟨⟨⟨?_, ?_⟩, ?_⟩, ?_⟩, dollar⟩ <;> rintro rfl <;> revert h <;> decide

theorem continuesIdent_of_isBareChar {c : Char} (h : Ident.isBareChar c) : continuesIdent c := by
  simp only [Ident.isBareChar, Bool.or_eq_true] at h
  rcases h with (h | h) | h <;> simp [continuesIdent, h]

/-- The rest of a bare segment. -/
theorem neat_bare {cs : List Char} (h : ∀ d ∈ cs, Ident.isBareChar d)
    {rest : List (Char ⊕ Value)} (neat : Neat true rest) :
    Neat true (cs.map Sum.inl ++ rest) := by
  induction cs with
  | nil => exact neat
  | cons c cs ih =>
    have tail := ih fun d hd => h d (List.mem_cons_of_mem c hd)
    have head := h c List.mem_cons_self
    by_cases dollar : c = '$'
    · subst dollar
      exact .dollar tail
    · refine .inert (isInert_of_isBareChar head dollar) ?_
      rw [continuesIdent_of_isBareChar head]
      exact tail

theorem neat_segment {s : Segment} (h : s.WellFormed) {rest : List (Char ⊕ Value)}
    (ends : rest.head? ≠ some (.inl '"')) (neat : ∀ joined, Neat joined rest) :
    Neat false (s.chars.map Sum.inl ++ rest) := by
  cases h with
  | @bare c cs start tail =>
    have letter : Ident.isBareChar c := by
      simp only [Ident.isBareStart, Bool.or_eq_true] at start
      rcases start with h | h <;> simp [Ident.isBareChar, Char.isAlphanum, h]
    have dollar : c ≠ '$' := by
      rintro rfl
      revert start
      decide
    simp only [Segment.chars, String.toList_ofList, List.map_cons, List.cons_append]
    refine .inert (isInert_of_isBareChar letter dollar) ?_
    rw [continuesIdent_of_isBareChar letter]
    exact neat_bare tail (neat true)
  | @quoted name nonempty =>
    have quoted : Neat false _ := .quoted name.toList ends (neat false)
    simpa [Segment.chars] using quoted

/-- The text of an identifier. -/
theorem ident {segments : List Segment} (wellFormed : ∀ s ∈ segments, s.WellFormed) :
    Separable ((Ident.chars segments).map Sum.inl) := by
  intro rest follows
  induction segments with
  | nil => exact follows.neat false
  | cons s segments ih =>
    have head := wellFormed s List.mem_cons_self
    cases segments with
    | nil =>
      have ends : rest.head? ≠ some (.inl '"') := by
        intro quote
        obtain ⟨c, hc, separator⟩ := follows.starts _ quote
        cases hc
        revert separator
        decide
      simpa [Ident.chars, List.intercalate] using neat_segment head ends follows.neat
    | cons s' segments =>
      have tail := ih fun t ht => wellFormed t (List.mem_cons_of_mem s ht)
      rw [Ident.chars_cons s (by simp), List.map_append, List.append_assoc]
      exact neat_segment head (by simp) fun joined => .inert (by decide) tail

end Separable

end Sql

/-! ### Fragments -/

namespace Fragment

/-- The fragment may stand between separators. -/
def Separable (f : Fragment) : Prop := Sql.Separable f.symbols

/-- Text at which no region opens, with a separator at both ends. -/
def isSeparating (sql : String) : Bool :=
  sql.toList.all Sql.isInert && sql.toList.head?.any Sql.isSeparator &&
    sql.toList.getLast?.any Sql.isSeparator

theorem Separable.legible {f : Fragment} (h : f.Separable) : f.Legible := by
  rw [legible_iff, toList_toSql]
  exact h.neat.scan_eq [] .code 1 rfl rfl rfl

theorem separable_empty : empty.Separable := .nil

theorem separable_ofValue (v : Value) : (ofValue v).Separable := by
  rw [Separable, symbols_ofValue]
  exact .param v

theorem separable_ofSql {sql : String} (h : sql.toList.all Sql.isInert) :
    (ofSql sql).Separable := by
  rw [Separable, symbols_ofSql]
  exact .inert h

/-- A text that is an identifier. -/
theorem separable_checked {text name : String} (h : Ident.checked text = .ok name) :
    (ofSql name).Separable := by
  rw [Separable, symbols_ofSql, Ident.checked_eq h]
  unfold Ident.checked at h
  split at h
  · rename_i ident parsed
    obtain ⟨chars, -, wellFormed⟩ := Ident.parse_chars parsed
    rw [← chars]
    exact .ident wellFormed
  · cases h

namespace Separable

variable {f g : Fragment}

/-- Two parts with separating text between them. -/
theorem around (hf : f.Separable) (sql : String) (h : isSeparating sql) (hg : g.Separable) :
    (f ++ ofSql sql ++ g).Separable := by
  simp only [isSeparating, Bool.and_eq_true] at h
  obtain ⟨⟨inert, first⟩, last⟩ := h
  rw [Separable, symbols_append, symbols_append, symbols_ofSql]
  cases chars : sql.toList with
  | nil => simp [chars] at first
  | cons c cs =>
    rw [chars] at inert first last
    simp only [List.all_cons, Bool.and_eq_true] at inert
    rcases List.eq_nil_or_concat cs with rfl | ⟨middle, d, rfl⟩
    · simpa using Sql.Separable.between (by simpa using first) hf hg
    · rw [List.concat_eq_append] at inert last ⊢
      rw [← List.cons_append, List.getLast?_concat] at last
      have behind : Sql.Separable (middle.map Sum.inl ++ .inl d :: g.symbols) := by
        refine .between (by simpa using last) (.inert ?_) hg
        simpa using fun e he => (List.all_eq_true.1 inert.2) e (by simp [he])
      simpa using Sql.Separable.between (by simpa using first) hf behind

theorem of_symbols (hf : f.Separable) (h : g.symbols = f.symbols) : g.Separable := by
  rw [Separable, h]
  exact hf

/-- A keyword in front of a part. -/
theorem headed (keyword : String) (h : keyword.toList.all Sql.isInert) (hg : g.Separable) :
    (headed keyword g).Separable := by
  rw [Separable, symbols_headed]
  simpa using Sql.Separable.between (c := ' ') (by decide) (.inert h) hg

theorem headedUnlessEmpty (keyword : String) (h : keyword.toList.all Sql.isInert)
    (hg : g.Separable) : (headedUnlessEmpty keyword g).Separable := by
  unfold Fragment.headedUnlessEmpty
  split
  · exact separable_empty
  · exact hg.headed keyword h

theorem parenthesized (hf : f.Separable) : f.parenthesized.Separable := by
  rw [Separable, symbols_parenthesized]
  have closed : Sql.Separable (f.symbols ++ [.inl ')']) :=
    .between (c := ')') (by decide) hf .nil
  simpa using Sql.Separable.between (c := '(') (by decide) .nil closed

/-- A part with text that begins with a separator, followed by an identifier. -/
theorem push_checked (hf : f.Separable) (sql : String) (h : isSeparating sql)
    {text name : String} (checked : Ident.checked text = .ok name) :
    (f.push (sql ++ name)).Separable :=
  (hf.around sql h (separable_checked checked)).of_symbols (by simp)

/-- An identifier, separating text and a part. -/
theorem checked_append {text name : String} (checked : Ident.checked text = .ok name)
    (sql : String) (h : isSeparating sql) (hf : f.Separable) :
    (ofSql (name ++ sql) ++ f).Separable :=
  ((separable_checked checked).around sql h hf).of_symbols (by simp)

/-- Parts with separating text between them. -/
theorem join {fs : List Fragment} (separator : String) (h : isSeparating separator)
    (hfs : ∀ f ∈ fs, f.Separable) : (join fs separator).Separable := by
  have kept : ∀ f ∈ fs.filter fun f => !f.isEmpty, f.Separable :=
    fun f hf => hfs f (List.mem_filter.1 hf).1
  rw [Separable, Fragment.join, symbols_concat]
  generalize (fs.filter fun f => !f.isEmpty) = parts at kept
  induction parts with
  | nil => exact .nil
  | cons f parts ih =>
    have first := kept f List.mem_cons_self
    have others := ih fun g hg => kept g (List.mem_cons_of_mem f hg)
    cases parts with
    | nil => simpa [Separable] using first
    | cons g parts =>
      have rest : (concat ((g :: parts).intersperse (ofSql separator))).Separable := by
        rw [Separable, symbols_concat]
        exact others
      have both := first.around separator h rest
      rw [Separable, symbols_append, symbols_append, symbols_concat] at both
      simpa using both

end Separable

end Fragment

end SqlBuilder
