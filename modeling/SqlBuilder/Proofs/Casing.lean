import Mathlib.Tactic.SplitIfs
import SqlBuilder.Text.Casing
import SqlBuilder.Proofs.Ident.Grammar

/-!
# Keys are mapped segment by segment

A key is a sequence of segments with dots between them. The mappings of keys are meant to change
each bare name on its own and to leave quoted names as they are (`Segment.mapBare`). They do so
for the keys without a quoted segment. One quoted segment keeps every other segment from being
mapped as well, so the key comes out as it should only if there was nothing to change in it
(`Text.snakeCaseKey_segments`). That these are the only such keys needs that a name in snake case
holds no dot, which is read off the tables of letters.
-/

namespace SqlBuilder

namespace Segment

/-- The segment stands between quotation marks. -/
def IsQuoted : Segment → Prop
  | .bare _ => False
  | .quoted _ => True

/-- A bare name holds neither a dot, which would end it, nor a quotation mark. -/
def Plain : Segment → Prop
  | .bare name => '.' ∉ name.toList ∧ '"' ∉ name.toList
  | .quoted _ => True

/-- The segment with its name mapped if it is bare. -/
def mapBare (f : List Char → List Char) : Segment → Segment
  | .bare name => .bare (String.ofList (f name.toList))
  | .quoted name => .quoted name

theorem Plain.quote_mem_chars_iff {s : Segment} (h : s.Plain) : '"' ∈ s.chars ↔ s.IsQuoted := by
  cases s with
  | bare name => exact iff_of_false h.2 id
  | quoted name => exact iff_of_true List.mem_cons_self trivial

theorem Plain.dot_notMem_chars {s : Segment} (h : s.Plain) (bare : ¬ s.IsQuoted) :
    '.' ∉ s.chars := by
  cases s with
  | bare name => exact h.1
  | quoted name => exact absurd trivial bare

theorem chars_mapBare (f : List Char → List Char) {s : Segment} (bare : ¬ s.IsQuoted) :
    (s.mapBare f).chars = f s.chars := by
  cases s with
  | bare name => rw [mapBare, chars, chars, String.toList_ofList]
  | quoted name => exact absurd trivial bare

/-- A segment is the same after the mapping if its text is. -/
theorem mapBare_eq_of_chars {f : List Char → List Char} {s : Segment}
    (h : (s.mapBare f).chars = s.chars) : s.mapBare f = s := by
  cases s with
  | bare name =>
    rw [mapBare, chars, chars, String.toList_ofList] at h
    rw [mapBare, h, String.ofList_toList]
  | quoted name => rfl

end Segment

namespace Ident

/-- The texts in front of the first dot agree, and so do those behind it. -/
theorem append_dot_inj {first first' rest rest' : List Char} (dot : '.' ∉ first)
    (dot' : '.' ∉ first') (h : first ++ '.' :: rest = first' ++ '.' :: rest') :
    first = first' ∧ rest = rest' := by
  have split := congrArg (List.splitOn '.') h
  rw [List.splitOn_append_cons_self_of_not_mem dot, List.splitOn_append_cons_self_of_not_mem dot']
    at split
  obtain ⟨rfl, -⟩ := List.cons.inj split
  exact ⟨rfl, (List.cons.inj (List.append_cancel_left h)).2⟩

/-- A mapping that puts no dot into a name changes the text of a key whenever it changes one of
its names. -/
theorem chars_mapBare_eq_iff {f : List Char → List Char} (dotless : ∀ cs, '.' ∉ f cs)
    {segments : List Segment} (plain : ∀ s ∈ segments, s.Plain) :
    chars (segments.map (Segment.mapBare f)) = chars segments ↔
      ∀ s ∈ segments, s.mapBare f = s := by
  refine ⟨fun same => ?_, fun same => by rw [List.map_congr_left same, List.map_id']⟩
  induction segments with
  | nil => exact nofun
  | cons s segments ih =>
    rw [List.forall_mem_cons] at plain
    cases segments with
    | nil =>
      rw [List.forall_mem_singleton]
      exact Segment.mapBare_eq_of_chars (by simpa [chars, List.intercalate] using same)
    | cons s' segments =>
      rw [List.map_cons, chars_cons _ (by simp), chars_cons s (by simp)] at same
      -- The first segments end at the same dot: quoted ones are equal, bare ones hold no dot.
      have parts : (s.mapBare f).chars = s.chars ∧
          chars ((s' :: segments).map (Segment.mapBare f)) = chars (s' :: segments) := by
        cases s with
        | bare name =>
          refine append_dot_inj ?_ plain.1.1 same
          rw [Segment.chars_mapBare f id]
          exact dotless _
        | quoted name => exact ⟨rfl, (List.cons.inj (List.append_cancel_left same)).2⟩
      rw [List.forall_mem_cons]
      exact ⟨Segment.mapBare_eq_of_chars parts.1, ih plain.2 parts.2⟩

end Ident

namespace Text

/-! ### The mappings of keys -/

theorem splitWhere_eq_splitOnP (separates : Char → Bool) (cs : List Char) :
    splitWhere separates cs = cs.splitOnP separates := by
  induction cs with
  | nil => rw [splitWhere, List.splitOnP_nil]
  | cons c rest ih =>
    obtain ⟨part, parts, split⟩ :=
      List.exists_cons_of_ne_nil (List.splitOnP_ne_nil separates rest)
    rw [List.splitOnP_cons_eq_if_modifyHead, splitWhere, ih, split, List.modifyHead_cons]

variable {f : List Char → List Char} {segments : List Segment}

/-- Without quoted segments the segments are what stands between the dots, and each is mapped. -/
theorem mapKeyParts_of_bare (empty : f [] = []) (plain : ∀ s ∈ segments, s.Plain)
    (bare : ∀ s ∈ segments, ¬ s.IsQuoted) :
    mapKeyParts f (Ident.toSql ⟨segments⟩) =
      Ident.toSql ⟨segments.map (Segment.mapBare f)⟩ := by
  have unquoted : '"' ∉ Ident.chars segments := by
    rw [Ident.mem_chars_iff (by decide)]
    rintro ⟨s, hs, quote⟩
    exact bare s hs ((plain s hs).quote_mem_chars_iff.1 quote)
  have mapped : (segments.map Segment.chars).map f =
      (segments.map (Segment.mapBare f)).map Segment.chars := by
    rw [List.map_map, List.map_map]
    exact List.map_congr_left fun s hs => (Segment.chars_mapBare f (bare s hs)).symm
  apply String.toList_inj.1
  simp only [mapKeyParts, Ident.toList_toSql, List.contains_iff_mem, unquoted, if_false,
    String.toList_ofList]
  cases segments with
  | nil => simp [Ident.chars, List.intercalate, splitWhere, empty]
  | cons s rest =>
    rw [splitWhere_eq_splitOnP, ← List.splitOn_eq_splitOnP, Ident.chars,
      List.splitOn_intercalate '.' ?_ (by simp), mapped]
    · rfl
    · intro part hpart
      obtain ⟨t, ht, rfl⟩ := List.mem_map.1 hpart
      exact (plain t ht).dot_notMem_chars (bare t ht)

/-- With a quoted segment the key has a quotation mark in it, and nothing is mapped. -/
theorem mapKeyParts_of_quoted (plain : ∀ s ∈ segments, s.Plain)
    (quoted : ∃ s ∈ segments, s.IsQuoted) :
    mapKeyParts f (Ident.toSql ⟨segments⟩) = Ident.toSql ⟨segments⟩ := by
  obtain ⟨s, hs, marked⟩ := quoted
  have quote : '"' ∈ Ident.chars segments := by
    rw [Ident.mem_chars_iff (by decide)]
    exact ⟨s, hs, (plain s hs).quote_mem_chars_iff.2 marked⟩
  simp only [mapKeyParts, Ident.toList_toSql, List.contains_iff_mem, quote, if_true]

/-! ### Names in snake case hold no dot -/

theorem not_separates_of_mem_splitWhere {separates : Char → Bool} {text part : List Char}
    (hpart : part ∈ splitWhere separates text) : ∀ c ∈ part, separates c = false := by
  induction text generalizing part with
  | nil =>
    rw [splitWhere, List.mem_singleton] at hpart
    subst hpart
    exact nofun
  | cons c rest ih =>
    rw [splitWhere] at hpart
    split_ifs at hpart with separator
    · rcases List.mem_cons.1 hpart with rfl | hpart
      · exact nofun
      · exact ih hpart
    · rw [Bool.not_eq_true] at separator
      split at hpart
      case h_1 first parts split =>
        rw [split] at ih
        rcases List.mem_cons.1 hpart with rfl | hpart
        · exact List.forall_mem_cons.2 ⟨separator, ih List.mem_cons_self⟩
        · exact ih (List.mem_cons_of_mem first hpart)
      case h_2 =>
        rw [List.mem_singleton.1 hpart, List.forall_mem_singleton]
        exact separator

/-- The words are made of the characters that were given. -/
theorem forall_mem_wordsFrom {p : Char → Prop} (case : WordCase) (word text : List Char)
    (hword : ∀ c ∈ word, p c) (htext : ∀ c ∈ text, p c) :
    ∀ w ∈ wordsFrom case word text, ∀ c ∈ w, p c := by
  induction case, word, text using wordsFrom.induct with
  | case1 => exact nofun
  | case2 case word c =>
    rw [List.forall_mem_singleton] at htext
    simp only [wordsFrom, List.forall_mem_singleton, List.mem_reverse]
    exact List.forall_mem_cons.2 ⟨htext, hword⟩
  | case3 case word c next rest ends ih =>
    rw [List.forall_mem_cons] at htext
    simp only [wordsFrom, if_pos ends, List.forall_mem_cons (p := fun w => ∀ c ∈ w, p c),
      List.mem_reverse]
    exact ⟨List.forall_mem_cons.2 ⟨htext.1, hword⟩, ih nofun htext.2⟩
  | case4 case word c next rest goesOn capital ih =>
    rw [List.forall_mem_cons] at htext
    simp only [wordsFrom, if_neg goesOn, if_pos capital,
      List.forall_mem_cons (p := fun w => ∀ c ∈ w, p c), List.mem_reverse]
    exact ⟨hword, ih (List.forall_mem_singleton.2 htext.1) htext.2⟩
  | case5 case word c next rest goesOn inside ih =>
    rw [List.forall_mem_cons] at htext
    rw [wordsFrom, if_neg goesOn, if_neg inside]
    exact ih (List.forall_mem_cons.2 ⟨htext.1, hword⟩) htext.2

/-- A word is made of letters and numbers. -/
theorem isAlphanumeric_of_mem_words {text word : List Char} (hword : word ∈ words text) :
    ∀ c ∈ word, isAlphanumeric c := by
  obtain ⟨part, hpart, hword⟩ := List.mem_flatMap.1 hword
  refine forall_mem_wordsFrom .unknown [] part nofun (fun c hc => ?_) word hword
  simpa using not_separates_of_mem_splitWhere hpart c hc

theorem eq_of_ofNat_eq_dot {n : Nat} (h : Char.ofNat n = '.') : n = 46 := by
  by_cases valid : n.isValidChar
  · rw [Char.ofNat, dif_pos valid] at h
    exact congrArg Char.toNat h
  · rw [Char.ofNat, dif_neg valid] at h
    exact absurd h (by decide)

/-- No other character has a dot in its lower case. -/
theorem dot_notMem_toLower {c : Char} (dot : c ≠ '.') : '.' ∉ toLower c := by
  have expanded : ∀ e ∈ lowerExpansions, '.' ∉ e.2.map Char.ofNat := by decide
  -- Every run that is shifted lies behind the dot once it has been.
  have shifted : ∀ r ∈ lowerMapping, 46 < (r.1 : Int) + r.2.2.2 := by decide +kernel
  rw [toLower, mapCase]
  split
  case h_1 codes found =>
    obtain ⟨before, after, table, -⟩ := List.lookup_eq_some_iff.1 found
    have listed : (c.toNat, codes) ∈ lowerExpansions := by
      rw [table]
      exact List.mem_append_right before List.mem_cons_self
    exact expanded _ listed
  case h_2 =>
    split
    case h_1 first last step distance found =>
      have inside := List.find?_some found
      have behind : 46 < (first : Int) + distance := shifted _ (List.mem_of_find?_eq_some found)
      simp only [onRun, Bool.and_eq_true, decide_eq_true_eq] at inside
      rw [List.mem_singleton]
      intro same
      have code := eq_of_ofNat_eq_dot same.symm
      omega
    case h_2 => simpa using dot.symm

theorem dot_notMem_lowerWord {word : List Char} (h : ∀ c ∈ word, isAlphanumeric c) :
    '.' ∉ lowerWord word := by
  induction word using lowerWord.induct with
  | case1 => exact nofun
  | case2 => decide
  | case3 c rest notFinal ih =>
    rw [List.forall_mem_cons] at h
    rw [lowerWord, List.mem_append, not_or]
    · refine ⟨dot_notMem_toLower ?_, ih h.2⟩
      rintro rfl
      exact absurd h.1 (by decide +kernel)
    · exact notFinal

theorem dot_notMem_snakeCase (text : List Char) : '.' ∉ snakeCase text := by
  rw [snakeCase, ← List.intercalate, Ident.mem_intercalate_iff (by decide)]
  rintro ⟨part, hpart, dot⟩
  obtain ⟨word, hword, rfl⟩ := List.mem_map.1 hpart
  exact dot_notMem_lowerWord (isAlphanumeric_of_mem_words hword) dot

/-! ### Default keys -/

/-- A key in snake case: without quoted segments each name is mapped on its own; with one the key
stays as it is. So the names are mapped and the quoted ones left alone unless there is both a
quoted segment and a name that snake case changes. -/
theorem snakeCaseKey_segments {segments : List Segment} (plain : ∀ s ∈ segments, s.Plain) :
    let key := Ident.toSql ⟨segments⟩
    let mapped := Ident.toSql ⟨segments.map (Segment.mapBare snakeCase)⟩
    ((∀ s ∈ segments, ¬ s.IsQuoted) → snakeCaseKey key = mapped) ∧
    ((∃ s ∈ segments, s.IsQuoted) → snakeCaseKey key = key) ∧
    (snakeCaseKey key = mapped ↔
      (∀ s ∈ segments, ¬ s.IsQuoted) ∨ ∀ s ∈ segments, s.mapBare snakeCase = s) := by
  intro key mapped
  have unquoted : (∀ s ∈ segments, ¬ s.IsQuoted) → snakeCaseKey key = mapped :=
    mapKeyParts_of_bare rfl plain
  have quoted : (∃ s ∈ segments, s.IsQuoted) → snakeCaseKey key = key :=
    mapKeyParts_of_quoted plain
  refine ⟨unquoted, quoted, fun same => ?_, ?_⟩
  · by_cases marked : ∃ s ∈ segments, s.IsQuoted
    · right
      rw [quoted marked] at same
      rw [← Ident.chars_mapBare_eq_iff dot_notMem_snakeCase plain]
      have texts := congrArg String.toList same.symm
      rwa [Ident.toList_toSql, Ident.toList_toSql] at texts
    · left
      simpa using marked
  · rintro (bare | same)
    · exact unquoted bare
    · have kept : mapped = key := by
        simp only [mapped, key, List.map_congr_left same, List.map_id']
      by_cases marked : ∃ s ∈ segments, s.IsQuoted
      · rw [quoted marked, kept]
      · exact unquoted (by simpa using marked)

theorem snakeCaseKey_segments_names :
    (∀ s ∈ [Segment.bare "p", .bare "firstName"], s.Plain) ∧
    snakeCaseKey "p.firstName" = "p.first_name" ∧
    (∀ s ∈ [Segment.quoted "a.B", .bare "firstName"], s.Plain) ∧
    snakeCaseKey "\"a.B\".firstName" = "\"a.B\".firstName" := by
  have bare : ∀ s ∈ [Segment.bare "p", .bare "firstName"], s.Plain := by simp [Segment.Plain]
  have mixed : ∀ s ∈ [Segment.quoted "a.B", .bare "firstName"], s.Plain := by simp [Segment.Plain]
  have bareText : Ident.toSql ⟨[.bare "p", .bare "firstName"]⟩ = "p.firstName" := by
    decide +kernel
  have mixedText : Ident.toSql ⟨[.quoted "a.B", .bare "firstName"]⟩ = "\"a.B\".firstName" := by
    decide +kernel
  have mappedText : Ident.toSql ⟨[Segment.bare "p", .bare "firstName"].map
      (Segment.mapBare snakeCase)⟩ = "p.first_name" := by
    decide +kernel
  obtain ⟨mapped, -, -⟩ := snakeCaseKey_segments bare
  obtain ⟨-, kept, -⟩ := snakeCaseKey_segments mixed
  refine ⟨bare, ?_, mixed, ?_⟩
  · rw [← bareText, ← mappedText]
    exact mapped (by simp [Segment.IsQuoted])
  · rw [← mixedText]
    exact kept (by simp [Segment.IsQuoted])

/-- A quoted name keeps the name behind it from being mapped. -/
theorem quoted_name_keeps_next :
    (∀ s ∈ [Segment.quoted "A", .bare "firstName"], s.Plain) ∧
    snakeCaseKey (Ident.toSql ⟨[.quoted "A", .bare "firstName"]⟩) = "\"A\".firstName" ∧
    Ident.toSql ⟨[Segment.quoted "A", .bare "firstName"].map (Segment.mapBare snakeCase)⟩ =
      "\"A\".first_name" := by
  refine ⟨by simp [Segment.Plain], ?_, ?_⟩
  · decide +kernel
  · decide +kernel

end Text

end SqlBuilder
