import Mathlib.Data.String.Basic
import SqlBuilder.Proofs.Execution

/-!
# What events show

The events of a query show its SQL up to a limit. The limit counts bytes: a longer text is cut
behind the last character that fits, so no character is ever taken apart (`Shows`). A limit of
characters (`firstChars`) is kept to as long as the characters in question have one byte each;
otherwise fewer of them are shown (`Query.events_shown`).
-/

namespace SqlBuilder

open String (utf8Len)

/-! ### Characters and bytes -/

theorem length_le_utf8Len (cs : List Char) : cs.length ≤ utf8Len cs := by
  induction cs with
  | nil => exact Nat.le_refl 0
  | cons c cs ih =>
    have width := c.utf8Size_pos
    rw [List.length_cons, String.utf8Len_cons]
    omega

/-- A text has as many bytes as characters only if every character is one byte. -/
theorem utf8Len_eq_length_iff (cs : List Char) :
    utf8Len cs = cs.length ↔ ∀ c ∈ cs, c.utf8Size = 1 := by
  induction cs with
  | nil => simp
  | cons c cs ih =>
    have width := c.utf8Size_pos
    have rest := length_le_utf8Len cs
    rw [List.forall_mem_cons, ← ih, String.utf8Len_cons, List.length_cons]
    omega

/-! ### The characters that fit -/

theorem takeBytes_prefix (limit : Nat) (cs : List Char) :
    ∃ rest, cs = takeBytes limit cs ++ rest ∧
      ∀ c ∈ rest.head?, limit < utf8Len (takeBytes limit cs) + c.utf8Size := by
  fun_induction takeBytes limit cs with
  | case1 limit => exact ⟨[], rfl, nofun⟩
  | case2 limit c cs fits ih =>
    obtain ⟨rest, split, full⟩ := ih
    refine ⟨rest, congrArg (c :: ·) split, ?_⟩
    intro d hd
    have next := full d hd
    rw [String.utf8Len_cons]
    omega
  | case3 limit c cs large =>
    refine ⟨c :: cs, rfl, ?_⟩
    rintro _ ⟨⟩
    rw [String.utf8Len_nil]
    omega

theorem utf8Len_takeBytes_le (limit : Nat) (cs : List Char) :
    utf8Len (takeBytes limit cs) ≤ limit := by
  fun_induction takeBytes limit cs with
  | case1 limit => exact Nat.zero_le limit
  | case2 limit c cs fits ih =>
    rw [String.utf8Len_cons]
    omega
  | case3 limit c cs large => exact Nat.zero_le limit

/-- As many characters as the limit are taken if they have one byte each; wider ones leave room for
fewer. -/
theorem length_takeBytes_iff {limit : Nat} {cs : List Char} (long : limit < utf8Len cs) :
    (takeBytes limit cs).length = min limit cs.length ↔
      ∀ c ∈ cs.take limit, c.utf8Size = 1 := by
  obtain ⟨rest, split, full⟩ := takeBytes_prefix limit cs
  have fits := utf8Len_takeBytes_le limit cs
  have chars := length_le_utf8Len (takeBytes limit cs)
  generalize takeBytes limit cs = kept at split full fits chars
  subst split
  have width : (kept ++ rest).length = kept.length + rest.length := List.length_append
  cases rest with
  | nil =>
    rw [List.append_nil] at long
    omega
  | cons c rest =>
    constructor
    · intro same
      have all : kept.length = limit := by
        rw [List.length_cons] at width
        omega
      have taken : (kept ++ c :: rest).take limit = kept := by
        rw [← all, List.take_left]
      rw [taken, ← utf8Len_eq_length_iff]
      omega
    · intro narrow
      -- If fewer characters were taken, one more of them would still fit.
      by_contra fewer
      have less : kept.length < limit := by omega
      have inside : kept ++ [c] <+: (kept ++ c :: rest).take limit := by
        rw [List.prefix_take_iff, List.length_append, List.length_singleton]
        exact ⟨⟨rest, List.append_assoc ..⟩, less⟩
      have bytes := (utf8Len_eq_length_iff (kept ++ [c])).2 fun d hd =>
        narrow d (inside.subset hd)
      have next := full c rfl
      rw [String.utf8Len_append, String.utf8Len_cons, String.utf8Len_nil, List.length_append,
        List.length_singleton] at bytes
      omega

/-! ### The text that is shown -/

/-- The text under a limit of characters: the first of them, and dots if there are more. -/
def firstChars (limit : Nat) (sql : String) : String :=
  if sql.length ≤ limit then sql else String.ofList (sql.toList.take limit) ++ "..."

/-- What is shown of a text under a limit of bytes: all of it if it fits, and otherwise as many of
its first characters as fit, and dots. -/
inductive Shows (limit : Nat) (sql : String) : String → Prop
  | whole (fits : sql.utf8ByteSize ≤ limit) : Shows limit sql sql
  | cut {kept rest : String} (long : limit < sql.utf8ByteSize) (split : sql = kept ++ rest)
    (fits : kept.utf8ByteSize ≤ limit)
    (full : ∀ c ∈ rest.toList.head?, limit < kept.utf8ByteSize + c.utf8Size)
    (chars : kept.length = min limit sql.length ↔ ∀ c ∈ sql.toList.take limit, c.utf8Size = 1) :
    Shows limit sql (kept ++ "...")

theorem shownSql_some (limit : Nat) (sql : String) :
    shownSql (some limit) sql =
      if sql.utf8ByteSize ≤ limit then sql
      else String.ofList (takeBytes limit sql.toList) ++ "..." := rfl

theorem shows_shownSql (limit : Nat) (sql : String) :
    Shows limit sql (shownSql (some limit) sql) := by
  rw [shownSql_some]
  split_ifs with fits
  · exact .whole fits
  · have long : limit < utf8Len sql.toList := by
      rw [String.utf8Len_toList]
      omega
    obtain ⟨rest, split, full⟩ := takeBytes_prefix limit sql.toList
    have text : sql = String.ofList (takeBytes limit sql.toList) ++ String.ofList rest := by
      rw [← String.ofList_append, ← split, String.ofList_toList]
    refine .cut (by omega) text ?_ ?_ ?_
    · rw [String.utf8ByteSize_ofList]
      exact utf8Len_takeBytes_le limit sql.toList
    · rw [String.utf8ByteSize_ofList, String.toList_ofList]
      exact full
    · rw [String.length_ofList, ← String.length_toList]
      exact length_takeBytes_iff long

/-- A limit of bytes is a limit of characters where every character has one byte. -/
theorem shownSql_eq_firstChars {limit : Nat} {sql : String}
    (narrow : sql.utf8ByteSize ≤ limit ∨ ∀ c ∈ sql.toList.take limit, c.utf8Size = 1) :
    shownSql (some limit) sql = firstChars limit sql := by
  have chars := length_le_utf8Len sql.toList
  rw [String.length_toList, String.utf8Len_toList] at chars
  rw [shownSql_some, firstChars]
  split_ifs with fits short short
  · rfl
  · omega
  · have all : sql.toList.take limit = sql.toList := by
      rw [List.take_of_length_le]
      rwa [String.length_toList]
    have bytes := narrow.resolve_left fits
    rw [all, ← utf8Len_eq_length_iff, String.utf8Len_toList, String.length_toList] at bytes
    omega
  · have long : limit < utf8Len sql.toList := by
      rw [String.utf8Len_toList]
      omega
    have full := (length_takeBytes_iff long).2 (narrow.resolve_left fits)
    obtain ⟨rest, split, -⟩ := takeBytes_prefix limit sql.toList
    have kept : takeBytes limit sql.toList = sql.toList.take (takeBytes limit sql.toList).length :=
      List.prefix_iff_eq_take.1 ⟨rest, split.symm⟩
    rw [full, List.take_eq_take_min.symm] at kept
    rw [kept]

/-! ### Events -/

namespace Query

open Executable

/-- Executing a query reports its statement twice, when it has been compiled and when it is about to
be sent, under the limit of its configuration; a statement is reported once, under the default
limit. Without a limit the whole text is shown. Under one it is shown as far as its bytes fit, in
whole characters; this is what a limit of characters gives as long as these have one byte each. -/
theorem events_shown {α : Type} (operation : Operation) (ask : Statement → Exchange α) :
    (∀ (q : Query Operand) (c : Compiled), q.compile = .ok c →
      let shown := shownSql q.config.maxLoggedSql c.statement.text
      q.compileLogged.events = [.compiled c.kind c.statement.args.length shown] ∧
      (perform operation ask q).events =
        [.compiled c.kind c.statement.args.length shown,
          .executing operation c.statement.args.length shown]) ∧
    (∀ (q : Query Operand) (e : Error), q.compile = .error e →
      (perform operation ask q).events = [.compileFailed e]) ∧
    (∀ s : Statement, (perform operation ask s).events =
      [.executing operation s.args.length (shownSql (some 200) s.text)]) ∧
    (∀ sql, shownSql none sql = sql) ∧
    ∀ limit sql, Shows limit sql (shownSql (some limit) sql) ∧
      (sql.utf8ByteSize ≤ limit ∨ (∀ c ∈ sql.toList.take limit, c.utf8Size = 1) →
        shownSql (some limit) sql = firstChars limit sql) := by
  refine ⟨?_, ?_, fun s => rfl, fun sql => rfl, fun limit sql => ?_⟩
  · intro q c hc shown
    constructor
    · rw [compileLogged, hc]
    · rw [perform, prepare_of_ok hc]
      rfl
  · intro q e he
    rw [perform, prepare_of_error he]
    rfl
  · exact ⟨shows_shownSql limit sql, shownSql_eq_firstChars⟩

/-- Selects a text that may hold any character, under a limit of events. -/
def selectText (limit : Nat) (text : String) : Query Operand :=
  (Query.new { Config.identity with maxLoggedSql := some limit }).manual
    ("select '" ++ text ++ "'")

theorem events_shown_selectText :
    let q := selectText 10 "Anna"
    let s : Statement := ⟨"select 'Anna'", []⟩
    q.compile = .ok ⟨.manual, s⟩ ∧
    (perform .fetchAll (.send fun _ => .ok ()) q).events =
      [.compiled .manual 0 (shownSql (some 10) s.text),
        .executing .fetchAll 0 (shownSql (some 10) s.text)] ∧
    Shows 10 s.text (shownSql (some 10) s.text) ∧
    (∀ c ∈ s.text.toList.take 10, c.utf8Size = 1) ∧
    shownSql (some 10) s.text = firstChars 10 s.text ∧
    firstChars 10 s.text = "select 'An..." := by
  intro q s
  have compiled : q.compile = .ok ⟨.manual, s⟩ := rfl
  have narrow : ∀ c ∈ s.text.toList.take 10, c.utf8Size = 1 := by
    have widths : (s.text.toList.take 10).map Char.utf8Size = List.replicate 10 1 := by
      decide +kernel
    intro c hc
    have width := List.mem_map_of_mem (f := Char.utf8Size) hc
    rw [widths] at width
    exact List.eq_of_mem_replicate width
  obtain ⟨events, -, -, -, text⟩ :=
    events_shown (α := Unit) .fetchAll (.send fun _ => .ok ())
  obtain ⟨shows, chars⟩ := text 10 s.text
  exact ⟨compiled, (events q _ compiled).2, shows, narrow, chars (.inr narrow), by decide +kernel⟩

/-- A text of ten characters is cut under a limit of ten if one of them has two bytes. -/
theorem text_cut_short :
    let q := selectText 10 "é"
    let s : Statement := ⟨"select 'é'", []⟩
    q.compile = .ok ⟨.manual, s⟩ ∧
    q.compileLogged.events = [.compiled .manual 0 "select 'é..."] ∧
    s.text.length = 10 ∧ firstChars 10 s.text = s.text := by
  intro q s
  have shown : shownSql (some 10) s.text = "select 'é..." := by decide +kernel
  refine ⟨rfl, ?_, by decide +kernel, by decide +kernel⟩
  rw [← shown]
  rfl

end Query

end SqlBuilder
