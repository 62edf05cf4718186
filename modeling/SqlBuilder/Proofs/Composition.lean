import SqlBuilder.Proofs.Chains
import SqlBuilder.Proofs.Operand

/-!
# Combining conditions

A combination may be built in one step or in several, and operands that give no condition may be
left out of it. Which operands those are is a matter of their form alone (`Operand.Void`), and so
is leaving them out (`Operand.Prunes`); neither depends on the configuration.
-/

namespace SqlBuilder

variable {α : Type} (config : Config)

/-! ### What terms mean as conditions -/

namespace Condition

theorem ofTerm_predicate (c : Except Error (Option Condition)) :
    ofTerm config (.predicate c) = c :=
  rfl

theorem ofTerm_record (r : Record Term) : ofTerm config (.record r) = ofRecord config r :=
  rfl

/-- Conditions may be combined from the left in several steps. -/
theorem combine_append (op : Condition → Condition → Condition) (cs ds : List Condition) :
    combine op (cs ++ ds) = combine op ((combine op cs).toList ++ ds) := by
  cases cs with
  | nil => rfl
  | cons c rest => simp [combine]

theorem combine_toList (op : Condition → Condition → Condition) (c : Option Condition) :
    combine op c.toList = c := by
  cases c <;> rfl

theorem ofTerms_append (ts ts' : List Term) :
    ofTerms config (ts ++ ts') = do
      let cs ← ofTerms config ts
      let ds ← ofTerms config ts'
      return cs ++ ds := by
  simp only [ofTerms, List.mapM_append]
  cases ts.mapM (ofTerm config) with
  | error e => rfl
  | ok cs =>
    cases ts'.mapM (ofTerm config) with
    | error e => rfl
    | ok ds => exact congrArg Except.ok List.filterMap_append

theorem ofTerms_singleton (t : Term) :
    ofTerms config [t] = (ofTerm config t).map Option.toList := by
  cases h : ofTerm config t with
  | error e => simp [ofTerms, h, Except.map, bind, Except.bind]
  | ok c => cases c <;> simp [ofTerms, h, Except.map, bind, Except.bind, pure, Except.pure]

/-- The operands of a call mean what they mean as one predicate. -/
theorem anyOf_singleton (t : Term) : anyOf config [t] = ofTerm config t := by
  rw [anyOf, ofTerms_singleton]
  cases ofTerm config t with
  | error e => rfl
  | ok c => exact congrArg Except.ok (combine_toList .or c)

/-- The first terms of a combination may be combined by themselves. -/
theorem map_combine_append (op : Condition → Condition → Condition) (ts ts' : List Term) :
    (ofTerms config (ts ++ ts')).map (combine op) =
      (ofTerms config (.predicate ((ofTerms config ts).map (combine op)) :: ts')).map
        (combine op) := by
  rw [← List.singleton_append (l := ts'), ofTerms_append, ofTerms_append, ofTerms_singleton]
  cases hts : ofTerms config ts with
  | error e => rfl
  | ok cs =>
    cases ofTerms config ts' with
    | error e => rfl
    | ok ds => exact congrArg Except.ok (combine_append op cs ds)

/-- What gives no condition adds nothing to the conditions around it. -/
theorem mapM_void {β : Type} {f : β → Except Error (Option Condition)} {x : β}
    (void : f x = .ok none) (xs ys : List β) :
    ((xs ++ x :: ys).mapM f).map (fun cs => cs.filterMap id) =
      ((xs ++ ys).mapM f).map fun cs => cs.filterMap id := by
  rw [List.mapM_append, List.mapM_cons, List.mapM_append, void]
  cases xs.mapM f with
  | error e => rfl
  | ok cs =>
    cases ys.mapM f with
    | error e => rfl
    | ok ds =>
      simp only [bind, Except.bind, pure, Except.pure, Except.map, List.filterMap_append]
      rfl

theorem ofTerms_void {t : Term} (void : ofTerm config t = .ok none) (ts ts' : List Term) :
    ofTerms config (ts ++ t :: ts') = ofTerms config (ts ++ ts') :=
  mapM_void void ts ts'

theorem ofRecord_void {e : String × Term} (void : ofEntry config e = .ok none)
    (es es' : List (String × Term)) :
    ofRecord config ⟨es ++ e :: es'⟩ = ofRecord config ⟨es ++ es'⟩ := by
  have presentOnly (entries : List (String × Term)) : ofRecord config ⟨entries⟩ =
      ((entries.mapM (ofEntry config)).map fun cs => cs.filterMap id).map conjoin := by
    simp only [ofRecord]
    cases entries.mapM (ofEntry config) <;> rfl
  rw [presentOnly, presentOnly, mapM_void void]

/-- Terms that mean the same may be exchanged among others. -/
theorem ofTerms_exchange {t u : Term} (same : ofTerm config t = ofTerm config u)
    (ts ts' : List Term) : ofTerms config (ts ++ t :: ts') = ofTerms config (ts ++ u :: ts') := by
  simp only [ofTerms, List.mapM_append, List.mapM_cons, same]

theorem ofRecord_exchange {e e' : String × Term} (same : ofEntry config e = ofEntry config e')
    (es es' : List (String × Term)) :
    ofRecord config ⟨es ++ e :: es'⟩ = ofRecord config ⟨es ++ e' :: es'⟩ := by
  simp only [ofRecord, List.mapM_append, List.mapM_cons, same]

/-! ### What calls add to a chain -/

theorem conjunctsOf_singleton (t : Term) :
    conjunctsOf config [[t]] = (ofTerm config t).map chain := by
  rw [conjunctsOf, List.mapM_cons, anyOf_singleton]
  cases ofTerm config t with
  | error e => rfl
  | ok c => exact congrArg Except.ok (List.flatMap_singleton chain c)

/-- Calls of one term each add what the conjunction of the terms adds. -/
theorem conjunctsOf_each (ts : List Term) :
    conjunctsOf config (ts.map fun t => [t]) =
      conjunctsOf config [[.predicate (allOf config ts)]] := by
  have each : conjunctsOf config (ts.map fun t => [t]) =
      (ts.mapM (ofTerm config)).map fun cs => cs.flatMap chain := by
    rw [conjunctsOf, List.mapM_map]
    simp only [Function.comp_def, anyOf_singleton]
  rw [each, conjunctsOf_singleton, ofTerm_predicate]
  simp only [allOf, ofTerms]
  cases ts.mapM (ofTerm config) with
  | error e => rfl
  | ok cs => exact congrArg Except.ok (chain_conjoin_filterMap cs).symm

/-- Alternatives in one call add what their disjunction adds. -/
theorem conjunctsOf_any (ts : List Term) :
    conjunctsOf config [ts] = conjunctsOf config [[.predicate (anyOf config ts)]] := by
  have same : anyOf config ts = anyOf config [.predicate (anyOf config ts)] :=
    (anyOf_singleton config (.predicate (anyOf config ts))).symm
  simp only [conjunctsOf, List.mapM_cons, ← same]

/-- A mapping may be cut in two. -/
theorem conjunctsOf_record (entries entries' : List (String × Term)) :
    conjunctsOf config [[.record ⟨entries ++ entries'⟩]] =
      conjunctsOf config [[.record ⟨entries⟩], [.record ⟨entries'⟩]] := by
  have record (es : List (String × Term)) : conjunctsOf config [[.record ⟨es⟩]] =
      (es.mapM (ofEntry config)).map fun cs => cs.flatMap chain := by
    rw [conjunctsOf_singleton, ofTerm_record]
    simp only [ofRecord]
    cases es.mapM (ofEntry config) with
    | error e => rfl
    | ok cs => exact congrArg Except.ok (chain_conjoin_filterMap cs)
  rw [← List.singleton_append (l := [[Term.record ⟨entries'⟩]]), conjunctsOf_append, record, record,
    record, List.mapM_append]
  cases entries.mapM (ofEntry config) with
  | error e => rfl
  | ok cs =>
    cases entries'.mapM (ofEntry config) with
    | error e => rfl
    | ok ds => exact congrArg Except.ok List.flatMap_append

end Condition

/-! ### Operands -/

namespace Operand

theorem ofTerm_not (x : Operand) :
    Condition.ofTerm config ((Operand.predicate (.not x)).term config) =
      Condition.noneOf config (x.term config) := by
  rw [term_not, Condition.ofTerm_predicate]

theorem ofTerm_all (xs : List Operand) :
    Condition.ofTerm config ((Operand.predicate (.all xs)).term config) =
      (Condition.ofTerms config (xs.map (Operand.term config))).map (Condition.combine .and) := by
  rw [term_all, Condition.ofTerm_predicate]
  rfl

theorem ofTerm_any (xs : List Operand) :
    Condition.ofTerm config ((Operand.predicate (.any xs)).term config) =
      (Condition.ofTerms config (xs.map (Operand.term config))).map (Condition.combine .or) := by
  rw [term_any, Condition.ofTerm_predicate]
  rfl

theorem ofEntry_predicate (key : String) (p : Predicate Operand) :
    Condition.ofEntry config (key, (Operand.predicate p).term config) =
      Condition.ofTerm config ((Operand.predicate p).term config) := by
  simp only [Operand.term]
  rfl

/-- Two operands stand for the same condition under every configuration, or fail alike. -/
def Alike (x y : Operand) : Prop :=
  ∀ config, Condition.ofTerm config (x.term config) = Condition.ofTerm config (y.term config)

/-- The operands that give no condition: mappings without entries, and combinations of nothing
but such operands. -/
inductive Void : Operand → Prop
  | object : Void (.value (.json (.object ⟨[]⟩)))
  | record {entries : List (String × Operand)} :
    (∀ e ∈ entries, ∃ p, e.2 = .predicate p) → (∀ e ∈ entries, Void e.2) →
      Void (.record ⟨entries⟩)
  | not {x : Operand} : Void x → Void (.predicate (.not x))
  | all {xs : List Operand} : (∀ x ∈ xs, Void x) → Void (.predicate (.all xs))
  | any {xs : List Operand} : (∀ x ∈ xs, Void x) → Void (.predicate (.any xs))

/-- The second operand is the first one with operands left out that give no condition. -/
inductive Prunes : Operand → Operand → Prop
  | refl (x : Operand) : Prunes x x
  | trans {x y z : Operand} : Prunes x y → Prunes y z → Prunes x z
  | not {x y : Operand} : Prunes x y → Prunes (.predicate (.not x)) (.predicate (.not y))
  | all {x y : Operand} (xs ys : List Operand) : Prunes x y →
    Prunes (.predicate (.all (xs ++ x :: ys))) (.predicate (.all (xs ++ y :: ys)))
  | any {x y : Operand} (xs ys : List Operand) : Prunes x y →
    Prunes (.predicate (.any (xs ++ x :: ys))) (.predicate (.any (xs ++ y :: ys)))
  | entry {p p' : Predicate Operand} (key : String) (es es' : List (String × Operand)) :
    Prunes (.predicate p) (.predicate p') →
      Prunes (.record ⟨es ++ (key, .predicate p) :: es'⟩)
        (.record ⟨es ++ (key, .predicate p') :: es'⟩)
  | fromAll {v : Operand} (xs ys : List Operand) : v.Void →
    Prunes (.predicate (.all (xs ++ v :: ys))) (.predicate (.all (xs ++ ys)))
  | fromAny {v : Operand} (xs ys : List Operand) : v.Void →
    Prunes (.predicate (.any (xs ++ v :: ys))) (.predicate (.any (xs ++ ys)))
  | fromRecord {p : Predicate Operand} (key : String) (es es' : List (String × Operand)) :
    Void (.predicate p) →
      Prunes (.record ⟨es ++ (key, .predicate p) :: es'⟩) (.record ⟨es ++ es'⟩)

end Operand

namespace Condition

/-- A combination is missing exactly if nothing that it combines is there. -/
theorem combine_mapM_eq_none_iff {α : Type} (op : Condition → Condition → Condition)
    (f : α → Except Error (Option Condition)) (xs : List α) :
    (xs.mapM f).map (fun cs => combine op (cs.filterMap id)) = .ok none ↔
      ∀ x ∈ xs, f x = .ok none := by
  have missing (cs : List (Option Condition)) :
      combine op (cs.filterMap id) = none ↔ ∀ c ∈ cs, c = none := by
    have empty (ds : List Condition) : combine op ds = none ↔ ds = [] := by
      cases ds <;> simp [combine]
    rw [empty, List.filterMap_eq_nil_iff]
    rfl
  induction xs with
  | nil => exact ⟨fun _ => nofun, fun _ => rfl⟩
  | cons x xs ih =>
    rw [List.mapM_cons, List.forall_mem_cons]
    refine Iff.trans ?_ (and_congr_right fun _ => ih)
    cases f x with
    | error e => exact ⟨nofun, nofun⟩
    | ok c =>
      cases xs.mapM f with
      | error e => exact ⟨nofun, nofun⟩
      | ok cs =>
        simp only [bind, Except.bind, pure, Except.pure, Except.map, Except.ok.injEq, missing,
          List.forall_mem_cons]

theorem map_combine_ofTerms (op : Condition → Condition → Condition) (ts : List Term) :
    (ofTerms config ts).map (combine op) =
      (ts.mapM (ofTerm config)).map fun cs => combine op (cs.filterMap id) := by
  rw [ofTerms]
  cases ts.mapM (ofTerm config) <;> rfl

theorem noneOf_eq_none_iff (t : Term) :
    noneOf config t = .ok none ↔ ofTerm config t = .ok none := by
  rw [noneOf]
  cases ofTerm config t with
  | error e => exact ⟨nofun, nofun⟩
  | ok c => cases c <;> simp [Except.map]

/-- Only a predicate gives no condition as an entry of a mapping. -/
theorem ofEntry_eq_none_iff (key : String) (t : Term) :
    ofEntry config (key, t) = .ok none ↔ t = .predicate (.ok none) := by
  have comparison : ∀ f : Except Error Fragment,
      (f.map fun f => some (Condition.leaf f)) ≠ .ok none := by
    rintro (e | f) ⟨⟩
  cases t with
  | predicate c => simp [ofEntry]
  | default | record r => simp [ofEntry]
  | _ => simp [ofEntry, comparison]

end Condition

namespace Operand

theorem void_record_iff (entries : List (String × Operand)) :
    Void (.record ⟨entries⟩) ↔ ∀ e ∈ entries, (∃ p, e.2 = .predicate p) ∧ Void e.2 := by
  constructor
  · rintro (_ | ⟨predicates, void⟩) e he
    exact ⟨predicates e he, void e he⟩
  · intro h
    exact .record (fun e he => (h e he).1) fun e he => (h e he).2

/-- Only predicates become predicates. -/
theorem exists_predicate_of_term {x : Operand} {c : Except Error (Option Condition)}
    (h : x.term config = .predicate c) : ∃ p, x = .predicate p := by
  cases x with
  | predicate p => exact ⟨p, rfl⟩
  | _ => simp [Operand.term] at h

/-- Of the values only a JSON object without members gives no condition. -/
theorem void_value_iff (v : Value) :
    Void (.value v) ↔ Condition.ofTerm config (.value v) = .ok none := by
  have other (h : ∀ members, v ≠ .json (.object members)) :
      Condition.ofTerm config (.value v) ≠ .ok none := by
    unfold Condition.ofTerm Term.entries?
    split
    · rename_i entries
      split at entries
      · contradiction
      · rename_i members object
        cases object
        exact absurd rfl (h members)
      · cases entries
    · exact nofun
  constructor
  · rintro ⟨⟩
    rfl
  · intro none
    by_contra void
    apply other _ none
    rintro ⟨members⟩ rfl
    cases members with
    | nil => exact void .object
    | cons member members =>
      have compared := (Condition.combine_mapM_eq_none_iff _ _ _).1 none
      cases (Condition.ofEntry_eq_none_iff config _ _).1 (compared _ List.mem_cons_self)

/-- An operand gives no condition exactly if it is of that form, whatever the configuration. -/
theorem void_iff (x : Operand) : x.Void ↔ Condition.ofTerm config (x.term config) = .ok none := by
  have leaf : ∀ f : Except Error Fragment, ∀ form : Fragment → Condition,
      (f.map fun f => some (form f)) ≠ .ok none := by
    rintro (e | f) form ⟨⟩
  -- SQL always gives a condition, by `leaf`. What is made of other operands gives none if none of
  -- these does, which is the hypothesis of the induction.
  induction x using Operand.induction with
  | value v => exact void_value_iff config v
  | default => exact ⟨nofun, nofun⟩
  | raw sql => exact ⟨nofun, nofun⟩
  | template parts args =>
    rw [term_template]
    exact ⟨nofun, fun h => absurd h (leaf _ _)⟩
  | query query history =>
    rw [term_query]
    exact ⟨nofun, fun h => absurd h (leaf _ _)⟩
  | statement s =>
    rw [term_statement]
    exact ⟨nofun, fun h => absurd h (leaf _ _)⟩
  | record entries ih =>
    rw [void_record_iff, term_record, Condition.ofTerm_record, Condition.ofRecord,
      Condition.conjoin, Condition.combine_mapM_eq_none_iff, List.forall_mem_map]
    refine forall₂_congr fun e he => ?_
    refine Iff.trans (and_congr_right fun _ => ih e he) ?_
    rw [Condition.ofEntry_eq_none_iff]
    constructor
    · rintro ⟨⟨p, hp⟩, none⟩
      rw [hp] at none ⊢
      exact congrArg Term.predicate none
    · intro none
      obtain ⟨p, hp⟩ := exists_predicate_of_term config none
      refine ⟨⟨p, hp⟩, ?_⟩
      rw [none]
      rfl
  | not x ih =>
    rw [ofTerm_not, Condition.noneOf_eq_none_iff]
    exact Iff.trans ⟨fun | .not h => h, .not⟩ ih
  | all xs ih =>
    rw [ofTerm_all, Condition.map_combine_ofTerms, Condition.combine_mapM_eq_none_iff,
      List.forall_mem_map, ← forall₂_congr ih]
    exact ⟨fun | .all h => h, .all⟩
  | any xs ih =>
    rw [ofTerm_any, Condition.map_combine_ofTerms, Condition.combine_mapM_eq_none_iff,
      List.forall_mem_map, ← forall₂_congr ih]
    exact ⟨fun | .any h => h, .any⟩

/-- Leaving out what gives no condition changes nothing. -/
theorem Prunes.alike {x y : Operand} (h : x.Prunes y) : x.Alike y := by
  intro config
  have void {v : Operand} (h : v.Void) := (void_iff config v).1 h
  induction h with
  | refl x => rfl
  | trans _ _ ih ih' => exact ih.trans ih'
  | not _ ih => rw [ofTerm_not, ofTerm_not, Condition.noneOf, ih, Condition.noneOf]
  | all xs ys _ ih =>
    simp only [ofTerm_all, List.map_append, List.map_cons, Condition.ofTerms_exchange config ih]
  | any xs ys _ ih =>
    simp only [ofTerm_any, List.map_append, List.map_cons, Condition.ofTerms_exchange config ih]
  | entry key es es' _ ih =>
    simp only [term_record, Condition.ofTerm_record, List.map_append, List.map_cons]
    apply Condition.ofRecord_exchange
    rw [ofEntry_predicate, ofEntry_predicate, ih]
  | fromAll xs ys h =>
    simp only [ofTerm_all, List.map_append, List.map_cons, Condition.ofTerms_void config (void h)]
  | fromAny xs ys h =>
    simp only [ofTerm_any, List.map_append, List.map_cons, Condition.ofTerms_void config (void h)]
  | fromRecord key es es' h =>
    simp only [term_record, Condition.ofTerm_record, List.map_append, List.map_cons]
    apply Condition.ofRecord_void
    rw [ofEntry_predicate, void h]

/-- A JSON object is the mapping of its members. -/
theorem alike_object (members : Record Json) :
    Alike (.value (.json (.object members))) (.record (Record.ofMembers members)) := by
  intro config
  rw [Record.ofMembers, Record.map, term_record, List.map_map]
  rfl

/-- A conjunction may be extended in place. -/
theorem alike_and (p : Predicate Operand) (x : Operand) :
    Alike (.predicate (p.and x)) (.predicate (.all [.predicate p, x])) := by
  cases p with
  | all xs =>
    intro config
    rw [Predicate.and, ofTerm_all, ofTerm_all, List.map_append, Condition.map_combine_append]
    simp only [List.map_cons, term_all]
    rfl
  | not | any => exact fun _ => rfl

/-- A disjunction may be extended in place. -/
theorem alike_or (p : Predicate Operand) (x : Operand) :
    Alike (.predicate (p.or x)) (.predicate (.any [.predicate p, x])) := by
  cases p with
  | any xs =>
    intro config
    rw [Predicate.or, ofTerm_any, ofTerm_any, List.map_append, Condition.map_combine_append]
    simp only [List.map_cons, term_any]
    rfl
  | not | all => exact fun _ => rfl

end Operand

end SqlBuilder
