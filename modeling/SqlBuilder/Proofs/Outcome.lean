import Mathlib.Data.List.Forall2
import SqlBuilder.Error

/-!
# Outcomes of computations

Two computations agree when both fail with the same error or both succeed with related results.
Agreement passes through the ways in which computations are put together, so whatever is related
at the leaves of two runs is related at their ends. `Ensures` is the same for a single run: what
holds of the result if there is one, and `FailsWith` is what holds of the error.
-/

namespace SqlBuilder

variable {α β γ δ : Type}

/-- A traversal succeeds when every step does, with one result for each element. -/
theorem mapM_eq_ok_iff {f : α → Except Error β} {xs : List α} {ys : List β} :
    xs.mapM f = .ok ys ↔ List.Forall₂ (fun x y => f x = .ok y) xs ys := by
  induction xs generalizing ys with
  | nil => cases ys <;> simp [pure, Except.pure]
  | cons x xs ih =>
    simp only [List.mapM_cons]
    cases hx : f x with
    | error e => cases ys <;> simp [bind, Except.bind, hx]
    | ok y =>
      cases hxs : xs.mapM f with
      | error e => cases ys <;> simp [bind, Except.bind, hx, ← ih, hxs]
      | ok rest =>
        cases ys <;> simp [bind, Except.bind, pure, Except.pure, hx, ← ih, hxs]

/-- A traversal fails with the first error in the order of the list. -/
theorem mapM_eq_error_iff {f : α → Except Error β} {xs : List α} {e : Error} :
    xs.mapM f = .error e ↔ ∃ (i : Nat) (x : α), xs[i]? = some x ∧ f x = .error e ∧
      ∀ (j : Nat) (y : α), j < i → xs[j]? = some y → (f y).isOk := by
  induction xs with
  | nil => simp [pure, Except.pure]
  | cons x xs ih =>
    rw [List.mapM_cons]
    cases hx : f x with
    | error e' =>
      constructor
      · rintro ⟨⟩
        exact ⟨0, x, rfl, hx, nofun⟩
      · rintro ⟨i, y, hy, failed, before⟩
        cases i with
        | zero =>
          cases hy
          rw [hx] at failed
          cases failed
          rfl
        | succ i =>
          have ok := before 0 x (Nat.zero_lt_succ i) rfl
          rw [hx] at ok
          cases ok
    | ok b =>
      have rest : (.ok b >>= fun b => xs.mapM f >>= fun bs => pure (b :: bs)) =
          Except.error (α := List β) e ↔ xs.mapM f = .error e := by
        cases xs.mapM f <;> simp [bind, Except.bind, pure, Except.pure]
      rw [rest, ih]
      constructor
      · rintro ⟨i, y, hy, failed, before⟩
        refine ⟨i + 1, y, hy, failed, ?_⟩
        intro j z less hz
        cases j with
        | zero =>
          cases hz
          rw [hx]
          rfl
        | succ j => exact before j z (Nat.lt_of_succ_lt_succ less) hz
      · rintro ⟨i, y, hy, failed, before⟩
        cases i with
        | zero =>
          cases hy
          rw [hx] at failed
          cases failed
        | succ i =>
          exact ⟨i, y, hy, failed, fun j z less => before (j + 1) z (Nat.succ_lt_succ less)⟩

/-- A traversal whose steps all succeed is a map. -/
theorem mapM_eq_ok_map {f : α → Except Error β} {g : α → β} {xs : List α}
    (h : ∀ x ∈ xs, f x = .ok (g x)) : xs.mapM f = .ok (xs.map g) :=
  mapM_eq_ok_iff.2 (List.forall₂_map_right_iff.2 (List.forall₂_same.2 h))

theorem mapM_congr {f g : α → Except Error β} {xs : List α} (h : ∀ x ∈ xs, f x = g x) :
    xs.mapM f = xs.mapM g := by
  induction xs with
  | nil => rfl
  | cons x xs ih =>
    obtain ⟨first, others⟩ := List.forall_mem_cons.1 h
    rw [List.mapM_cons, List.mapM_cons, first, ih others]

theorem isOk_iff {x : Except Error α} : x.isOk ↔ ∃ a, x = .ok a := by
  cases x with
  | ok a => exact iff_of_true rfl ⟨a, rfl⟩
  | error e => exact iff_of_false nofun nofun

theorem map_eq_ok {x : Except Error α} {f : α → β} {b : β} (h : x.map f = .ok b) :
    ∃ a, x = .ok a ∧ b = f a := by
  cases x with
  | ok a => exact ⟨a, rfl, (Except.ok.inj h).symm⟩
  | error e => cases h

@[simp] theorem isOk_map (x : Except Error α) (f : α → β) : (x.map f).isOk = x.isOk := by
  cases x <;> rfl

/-- A traversal succeeds exactly if every step does. -/
theorem isOk_mapM_iff {f : α → Except Error β} {xs : List α} :
    (xs.mapM f).isOk ↔ ∀ x ∈ xs, (f x).isOk := by
  induction xs with
  | nil => exact iff_of_true rfl nofun
  | cons x xs ih =>
    rw [List.mapM_cons, List.forall_mem_cons, ← ih]
    cases f x with
    | error e => exact iff_of_false nofun fun h => nomatch h.1
    | ok y =>
      cases xs.mapM f <;>
        simp [bind, Except.bind, pure, Except.pure, Except.isOk, Except.toBool]

/-- Results may be changed after the traversal instead of one by one. -/
theorem mapM_map_eq (f : α → Except Error β) (g : β → γ) (xs : List α) :
    (xs.mapM fun x => (f x).map g) = (xs.mapM f).map (List.map g) := by
  induction xs with
  | nil => rfl
  | cons x xs ih =>
    simp only [List.mapM_cons, ih]
    cases f x with
    | error e => rfl
    | ok y => cases xs.mapM f <;> rfl

variable {S : α → β → Prop} {T : γ → δ → Prop}

/-- The same error on both sides, or results that are related. -/
inductive Agree (S : α → β → Prop) : Except Error α → Except Error β → Prop
  | ok {a : α} {b : β} (related : S a b) : Agree S (.ok a) (.ok b)
  | error (e : Error) : Agree S (.error e) (.error e)

namespace Agree

theorem mono {S' : α → β → Prop} {x : Except Error α} {y : Except Error β} (h : Agree S x y)
    (weaker : ∀ a b, S a b → S' a b) : Agree S' x y := by
  cases h with
  | ok related => exact .ok (weaker _ _ related)
  | error e => exact .error e

theorem eq {x y : Except Error α} (h : Agree Eq x y) : x = y := by
  cases h with
  | ok related => rw [related]
  | error e => rfl

theorem refl {S : α → α → Prop} (h : ∀ a, S a a) (x : Except Error α) : Agree S x x := by
  cases x with
  | ok a => exact .ok (h a)
  | error e => exact .error e

theorem bind {x : Except Error α} {y : Except Error β} {f : α → Except Error γ}
    {g : β → Except Error δ} (h : Agree S x y) (next : ∀ a b, S a b → Agree T (f a) (g b)) :
    Agree T (x >>= f) (y >>= g) := by
  cases h with
  | ok related => exact next _ _ related
  | error e => exact .error e

theorem map {x : Except Error α} {y : Except Error β} {f : α → γ} {g : β → δ} (h : Agree S x y)
    (next : ∀ a b, S a b → T (f a) (g b)) : Agree T (x.map f) (y.map g) := by
  cases h with
  | ok related => exact .ok (next _ _ related)
  | error e => exact .error e

theorem mapM {xs : List α} {ys : List β} {f : α → Except Error γ} {g : β → Except Error δ}
    (h : List.Forall₂ S xs ys) (step : ∀ a b, S a b → Agree T (f a) (g b)) :
    Agree (List.Forall₂ T) (xs.mapM f) (ys.mapM g) := by
  induction h with
  | nil => exact .ok .nil
  | cons head _ ih =>
    simp only [List.mapM_cons]
    exact (step _ _ head).bind fun c d related =>
      ih.bind fun cs ds rest => .ok (.cons related rest)

/-- The same computation comes first on both sides. -/
theorem bind_same {x : Except Error α} {f : α → Except Error γ} {g : α → Except Error δ}
    (next : ∀ a, Agree T (f a) (g a)) : Agree T (x >>= f) (x >>= g) := by
  cases x with
  | ok a => exact next a
  | error e => exact .error e

theorem map_same {x : Except Error α} {f : α → γ} {g : α → δ} (next : ∀ a, T (f a) (g a)) :
    Agree T (x.map f) (x.map g) := by
  cases x with
  | ok a => exact .ok (next a)
  | error e => exact .error e

/-- The same list is traversed on both sides. -/
theorem mapM_same {xs : List α} {f : α → Except Error γ} {g : α → Except Error δ}
    (step : ∀ a, Agree T (f a) (g a)) : Agree (List.Forall₂ T) (xs.mapM f) (xs.mapM g) := by
  refine mapM (S := Eq) (List.forall₂_same.2 fun _ _ => rfl) fun a b same => ?_
  rw [← same]
  exact step a

theorem foldlM {xs : List α} {ys : List β} {f : γ → α → Except Error γ}
    {g : δ → β → Except Error δ} (h : List.Forall₂ S xs ys)
    (step : ∀ a b s t, S a b → T s t → Agree T (f s a) (g t b)) {s : γ} {t : δ} (start : T s t) :
    Agree T (xs.foldlM f s) (ys.foldlM g t) := by
  induction h generalizing s t with
  | nil => exact .ok start
  | cons head _ ih =>
    simp only [List.foldlM_cons]
    exact (step _ _ _ _ head start).bind fun _ _ related => ih related

end Agree

/-- If the computation succeeds, its result has the property. -/
def Ensures (x : Except Error α) (P : α → Prop) : Prop := ∀ a, x = .ok a → P a

namespace Ensures

variable {P P' : α → Prop} {Q : β → Prop} {x : Except Error α}

theorem ok {a : α} (h : P a) : Ensures (.ok a) P := by
  intro b hb
  cases hb
  exact h

theorem error (e : Error) : Ensures (.error e) P := by
  intro a ha
  cases ha

theorem mono (h : Ensures x P) (weaker : ∀ a, P a → P' a) : Ensures x P' :=
  fun a ha => weaker a (h a ha)

theorem map {f : α → β} (h : Ensures x P) (next : ∀ a, P a → Q (f a)) : Ensures (x.map f) Q := by
  cases x with
  | ok a => exact .ok (next a (h a rfl))
  | error e => exact .error e

theorem bind {f : α → Except Error β} (h : Ensures x P) (next : ∀ a, P a → Ensures (f a) Q) :
    Ensures (x >>= f) Q := by
  cases x with
  | ok a => exact next a (h a rfl)
  | error e => exact .error e

theorem mapM {T : γ → β → Prop} {xs : List α} {ys : List β} {f : α → Except Error γ}
    (h : List.Forall₂ S xs ys) (step : ∀ a b, S a b → Ensures (f a) fun c => T c b) :
    Ensures (xs.mapM f) fun cs => List.Forall₂ T cs ys := by
  induction h with
  | nil => exact .ok .nil
  | cons head _ ih =>
    simp only [List.mapM_cons]
    exact (step _ _ head).bind fun c hc => ih.bind fun cs hcs => .ok (.cons hc hcs)

/-- Nothing has to be known about what comes first. -/
theorem bind_any {f : α → Except Error β} (next : ∀ a, Ensures (f a) Q) :
    Ensures (x >>= f) Q := by
  cases x with
  | ok a => exact next a
  | error e => exact .error e

theorem map_any {f : α → β} (next : ∀ a, Q (f a)) : Ensures (x.map f) Q := by
  cases x with
  | ok a => exact .ok (next a)
  | error e => exact .error e

/-- Each result of a traversal is related to the element that it comes from. -/
theorem mapM_same {T : β → α → Prop} {xs : List α} {f : α → Except Error β}
    (step : ∀ a, Ensures (f a) fun b => T b a) :
    Ensures (xs.mapM f) fun bs => List.Forall₂ T bs xs := by
  refine mapM (S := Eq) (List.forall₂_same.2 fun _ _ => rfl) fun a b same => ?_
  rw [← same]
  exact step a

/-- Every result of a traversal has the property. -/
theorem mapM_forall {xs : List α} {f : α → Except Error β} (h : ∀ x ∈ xs, Ensures (f x) Q) :
    Ensures (xs.mapM f) fun ys => ∀ y ∈ ys, Q y := by
  induction xs with
  | nil => exact .ok (by simp)
  | cons x xs ih =>
    simp only [List.mapM_cons]
    refine (h x List.mem_cons_self).bind fun y hy => ?_
    refine (ih fun x' hx' => h x' (List.mem_cons_of_mem x hx')).bind fun ys hys => .ok ?_
    exact List.forall_mem_cons.2 ⟨hy, hys⟩

/-- An invariant of the steps holds at the end. -/
theorem foldlM {I : γ → Prop} {xs : List α} {f : γ → α → Except Error γ}
    (step : ∀ s, I s → ∀ x ∈ xs, Ensures (f s x) I) {s : γ} (start : I s) :
    Ensures (xs.foldlM f s) I := by
  induction xs generalizing s with
  | nil => exact .ok start
  | cons x xs ih =>
    simp only [List.foldlM_cons]
    exact (step s start x List.mem_cons_self).bind fun s' hs' =>
      ih (fun t ht x' hx' => step t ht x' (List.mem_cons_of_mem x hx')) hs'

end Ensures

/-- If the computation fails, its error has the property. -/
def FailsWith (P : Error → Prop) (x : Except Error α) : Prop := ∀ e, x = .error e → P e

namespace FailsWith

variable {P : Error → Prop} {x : Except Error α}

theorem ok (a : α) : FailsWith P (.ok a) := nofun

theorem error {e : Error} (h : P e) : FailsWith P (.error e : Except Error α) := by
  rintro _ ⟨⟩
  exact h

theorem mono {P' : Error → Prop} (h : FailsWith P x) (weaker : ∀ e, P e → P' e) :
    FailsWith P' x := fun e he => weaker e (h e he)

theorem map (h : FailsWith P x) (f : α → β) : FailsWith P (x.map f) := by
  cases x with
  | ok a => exact nofun
  | error e => exact error (h e rfl)

/-- The rest of the computation may count on how it began. -/
theorem bind {f : α → Except Error β} (h : FailsWith P x)
    (next : ∀ a, x = .ok a → FailsWith P (f a)) : FailsWith P (x >>= f) := by
  cases x with
  | ok a => exact next a rfl
  | error e => exact error (h e rfl)

theorem mapM {f : α → Except Error β} {xs : List α} (h : ∀ x ∈ xs, FailsWith P (f x)) :
    FailsWith P (xs.mapM f) := by
  induction xs with
  | nil => exact nofun
  | cons x xs ih =>
    obtain ⟨first, others⟩ := List.forall_mem_cons.1 h
    rw [List.mapM_cons]
    exact first.bind fun y _ => (ih others).bind fun ys _ => ok (y :: ys)

theorem foldlM {f : β → α → Except Error β} {xs : List α}
    (h : ∀ x ∈ xs, ∀ b, FailsWith P (f b x)) (b : β) : FailsWith P (xs.foldlM f b) := by
  induction xs generalizing b with
  | nil => exact nofun
  | cons x xs ih =>
    obtain ⟨first, others⟩ := List.forall_mem_cons.1 h
    rw [List.foldlM_cons]
    exact (first b).bind fun b' _ => ih others b'

end FailsWith

/-! ### Related lists -/

/-- A list is paired with itself element by element. -/
theorem eq_of_mem_zip_self {a b : α} {xs : List α} (h : (a, b) ∈ xs.zip xs) : a = b :=
  (List.forall₂_iff_zip.1 (List.forall₂_same.2 fun _ _ => rfl)).2 h

theorem map_eq_iff_forall₂ {f : α → γ} {g : β → γ} {xs : List α} {ys : List β} :
    xs.map f = ys.map g ↔ List.Forall₂ (fun a b => f a = g b) xs ys := by
  rw [← List.forall₂_eq_eq_eq, List.forall₂_map_left_iff, List.forall₂_map_right_iff]

theorem getElem?_of_forall₂ {xs : List α} {ys : List β}
    (h : List.Forall₂ S xs ys) {i : Nat} {x : α} (hx : xs[i]? = some x) :
    ∃ y, ys[i]? = some y ∧ S x y := by
  induction h generalizing i with
  | nil => cases hx
  | cons head _ ih =>
    cases i with
    | zero =>
      cases hx
      exact ⟨_, rfl, head⟩
    | succ i => exact ih hx

theorem exists_of_mem_right {xs : List α} {ys : List β} (h : List.Forall₂ S xs ys) {y : β}
    (hy : y ∈ ys) : ∃ x ∈ xs, S x y := by
  induction h with
  | nil => cases hy
  | @cons x _ xs _ head _ ih =>
    rcases List.mem_cons.1 hy with rfl | hy
    · exact ⟨x, List.mem_cons_self, head⟩
    · obtain ⟨x', hx', related⟩ := ih hy
      exact ⟨x', List.mem_cons_of_mem x hx', related⟩

/-- Entries with the same keys are related when what they hold is. -/
theorem forall₂_entries {P : γ → δ → Prop} {es : List (α × γ)} {es' : List (α × δ)}
    (keys : es.map Prod.fst = es'.map Prod.fst)
    (h : ∀ e e', (e, e') ∈ es.zip es' → P e.2 e'.2) :
    List.Forall₂ (fun e e' => e.1 = e'.1 ∧ P e.2 e'.2) es es' := by
  have keys := List.forall₂_iff_zip.1 (map_eq_iff_forall₂.1 keys)
  exact List.forall₂_iff_zip.2 ⟨keys.1, fun he => ⟨keys.2 he, h _ _ he⟩⟩

theorem flatMap_eq_of_forall₂ {f : α → List γ} {g : β → List γ} {xs : List α} {ys : List β}
    (h : List.Forall₂ (fun a b => f a = g b) xs ys) : xs.flatMap f = ys.flatMap g := by
  induction h with
  | nil => rfl
  | cons head _ ih => rw [List.flatMap_cons, List.flatMap_cons, head, ih]

/-- The first element of the last list, if there is one. -/
theorem rel_getLast?_head? {xss : List (List α)} {yss : List (List β)}
    (h : List.Forall₂ (List.Forall₂ S) xss yss) :
    Option.Rel S (xss.getLast?.bind List.head?) (yss.getLast?.bind List.head?) := by
  have reversed := List.rel_reverse h
  rw [← List.head?_reverse, ← List.head?_reverse]
  generalize xss.reverse = back, yss.reverse = back' at reversed
  cases reversed with
  | nil => exact .none
  | cons head _ =>
    cases head with
    | nil => exact .none
    | cons first _ => exact .some first

theorem flatMap_flatten (xss : List (List α)) (f : α → List β) :
    xss.flatten.flatMap f = xss.flatMap fun xs => xs.flatMap f := by
  rw [← List.flatMap_id, List.flatMap_assoc]
  rfl

end SqlBuilder
