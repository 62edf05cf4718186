import SqlBuilder.Proofs.Correspondence.Fragment
import SqlBuilder.Proofs.Fragment
import SqlBuilder.Proofs.Outcome
import SqlBuilder.Term.Condition

/-!
# One parameter for another

Two lists, fragments or conditions that differ in a single place: the one holds a parameter `v`
where the other holds `w`. Whatever is put together around the place keeps it a single one. What may
fail on both sides is compared by `AgreeUnless`: the sides agree, unless one of them fails with a
given fault.
-/

namespace SqlBuilder

variable {α β γ δ : Type}

/-! ### Lists that differ in one element -/

/-- The same lists but for one element, which has a counterpart. -/
def OneChange (S : α → α → Prop) (xs ys : List α) : Prop :=
  ∃ before x y after, xs = before ++ x :: after ∧ ys = before ++ y :: after ∧ S x y

namespace OneChange

variable {S : α → α → Prop} {T : β → β → Prop} {xs ys : List α}

theorem at_hole (before after : List α) {x y : α} (h : S x y) :
    OneChange S (before ++ x :: after) (before ++ y :: after) :=
  ⟨before, x, y, after, rfl, rfl, h⟩

theorem head (after : List α) {x y : α} (h : S x y) : OneChange S (x :: after) (y :: after) :=
  at_hole [] after h

theorem append_left (h : OneChange S xs ys) (before : List α) :
    OneChange S (before ++ xs) (before ++ ys) := by
  obtain ⟨before', x, y, after, rfl, rfl, related⟩ := h
  exact ⟨before ++ before', x, y, after, by simp, by simp, related⟩

theorem append_right (h : OneChange S xs ys) (after : List α) :
    OneChange S (xs ++ after) (ys ++ after) := by
  obtain ⟨before, x, y, after', rfl, rfl, related⟩ := h
  exact ⟨before, x, y, after' ++ after, by simp, by simp, related⟩

theorem cons (h : OneChange S xs ys) (x : α) : OneChange S (x :: xs) (x :: ys) :=
  h.append_left [x]

theorem map {f : α → β} (h : OneChange S xs ys) (next : ∀ x y, S x y → T (f x) (f y)) :
    OneChange T (xs.map f) (ys.map f) := by
  obtain ⟨before, x, y, after, rfl, rfl, related⟩ := h
  simpa using at_hole (before.map f) (after.map f) (next x y related)

/-- One of the lists in a list differs, in one of its elements. -/
theorem flatten {xss yss : List (List α)} (h : OneChange (OneChange S) xss yss) :
    OneChange S xss.flatten yss.flatten := by
  obtain ⟨before, x, y, after, rfl, rfl, inner⟩ := h
  simpa using (inner.append_right after.flatten).append_left before.flatten

theorem flatMap {f : α → List β} (h : OneChange S xs ys)
    (next : ∀ x y, S x y → OneChange T (f x) (f y)) :
    OneChange T (xs.flatMap f) (ys.flatMap f) := by
  rw [List.flatMap_def, List.flatMap_def]
  exact (h.map next).flatten

/-- Nothing is lost of the change if both elements are kept. -/
theorem filter {p : α → Bool} (h : OneChange S xs ys) (kept : ∀ x y, S x y → p x ∧ p y) :
    OneChange S (xs.filter p) (ys.filter p) := by
  obtain ⟨before, x, y, after, rfl, rfl, related⟩ := h
  obtain ⟨left, right⟩ := kept x y related
  simpa [left, right] using at_hole (before.filter p) (after.filter p) related

theorem reverse (h : OneChange S xs ys) : OneChange S xs.reverse ys.reverse := by
  obtain ⟨before, x, y, after, rfl, rfl, related⟩ := h
  simpa using at_hole after.reverse before.reverse related

theorem length_eq (h : OneChange S xs ys) : xs.length = ys.length := by
  obtain ⟨before, x, y, after, rfl, rfl, -⟩ := h
  simp

theorem ne_nil (h : OneChange S xs ys) : xs.isEmpty = false ∧ ys.isEmpty = false := by
  obtain ⟨before, x, y, after, rfl, rfl, -⟩ := h
  simp

/-- What stands between the elements is the same. -/
theorem intersperse (h : OneChange S xs ys) (separator : α) :
    OneChange S (xs.intersperse separator) (ys.intersperse separator) := by
  obtain ⟨before, x, y, after, rfl, rfl, related⟩ := h
  induction before with
  | nil =>
    cases after with
    | nil => exact head [] related
    | cons z after => exact head (separator :: (z :: after).intersperse separator) related
  | cons z before ih =>
    -- a separator stands behind the first element, whichever element comes next
    cases before with
    | nil => exact (ih.cons separator).cons z
    | cons w before => exact (ih.cons separator).cons z

end OneChange

/-! ### Outcomes -/

/-- The same error on both sides, or results that are related, unless a side fails with the
fault. -/
inductive AgreeUnless (fault : Error) (S : α → β → Prop) : Except Error α → Except Error β → Prop
  | ok {a : α} {b : β} (related : S a b) : AgreeUnless fault S (.ok a) (.ok b)
  | error (e : Error) : AgreeUnless fault S (.error e) (.error e)
  | left (y : Except Error β) : AgreeUnless fault S (.error fault) y
  | right (x : Except Error α) : AgreeUnless fault S x (.error fault)

namespace AgreeUnless

variable {fault : Error} {S : α → β → Prop} {T : γ → δ → Prop}

theorem bind {x : Except Error α} {y : Except Error β} {f : α → Except Error γ}
    {g : β → Except Error δ} (h : AgreeUnless fault S x y)
    (next : ∀ a b, S a b → AgreeUnless fault T (f a) (g b)) :
    AgreeUnless fault T (x >>= f) (y >>= g) := by
  cases h with
  | ok related => exact next _ _ related
  | error e => exact .error e
  | left => exact .left _
  | right => exact .right _

theorem map {x : Except Error α} {y : Except Error β} {f : α → γ} {g : β → δ}
    (h : AgreeUnless fault S x y) (next : ∀ a b, S a b → T (f a) (g b)) :
    AgreeUnless fault T (x.map f) (y.map g) := by
  cases h with
  | ok related => exact .ok (next _ _ related)
  | error e => exact .error e
  | left => exact .left _
  | right => exact .right _

/-- What is known of the result on the left may be used. -/
theorem ensuring {x : Except Error α} {y : Except Error β} {P : α → Prop}
    (h : AgreeUnless fault S x y) (left : Ensures x P) :
    AgreeUnless fault (fun a b => P a ∧ S a b) x y := by
  cases h with
  | ok related => exact .ok ⟨left _ rfl, related⟩
  | error e => exact .error e
  | left => exact .left _
  | right => exact .right _

/-- Sides that agree do so whatever the fault is. -/
theorem of_agree {x : Except Error α} {y : Except Error β} (h : Agree S x y) :
    AgreeUnless fault S x y := by
  cases h with
  | ok related => exact .ok related
  | error e => exact .error e

/-- The same computation comes first on both sides. -/
theorem bind_same {x : Except Error α} {f : α → Except Error γ} {g : α → Except Error δ}
    (next : ∀ a, AgreeUnless fault T (f a) (g a)) : AgreeUnless fault T (x >>= f) (x >>= g) := by
  cases x with
  | ok a => exact next a
  | error e => exact .error e

theorem map_same {x : Except Error α} {f : α → γ} {g : α → δ} (next : ∀ a, T (f a) (g a)) :
    AgreeUnless fault T (x.map f) (x.map g) := by
  cases x with
  | ok a => exact .ok (next a)
  | error e => exact .error e

/-- A traversal of which one step differs. -/
theorem mapM {T : γ → γ → Prop} {f g : α → Except Error γ} {before after : List α} {x y : α}
    (same : ∀ a ∈ before ++ after, f a = g a) (h : AgreeUnless fault T (f x) (g y)) :
    AgreeUnless fault (OneChange T) ((before ++ x :: after).mapM f)
      ((before ++ y :: after).mapM g) := by
  have first := mapM_congr fun a ha => same a (List.mem_append_left after ha)
  have last := mapM_congr fun a ha => same a (List.mem_append_right before ha)
  simp only [List.mapM_append, List.mapM_cons, first, last]
  refine bind_same fun cs => ?_
  refine bind (S := OneChange T) ?_ fun ds ds' changed => .ok (changed.append_left cs)
  refine h.bind fun c c' related => bind_same fun rest => ?_
  exact .ok (OneChange.head rest related)

/-- The same function on lists that differ in one element. -/
theorem mapM_change {S : α → α → Prop} {T : γ → γ → Prop} {f : α → Except Error γ}
    {xs ys : List α} (h : OneChange S xs ys)
    (step : ∀ x y, S x y → AgreeUnless fault T (f x) (f y)) :
    AgreeUnless fault (OneChange T) (xs.mapM f) (ys.mapM f) := by
  obtain ⟨before, x, y, after, rfl, rfl, related⟩ := h
  exact mapM (fun _ _ => rfl) (step x y related)

/-- A loop over lists that differ in one element. -/
theorem foldlM {I : γ → γ → Prop} {f : γ → α → Except Error γ}
    {before after : List α} {x y : α} (changed : ∀ c, AgreeUnless fault I (f c x) (f c y))
    (step : ∀ c d, I c d → ∀ a ∈ after, AgreeUnless fault I (f c a) (f d a)) (c : γ) :
    AgreeUnless fault I ((before ++ x :: after).foldlM f c)
      ((before ++ y :: after).foldlM f c) := by
  simp only [List.foldlM_append, List.foldlM_cons]
  refine bind_same fun d => (changed d).bind fun a b related => ?_
  induction after generalizing a b with
  | nil => exact .ok related
  | cons z after ih =>
    simp only [List.foldlM_cons]
    refine (step a b related z List.mem_cons_self).bind fun a' b' related' => ?_
    exact ih (fun c d h e he => step c d h e (List.mem_cons_of_mem z he)) a' b' related'

end AgreeUnless

/-! ### Fragments -/

/-- The same characters and parameters, but for one parameter: `v` on the left and `w` on the
right. -/
def Fragment.Swaps (v w : Value) (f g : Fragment) : Prop :=
  OneChange (fun a b => a = .inr v ∧ b = .inr w) f.symbols g.symbols

namespace Fragment

variable {v w : Value} {f g : Fragment}

theorem swaps_ofValue (v w : Value) : (ofValue v).Swaps v w (ofValue w) := by
  rw [Swaps, symbols_ofValue, symbols_ofValue]
  exact .head [] ⟨rfl, rfl⟩

namespace Swaps

theorem prepend (h : f.Swaps v w g) (before : Fragment) :
    (before ++ f).Swaps v w (before ++ g) := by
  rw [Swaps, symbols_append, symbols_append]
  exact h.append_left before.symbols

theorem append (h : f.Swaps v w g) (after : Fragment) : (f ++ after).Swaps v w (g ++ after) := by
  rw [Swaps, symbols_append, symbols_append]
  exact h.append_right after.symbols

theorem push (h : f.Swaps v w g) (sql : String) : (f.push sql).Swaps v w (g.push sql) :=
  h.append (ofSql sql)

theorem parenthesized (h : f.Swaps v w g) : f.parenthesized.Swaps v w g.parenthesized :=
  (h.prepend (ofSql "(")).append (ofSql ")")

theorem headed (h : f.Swaps v w g) (keyword : String) :
    (headed keyword f).Swaps v w (Fragment.headed keyword g) :=
  h.prepend _

/-- A fragment with a parameter is not empty. -/
theorem isEmpty_eq (h : f.Swaps v w g) : f.isEmpty = false ∧ g.isEmpty = false := by
  have nonempty {f : Fragment} (given : f.symbols.isEmpty = false) : f.isEmpty = false := by
    obtain ⟨pieces⟩ := f
    cases pieces with
    | nil => cases given
    | cons piece pieces => rfl
  exact ⟨nonempty h.ne_nil.1, nonempty h.ne_nil.2⟩

theorem headedUnlessEmpty (h : f.Swaps v w g) (keyword : String) :
    (headedUnlessEmpty keyword f).Swaps v w (Fragment.headedUnlessEmpty keyword g) := by
  simp only [Fragment.headedUnlessEmpty, h.isEmpty_eq]
  exact h.headed keyword

theorem concat {fs gs : List Fragment} (h : OneChange (Swaps v w) fs gs) :
    (concat fs).Swaps v w (Fragment.concat gs) := by
  rw [Swaps, symbols_concat, symbols_concat]
  exact h.flatMap fun _ _ inner => inner

/-- A fragment that holds a parameter is not empty, so it is not left out of a list. -/
theorem join {fs gs : List Fragment} (h : OneChange (Swaps v w) fs gs) (separator : String) :
    (join fs separator).Swaps v w (Fragment.join gs separator) :=
  concat ((h.filter fun _ _ inner => by simp [inner.isEmpty_eq]).intersperse _)

/-- The lists of parameters differ where the fragments do. -/
theorem args (h : f.Swaps v w g) :
    ∃ before after, f.args = before ++ v :: after ∧ g.args = before ++ w :: after := by
  obtain ⟨before, x, y, after, left, right, rfl, rfl⟩ := h
  refine ⟨before.filterMap Sum.getRight?, after.filterMap Sum.getRight?, ?_, ?_⟩
  · simp [args_eq_symbols, left]
  · simp [args_eq_symbols, right]

end Swaps

end Fragment

/-! ### Conditions -/

/-- The same tree of conditions, but for one fragment. -/
inductive Condition.Swaps (v w : Value) : Condition → Condition → Prop
  | leaf {f g : Fragment} (h : f.Swaps v w g) : Swaps v w (.leaf f) (.leaf g)
  | expr {f g : Fragment} (h : f.Swaps v w g) : Swaps v w (.expr f) (.expr g)
  | not {c d : Condition} (h : Swaps v w c d) : Swaps v w (.not c) (.not d)
  | andLeft {c d : Condition} (h : Swaps v w c d) (right : Condition) :
      Swaps v w (.and c right) (.and d right)
  | andRight {c d : Condition} (left : Condition) (h : Swaps v w c d) :
      Swaps v w (.and left c) (.and left d)
  | orLeft {c d : Condition} (h : Swaps v w c d) (right : Condition) :
      Swaps v w (.or c right) (.or d right)
  | orRight {c d : Condition} (left : Condition) (h : Swaps v w c d) :
      Swaps v w (.or left c) (.or left d)

namespace Condition

variable {v w : Value} {c d : Condition}

/-- Parentheses go by the shape of the tree alone. -/
theorem Swaps.needsParens_eq (h : c.Swaps v w d) (parent : Connective) :
    c.needsParens parent = d.needsParens parent := by
  cases h <;> rfl

theorem oneChange_enclose {ps qs : List Fragment → List Fragment} (parens : Bool)
    (h : ∀ after, OneChange (Fragment.Swaps v w) (ps after) (qs after)) (after : List Fragment) :
    OneChange (Fragment.Swaps v w) (enclose parens ps after) (enclose parens qs after) := by
  cases parens with
  | false => exact h after
  | true => exact (h _).cons _

/-- What stands in front of the change is the same. -/
theorem oneChange_behind (parens : Bool) (left : Condition) {after after' : List Fragment}
    (h : OneChange (Fragment.Swaps v w) after after') :
    OneChange (Fragment.Swaps v w) (enclose parens left.parts after)
      (enclose parens left.parts after') := by
  have split (after : List Fragment) :
      enclose parens left.parts after = enclose parens left.parts [] ++ after :=
    enclose_append parens left.parts_append [] after
  rw [split after, split after']
  exact h.append_left _

/-- One of the parts differs; those that follow the condition are the same. -/
theorem Swaps.parts (h : c.Swaps v w d) (after : List Fragment) :
    OneChange (Fragment.Swaps v w) (c.parts after) (d.parts after) := by
  induction h generalizing after with
  | leaf h => exact .head after h
  | expr h => exact .head after h
  | not h ih =>
    simp only [Condition.parts, h.needsParens_eq]
    exact (oneChange_enclose _ ih after).cons _
  | andLeft h right ih | orLeft h right ih =>
    simp only [Condition.parts, h.needsParens_eq]
    exact oneChange_enclose _ ih _
  | andRight left h ih | orRight left h ih =>
    simp only [Condition.parts, h.needsParens_eq]
    exact oneChange_behind _ left ((oneChange_enclose _ ih after).cons _)

theorem Swaps.render (h : c.Swaps v w d) : c.render.Swaps v w d.render :=
  .concat (h.parts [])

/-- A condition on both sides, with one parameter for another. -/
def OptionSwaps (v w : Value) (x y : Option Condition) : Prop :=
  ∃ c d, x = some c ∧ y = some d ∧ c.Swaps v w d

/-- Conditions that are there are kept. -/
theorem oneChange_filterMap {cs ds : List (Option Condition)}
    (h : OneChange (OptionSwaps v w) cs ds) :
    OneChange (Swaps v w) (cs.filterMap id) (ds.filterMap id) := by
  obtain ⟨before, _, _, after, rfl, rfl, c, d, rfl, rfl, swap⟩ := h
  simpa using OneChange.at_hole (before.filterMap id) (after.filterMap id) swap

/-- The change is in the first condition or in one that is joined to it later. -/
theorem swaps_combine {op : Condition → Condition → Condition}
    (left : ∀ c d right, Swaps v w c d → Swaps v w (op c right) (op d right))
    (right : ∀ left c d, Swaps v w c d → Swaps v w (op left c) (op left d))
    {cs ds : List Condition} (h : OneChange (Swaps v w) cs ds) :
    OptionSwaps v w (combine op cs) (combine op ds) := by
  have fold (rest : List Condition) : ∀ {c d : Condition}, c.Swaps v w d →
      (rest.foldl op c).Swaps v w (rest.foldl op d) := by
    induction rest with
    | nil => exact id
    | cons e rest ih => exact fun swap => ih (left _ _ e swap)
  obtain ⟨before, x, y, after, rfl, rfl, swap⟩ := h
  cases before with
  | nil => exact ⟨_, _, rfl, rfl, fold after swap⟩
  | cons b before =>
    refine ⟨(before ++ x :: after).foldl op b, (before ++ y :: after).foldl op b, rfl, rfl, ?_⟩
    rw [List.foldl_append, List.foldl_append]
    exact fold after (right _ _ _ swap)

theorem swaps_conjoin {cs ds : List Condition} (h : OneChange (Swaps v w) cs ds) :
    OptionSwaps v w (conjoin cs) (conjoin ds) :=
  swaps_combine (fun _ _ right swap => .andLeft swap right) (fun left _ _ => .andRight left) h

theorem swaps_disjoin {cs ds : List Condition} (h : OneChange (Swaps v w) cs ds) :
    OptionSwaps v w (disjoin cs) (disjoin ds) :=
  swaps_combine (fun _ _ right swap => .orLeft swap right) (fun left _ _ => .orRight left) h

end Condition

end SqlBuilder
