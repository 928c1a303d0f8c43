import Mathlib
import HiveDdl.Value

/-!
# Sequenced checks

A run of this library is a sequence of checks in `Except`: each step passes a value on or stops
the run with its error. A list of checks run in order (`List.mapM`, `List.filterMapM`, or a fold
that adds one item at a time) reports the error of the first item that fails: the items before
it all passed, and the items after it are never looked at.

* `bind_eq_ok`, `bind_eq_error`, `map_eq_ok`, `map_eq_error`, `mapError_eq_ok`,
  `mapError_eq_error`: what one step of a run gives.
* `FirstFailure f xs e`: `e` is the error of the first item of `xs` that `f` refuses.
* `mapM_eq_error_iff`: a list of checks fails with exactly the error of its first failure;
  `mapM_eq_ok_iff_forall₂`: it passes when each item passes, results in place;
  `filterMapM_eq_map_mapM` and `foldlM_eq_map_mapM` bring the other two loops to `mapM`.
* `mapM_eq_ok_filterMap`, `filterMapM_eq_ok_filterMap`: the results of passing checks, read
  item by item.
* `mapM_ok_of_perm`: checks that pass in one order pass in any other, with their results
  reordered alike.
-/

namespace HiveDdl

variable {ε ε' α β γ : Type}

/-! ### One step -/

theorem bind_eq_ok {x : Except ε α} {f : α → Except ε β} {b : β} :
    x >>= f = .ok b ↔ ∃ a, x = .ok a ∧ f a = .ok b := by
  cases x <;> simp [bind, Except.bind]

theorem bind_eq_error {x : Except ε α} {f : α → Except ε β} {e : ε} :
    x >>= f = .error e ↔ x = .error e ∨ ∃ a, x = .ok a ∧ f a = .error e := by
  cases x <;> simp [bind, Except.bind]

theorem map_eq_ok {x : Except ε α} {f : α → β} {b : β} :
    f <$> x = .ok b ↔ ∃ a, x = .ok a ∧ f a = b := by
  cases x <;> simp [Functor.map, Except.map]

theorem map_eq_error {x : Except ε α} {f : α → β} {e : ε} :
    f <$> x = .error e ↔ x = .error e := by
  cases x <;> simp [Functor.map, Except.map]

theorem mapError_eq_ok {x : Except ε α} {g : ε → ε'} {a : α} :
    x.mapError g = .ok a ↔ x = .ok a := by
  cases x <;> simp [Except.mapError]

theorem mapError_eq_error {x : Except ε α} {g : ε → ε'} {e : ε'} :
    x.mapError g = .error e ↔ ∃ e₀, x = .error e₀ ∧ g e₀ = e := by
  cases x <;> simp [Except.mapError]

theorem pure_eq_ok {a b : α} : (pure a : Except ε α) = .ok b ↔ a = b := by
  simp [pure, Except.pure]

theorem pure_ne_error {a : α} {e : ε} : (pure a : Except ε α) ≠ .error e := by
  simp [pure, Except.pure]

theorem exists_eq_ok_of_isOk {x : Except ε α} (h : x.isOk = true) : ∃ a, x = .ok a := by
  cases x with
  | error e => simp [Except.isOk, Except.toBool] at h
  | ok a => exact ⟨a, rfl⟩

theorem eq_ok_iff_toOption {x : Except ε α} {a : α} : x = .ok a ↔ x.toOption = some a := by
  cases x <;> simp [Except.toOption]

/-! ### The first failure of a list of checks -/

/-- `e` is the error of the first item of `xs` that `f` refuses: every item before it passes. -/
def FirstFailure (f : α → Except ε β) (xs : List α) (e : ε) : Prop :=
  ∃ pre x post, xs = pre ++ x :: post ∧ (∀ y ∈ pre, ∃ b, f y = .ok b) ∧ f x = .error e

variable {f : α → Except ε β} {x : α} {xs : List α} {e : ε}

theorem not_firstFailure_nil : ¬ FirstFailure f [] e := by
  rintro ⟨pre, x, post, hxs, -, -⟩
  cases pre <;> simp at hxs

theorem firstFailure_cons :
    FirstFailure f (x :: xs) e ↔ f x = .error e ∨ (∃ b, f x = .ok b) ∧ FirstFailure f xs e := by
  constructor
  · rintro ⟨pre, y, post, hxs, hpre, hy⟩
    cases pre with
    | nil =>
      obtain ⟨rfl, -⟩ := List.cons.inj hxs
      exact .inl hy
    | cons z pre =>
      obtain ⟨rfl, hrest⟩ := List.cons.inj hxs
      exact .inr ⟨hpre x (by simp), pre, y, post, hrest, fun w hw => hpre w (by simp [hw]), hy⟩
  · rintro (hx | ⟨hx, pre, y, post, rfl, hpre, hy⟩)
    · exact ⟨[], x, xs, rfl, by simp, hx⟩
    · refine ⟨x :: pre, y, post, rfl, ?_, hy⟩
      intro w hw
      rcases List.mem_cons.mp hw with rfl | hw
      · exact hx
      · exact hpre w hw

/-! ### `mapM` -/

theorem mapM_cons_eq_ok {ys : List β} :
    (x :: xs).mapM f = .ok ys ↔ ∃ b bs, f x = .ok b ∧ xs.mapM f = .ok bs ∧ ys = b :: bs := by
  simp only [List.mapM_cons, bind_eq_ok, pure_eq_ok]
  constructor
  · rintro ⟨b, hb, bs, hbs, rfl⟩
    exact ⟨b, bs, hb, hbs, rfl⟩
  · rintro ⟨b, bs, hb, hbs, rfl⟩
    exact ⟨b, hb, bs, hbs, rfl⟩

/-- A list of checks fails with exactly the error of its first failure. -/
theorem mapM_eq_error_iff : xs.mapM f = .error e ↔ FirstFailure f xs e := by
  induction xs with
  | nil => simp [not_firstFailure_nil, pure, Except.pure]
  | cons x xs ih =>
    rw [List.mapM_cons, firstFailure_cons, ← ih]
    simp only [bind_eq_error, pure_ne_error, and_false, exists_false, or_false]
    constructor
    · rintro (hx | ⟨b, hx, hxs⟩)
      · exact .inl hx
      · exact .inr ⟨⟨b, hx⟩, hxs⟩
    · rintro (hx | ⟨⟨b, hx⟩, hxs⟩)
      · exact .inl hx
      · exact .inr ⟨b, hx, hxs⟩

/-- A list of checks passes with results exactly when each item passes with the result at its
place. -/
theorem mapM_eq_ok_iff_forall₂ {ys : List β} :
    xs.mapM f = .ok ys ↔ List.Forall₂ (fun x y => f x = .ok y) xs ys := by
  induction xs generalizing ys with
  | nil => cases ys <;> simp [pure, Except.pure]
  | cons x xs ih =>
    rw [mapM_cons_eq_ok]
    constructor
    · rintro ⟨b, bs, hb, hbs, rfl⟩
      exact .cons hb (ih.mp hbs)
    · intro h
      cases h with
      | cons hb hbs => exact ⟨_, _, hb, ih.mpr hbs, rfl⟩

theorem mapM_ok_mem {ys : List β} (h : xs.mapM f = .ok ys) (hx : x ∈ xs) :
    ∃ b ∈ ys, f x = .ok b := by
  induction xs generalizing ys with
  | nil => simp at hx
  | cons y xs ih =>
    obtain ⟨b, bs, hb, hbs, rfl⟩ := mapM_cons_eq_ok.mp h
    rcases List.mem_cons.mp hx with rfl | hx
    · exact ⟨b, by simp, hb⟩
    · obtain ⟨c, hc, hfc⟩ := ih hbs hx
      exact ⟨c, by simp [hc], hfc⟩

theorem exists_of_mem_mapM_ok {ys : List β} {y : β} (h : xs.mapM f = .ok ys) (hy : y ∈ ys) :
    ∃ x ∈ xs, f x = .ok y := by
  induction xs generalizing ys with
  | nil =>
    simp only [List.mapM_nil, pure_eq_ok] at h
    simp [← h] at hy
  | cons x xs ih =>
    obtain ⟨b, bs, hb, hbs, rfl⟩ := mapM_cons_eq_ok.mp h
    rcases List.mem_cons.mp hy with rfl | hy
    · exact ⟨x, by simp, hb⟩
    · obtain ⟨z, hz, hfz⟩ := ih hbs hy
      exact ⟨z, by simp [hz], hfz⟩

theorem mapM_eq_ok_map {g : α → β} (hall : ∀ y ∈ xs, f y = .ok (g y)) :
    xs.mapM f = .ok (xs.map g) := by
  induction xs with
  | nil => rfl
  | cons y xs ih =>
    rw [mapM_cons_eq_ok]
    exact ⟨g y, xs.map g, hall y (by simp), ih (fun z hz => hall z (by simp [hz])), rfl⟩

theorem map_of_mapM_eq_ok {ys : List β} {g : β → γ} {h : α → γ}
    (hresult : ∀ y b, f y = .ok b → g b = h y) (hok : xs.mapM f = .ok ys) :
    ys.map g = xs.map h := by
  induction xs generalizing ys with
  | nil =>
    simp only [List.mapM_nil, pure_eq_ok] at hok
    simp [← hok]
  | cons y xs ih =>
    obtain ⟨b, bs, hb, hbs, rfl⟩ := mapM_cons_eq_ok.mp hok
    simp [hresult y b hb, ih hbs]

/-- Checks that pass in one order pass in any other, with their results reordered alike. -/
theorem mapM_ok_of_perm {xs' : List α} {ys : List β} (hperm : xs.Perm xs')
    (h : xs.mapM f = .ok ys) : ∃ ys', xs'.mapM f = .ok ys' ∧ ys'.Perm ys := by
  induction hperm generalizing ys with
  | nil => exact ⟨ys, h, .refl _⟩
  | cons x _ ih =>
    obtain ⟨b, bs, hb, hbs, rfl⟩ := mapM_cons_eq_ok.mp h
    obtain ⟨bs', hbs', hperm⟩ := ih hbs
    exact ⟨b :: bs', mapM_cons_eq_ok.mpr ⟨b, bs', hb, hbs', rfl⟩, hperm.cons b⟩
  | swap x y l =>
    obtain ⟨b, bs, hb, hbs, rfl⟩ := mapM_cons_eq_ok.mp h
    obtain ⟨a, as, ha, has, rfl⟩ := mapM_cons_eq_ok.mp hbs
    refine ⟨a :: b :: as, ?_, .swap b a as⟩
    exact mapM_cons_eq_ok.mpr ⟨a, b :: as, ha, mapM_cons_eq_ok.mpr ⟨b, as, hb, has, rfl⟩, rfl⟩
  | trans _ _ ih₁ ih₂ =>
    obtain ⟨ys₁, h₁, hp₁⟩ := ih₁ h
    obtain ⟨ys₂, h₂, hp₂⟩ := ih₂ h₁
    exact ⟨ys₂, h₂, hp₂.trans hp₁⟩

/-- The results of a list of checks that passed are the results of the items, read one by one. -/
theorem mapM_eq_ok_filterMap {ys : List β} (h : xs.mapM f = .ok ys) :
    ys = xs.filterMap fun x => (f x).toOption := by
  have hresults : ys.map some = xs.map fun x => (f x).toOption :=
    map_of_mapM_eq_ok (fun y b hb => by rw [hb]; rfl) h
  calc ys = (ys.map some).filterMap id := by simp
    _ = (xs.map fun x => (f x).toOption).filterMap id := by rw [hresults]
    _ = xs.filterMap fun x => (f x).toOption := by rw [List.filterMap_map]; rfl

/-! ### Loops brought to `mapM` -/

/-- Keeping the items a check maps to `some` is checking all of them, then dropping the `none`s. -/
theorem filterMapM_eq_map_mapM (g : α → Except ε (Option β)) (xs : List α) :
    xs.filterMapM g = (fun ys => ys.filterMap id) <$> xs.mapM g := by
  induction xs with
  | nil => rfl
  | cons x xs ih =>
    rw [List.filterMapM_cons, List.mapM_cons, ih]
    cases g x with
    | error e => rfl
    | ok b =>
      cases hxs : xs.mapM g with
      | error e => cases b <;> rfl
      | ok bs => cases b <;> rfl

/-- What a passing `filterMapM` keeps, read item by item. -/
theorem filterMapM_eq_ok_filterMap {g : α → Except ε (Option β)} {ys : List β}
    (h : xs.filterMapM g = .ok ys) : ys = xs.filterMap fun x => (g x).toOption.join := by
  rw [filterMapM_eq_map_mapM] at h
  obtain ⟨bs, hbs, rfl⟩ := map_eq_ok.mp h
  rw [mapM_eq_ok_filterMap hbs, List.filterMap_filterMap]
  rfl

/-- A fold whose step only fails on the item, never on what was built so far, is a list of
checks on the items followed by a plain fold of their results. -/
theorem foldlM_eq_map_mapM (step : γ → α → Except ε γ) (g : α → Except ε β) (h : γ → β → γ)
    (hstep : ∀ acc y, step acc y = h acc <$> g y) (xs : List α) (acc : γ) :
    xs.foldlM step acc = (fun bs => bs.foldl h acc) <$> xs.mapM g := by
  induction xs generalizing acc with
  | nil => rfl
  | cons x xs ih =>
    rw [List.foldlM_cons, List.mapM_cons, hstep]
    cases g x with
    | error e => rfl
    | ok b =>
      change xs.foldlM step (h acc b) = _
      rw [ih]
      cases xs.mapM g <;> rfl

end HiveDdl
