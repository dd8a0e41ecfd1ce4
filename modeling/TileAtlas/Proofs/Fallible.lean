/-
Computations that may fail: what success says about their parts.

A reader succeeds only if all its parts do. The lemmas here take a success apart, for a
sequence of two computations, for one computation on every member of a list, and for a
state that is carried through a list.
-/

import Mathlib.Data.List.Forall2

namespace TileAtlas.Fallible

variable {ε α β σ : Type}

/-- A sequence of two steps succeeds if both do. -/
theorem bind_eq_ok_iff {x : Except ε α} {f : α → Except ε β} {b : β} :
    (x >>= f) = .ok b ↔ ∃ a, x = .ok a ∧ f a = .ok b := by
  cases x with
  | error e => simp [bind, Except.bind]
  | ok a => simp [bind, Except.bind]

theorem map_eq_ok_iff {x : Except ε α} {f : α → β} {b : β} :
    x.map f = .ok b ↔ ∃ a, x = .ok a ∧ f a = b := by
  cases x with
  | error e => simp [Except.map]
  | ok a => simp [Except.map]

/-- A list is read if every member is, each result in its member's place. -/
theorem mapM_eq_ok_iff {f : α → Except ε β} {xs : List α} {ys : List β} :
    xs.mapM f = .ok ys ↔ List.Forall₂ (fun x y => f x = .ok y) xs ys := by
  induction xs generalizing ys with
  | nil => simp [pure, Except.pure, eq_comm]
  | cons x xs ih =>
      simp only [List.mapM_cons, bind_eq_ok_iff, List.forall₂_cons_left_iff, pure, Except.pure,
        Except.ok.injEq, ih]
      constructor
      · rintro ⟨y, hy, ys', hys, rfl⟩
        exact ⟨y, ys', hy, hys, rfl⟩
      · rintro ⟨y, ys', hy, hys, rfl⟩
        exact ⟨y, hy, ys', hys, rfl⟩

theorem map_eq_error_iff {x : Except ε α} {f : α → β} {e : ε} :
    x.map f = .error e ↔ x = .error e := by
  cases x with
  | error e' => simp [Except.map]
  | ok a => simp [Except.map]

/-- A list can be read if every member can. -/
theorem exists_mapM_eq_ok_iff {f : α → Except ε β} {xs : List α} :
    (∃ ys, xs.mapM f = .ok ys) ↔ ∀ x ∈ xs, ∃ y, f x = .ok y := by
  simp only [mapM_eq_ok_iff]
  induction xs with
  | nil => simp
  | cons x xs ih =>
      simp only [List.forall₂_cons_left_iff, List.forall_mem_cons, ← ih]
      constructor
      · rintro ⟨_, y, ys, hy, hys, rfl⟩
        exact ⟨⟨y, hy⟩, ys, hys⟩
      · rintro ⟨⟨y, hy⟩, ys, hys⟩
        exact ⟨y :: ys, y, ys, hy, hys, rfl⟩

/-- A list that cannot be read fails as the first member that cannot. -/
theorem mapM_eq_error_iff {f : α → Except ε β} {xs : List α} {e : ε} :
    xs.mapM f = .error e ↔
      ∃ before x after, xs = before ++ x :: after ∧ (∀ y ∈ before, ∃ b, f y = .ok b) ∧
        f x = .error e := by
  induction xs with
  | nil => simp [pure, Except.pure]
  | cons x xs ih =>
      rw [List.mapM_cons]
      cases hx : f x with
      | error e' =>
          constructor
          · intro h
            cases h
            exact ⟨[], x, xs, rfl, by simp, hx⟩
          · rintro ⟨before, y, after, hxs, hbefore, hy⟩
            cases before with
            | nil =>
                cases hxs
                cases hx.symm.trans hy
                rfl
            | cons z before =>
                cases hxs
                obtain ⟨b, hb⟩ := hbefore x List.mem_cons_self
                cases hx.symm.trans hb
      | ok b =>
          have htail : (Except.ok b >>= fun b => xs.mapM f >>= fun bs => pure (b :: bs)) = .error e ↔
              xs.mapM f = .error e := by
            cases xs.mapM f with
            | error e' => simp [bind, Except.bind]
            | ok bs => simp [bind, Except.bind, pure, Except.pure]
          rw [htail, ih]
          constructor
          · rintro ⟨before, y, after, rfl, hbefore, hy⟩
            exact ⟨x :: before, y, after, rfl, List.forall_mem_cons.mpr ⟨⟨b, hx⟩, hbefore⟩, hy⟩
          · rintro ⟨before, y, after, hxs, hbefore, hy⟩
            cases before with
            | nil =>
                cases hxs
                cases hx.symm.trans hy
            | cons z before =>
                cases hxs
                exact ⟨before, y, after, rfl, (List.forall_mem_cons.mp hbefore).2, hy⟩

/-- Reading a list step by step is reading it once for each step. -/
theorem mapM_bind_eq_ok_iff {γ : Type} {f : α → Except ε β} {g : β → Except ε γ} {xs : List α}
    {zs : List γ} :
    (xs.mapM fun x => f x >>= g) = .ok zs ↔ ∃ ys, xs.mapM f = .ok ys ∧ ys.mapM g = .ok zs := by
  simp only [mapM_eq_ok_iff, bind_eq_ok_iff]
  constructor
  · intro h
    induction h with
    | nil => exact ⟨[], .nil, .nil⟩
    | cons hhead _ ih =>
        obtain ⟨y, hy, hz⟩ := hhead
        obtain ⟨ys, hys, hzs⟩ := ih
        exact ⟨y :: ys, .cons hy hys, .cons hz hzs⟩
  · rintro ⟨ys, hys, hzs⟩
    induction hys generalizing zs with
    | nil =>
        cases hzs
        exact .nil
    | cons hy _ ih =>
        cases hzs with
        | cons hz hzs => exact .cons ⟨_, hy, hz⟩ (ih hzs)

/-- Lists whose members are read alike are read alike. -/
theorem exists_mapM_of_forall₂ {α' β' : Type} {f : α → Except ε β} {f' : α' → Except ε β'}
    {R : β → β' → Prop} {xs : List α} {xs' : List α'}
    (h : List.Forall₂ (fun x x' => ∀ y, f x = .ok y → ∃ y', f' x' = .ok y' ∧ R y y') xs xs')
    {ys : List β} (hys : xs.mapM f = .ok ys) :
    ∃ ys', xs'.mapM f' = .ok ys' ∧ List.Forall₂ R ys ys' := by
  simp only [mapM_eq_ok_iff] at hys ⊢
  induction h generalizing ys with
  | nil =>
      cases hys
      exact ⟨[], .nil, .nil⟩
  | cons hhead _ ih =>
      cases hys with
      | cons hy hys =>
          obtain ⟨y', hy', hyy'⟩ := hhead _ hy
          obtain ⟨ys', hys', hR⟩ := ih hys
          exact ⟨y' :: ys', .cons hy' hys', .cons hyy' hR⟩

theorem exists_getElem?_of_forall₂ {R : α → β → Prop} {xs : List α} {ys : List β}
    (h : List.Forall₂ R xs ys) {i : Nat} {x : α} (hx : xs[i]? = some x) :
    ∃ y, ys[i]? = some y ∧ R x y := by
  induction h generalizing i with
  | nil => cases hx
  | cons hhead _ ih =>
      cases i with
      | zero =>
          cases hx
          exact ⟨_, rfl, hhead⟩
      | succ i => exact ih hx

/-- Every result comes from a member. -/
theorem exists_of_mem_of_forall₂ {R : α → β → Prop} {xs : List α} {ys : List β}
    (h : List.Forall₂ R xs ys) {y : β} (hy : y ∈ ys) : ∃ x ∈ xs, R x y := by
  induction h with
  | nil => cases hy
  | cons hhead _ ih =>
      rcases List.mem_cons.mp hy with rfl | hy
      · exact ⟨_, List.mem_cons_self, hhead⟩
      · obtain ⟨x, hx, hxy⟩ := ih hy
        exact ⟨x, List.mem_cons_of_mem _ hx, hxy⟩

/-- Lists whose members agree on a value have the same values. -/
theorem map_eq_of_forall₂ {R : α → α → Prop} {f : α → β} {xs ys : List α}
    (h : List.Forall₂ R xs ys) (hf : ∀ x y, R x y → f y = f x) : ys.map f = xs.map f := by
  induction h with
  | nil => rfl
  | cons hhead _ ih => rw [List.map_cons, List.map_cons, hf _ _ hhead, ih]

/-- What every step keeps, a whole run keeps. -/
theorem invariant_of_foldlM_eq_ok {step : σ → α → Except ε σ} (Inv : σ → Prop)
    (hstep : ∀ s a s', Inv s → step s a = .ok s' → Inv s') {xs : List α} {s s' : σ}
    (hs : Inv s) (hrun : xs.foldlM step s = .ok s') : Inv s' := by
  induction xs generalizing s with
  | nil =>
      cases hrun
      exact hs
  | cons x xs ih =>
      rw [List.foldlM_cons, bind_eq_ok_iff] at hrun
      obtain ⟨t, hx, hxs⟩ := hrun
      exact ih (hstep s x t hs hx) hxs

/-- A run is what its steps are, if no step fails. -/
theorem foldlM_eq_ok_of_forall₂ {step : σ → α → Except ε σ} {apply : σ → β → σ} {xs : List α}
    {ys : List β} (h : List.Forall₂ (fun x y => ∀ s, step s x = .ok (apply s y)) xs ys) (s : σ) :
    xs.foldlM step s = .ok (ys.foldl apply s) := by
  induction h generalizing s with
  | nil => rfl
  | cons hhead _ ih =>
      rw [List.foldlM_cons, hhead s]
      exact ih _

end TileAtlas.Fallible
