/-
The distinct members of a list in ascending order.
-/

namespace TileAtlas.Ascending

variable {α : Type} [Ord α]

/-- Put a member at its place in a strictly ascending list, unless it is there. -/
def insert (x : α) : List α → List α
  | [] => [x]
  | y :: ys =>
    match compare x y with
    | .lt => x :: y :: ys
    | .eq => y :: ys
    | .gt => y :: insert x ys

/-- The members of a list, ascending and each once. -/
def ofList (xs : List α) : List α :=
  xs.foldr insert []

section Members

variable [Std.LawfulEqOrd α]

theorem mem_insert {x y : α} {xs : List α} : y ∈ insert x xs ↔ y = x ∨ y ∈ xs := by
  induction xs with
  | nil => simp [insert]
  | cons z zs ih =>
    unfold insert
    split
    · exact List.mem_cons
    · rename_i heq
      have hz : x = z := Std.LawfulEqOrd.compare_eq_iff_eq.1 heq
      rw [hz, List.mem_cons]
      exact ⟨.inr, fun h => h.elim .inl id⟩
    · rw [List.mem_cons, ih, List.mem_cons]
      exact or_left_comm

/-- Sorting and dropping repetitions keeps the members. -/
@[simp] theorem mem_ofList {y : α} {xs : List α} : y ∈ ofList xs ↔ y ∈ xs := by
  induction xs with
  | nil => simp [ofList]
  | cons x xs ih =>
    rw [List.mem_cons, ← ih]
    exact mem_insert

variable [Std.TransOrd α]

/-- Insertion keeps the list strictly ascending, hence without repeats. -/
theorem pairwise_insert {x : α} {xs : List α} (h : xs.Pairwise fun y z => compare y z = .lt) :
    (insert x xs).Pairwise fun y z => compare y z = .lt := by
  induction xs with
  | nil => simp [insert]
  | cons z zs ih =>
    obtain ⟨hz, hzs⟩ := List.pairwise_cons.mp h
    unfold insert
    split
    · rename_i hlt
      refine List.pairwise_cons.mpr ⟨?_, h⟩
      intro y hy
      rcases List.mem_cons.mp hy with rfl | hy
      · exact hlt
      · exact Std.TransCmp.lt_trans hlt (hz y hy)
    · exact h
    · rename_i hgt
      refine List.pairwise_cons.mpr ⟨?_, ih hzs⟩
      intro y hy
      rcases mem_insert.mp hy with rfl | hy
      · exact Std.OrientedCmp.gt_iff_lt.mp hgt
      · exact hz y hy

/-- The members are in strictly ascending order. -/
theorem pairwise_ofList (xs : List α) : (ofList xs).Pairwise fun y z => compare y z = .lt := by
  induction xs with
  | nil => exact .nil
  | cons x xs ih => exact pairwise_insert ih

/-- Lists with the same members are sorted to the same list. -/
theorem ofList_eq_of_mem_iff {xs ys : List α} (h : ∀ x, x ∈ xs ↔ x ∈ ys) :
    ofList xs = ofList ys := by
  have hnot : ∀ x : α, compare x x ≠ .lt := by
    intro x hlt
    cases Std.ReflCmp.compare_self.symm.trans hlt
  have hnodup : ∀ zs : List α, (ofList zs).Nodup := by
    intro zs
    refine (pairwise_ofList zs).imp ?_
    rintro x _ hlt rfl
    exact hnot x hlt
  have hperm : (ofList xs).Perm (ofList ys) := by
    refine (List.perm_ext_iff_of_nodup (hnodup xs) (hnodup ys)).mpr ?_
    intro x
    rw [mem_ofList, mem_ofList, h]
  refine hperm.eq_of_pairwise ?_ (pairwise_ofList xs) (pairwise_ofList ys)
  intro x y _ _ hxy hyx
  exact absurd (Std.TransCmp.lt_trans hxy hyx) (hnot x)

end Members

end TileAtlas.Ascending
