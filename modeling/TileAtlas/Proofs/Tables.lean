/-
Tables and the lists they are built from.

A key that is not there yet is put in without touching anything else
(`perm_insertEntry`), so bindings of distinct keys end up in the table in whatever order
they are put in, and the ascending order leaves only one table for them
(`ofList_eq_of_perm`).
-/

import Mathlib.Data.List.Nodup
import TileAtlas.Table

namespace TileAtlas.Table

variable {κ α : Type} [Ord κ]

/-- Inserting under a new key adds an entry and keeps all others. -/
theorem perm_insertEntry {k : κ} {v : α} {es : List (κ × α)}
    (h : ∀ e ∈ es, compare k e.1 ≠ .eq) : (insertEntry k v es).Perm ((k, v) :: es) := by
  induction es with
  | nil => exact .refl _
  | cons e es ih =>
      unfold insertEntry
      split
      · exact .refl _
      · rename_i heq
        exact absurd heq (h e List.mem_cons_self)
      · have hes := ih fun e' he' => h e' (List.mem_cons_of_mem e he')
        exact (hes.cons e).trans (.swap (k, v) e es)

theorem eq_empty_of_isEmpty {t : Table κ α} (h : t.isEmpty = true) : t = ∅ :=
  eq_of_entries_eq (List.isEmpty_iff.mp h)

variable [Std.LawfulEqOrd κ]

theorem compare_self_ne_lt (k : κ) : compare k k ≠ .lt := by
  have hself : compare k k = .eq := Std.ReflCmp.compare_self
  rw [hself]
  decide

/-- The keys of a table are distinct. -/
theorem nodup_keys (t : Table κ α) : (t.entries.map (·.1)).Nodup := by
  refine List.pairwise_map.mpr (t.ascending.imp fun {a b} hlt heq => ?_)
  rw [heq] at hlt
  exact compare_self_ne_lt b.1 hlt

variable [Std.TransOrd κ]

/-- Bindings of distinct new keys are added to what is there. -/
theorem perm_foldl_insert {es : List (κ × α)} {t : Table κ α}
    (hnodup : ((es ++ t.entries).map (·.1)).Nodup) :
    (es.foldl (fun t e => t.insert e.1 e.2) t).entries.Perm (es ++ t.entries) := by
  induction es generalizing t with
  | nil => exact .refl _
  | cons e es ih =>
      rw [List.cons_append, List.map_cons, List.nodup_cons] at hnodup
      obtain ⟨hnew, hrest⟩ := hnodup
      have hinsert : (t.insert e.1 e.2).entries.Perm (e :: t.entries) := by
        refine perm_insertEntry fun e' he' heq => hnew ?_
        rw [Std.LawfulEqOrd.compare_eq_iff_eq.mp heq]
        exact List.mem_map_of_mem (List.mem_append_right es he')
      have hall : (es ++ (t.insert e.1 e.2).entries).Perm (e :: (es ++ t.entries)) :=
        (hinsert.append_left es).trans List.perm_middle
      have hnodup' : ((es ++ (t.insert e.1 e.2).entries).map (·.1)).Nodup := by
        rw [(hall.map _).nodup_iff, List.map_cons, List.nodup_cons]
        exact ⟨hnew, hrest⟩
      exact (ih hnodup').trans hall

/-- **A table comes back from its entries in any order.** -/
theorem ofList_eq_of_perm {es : List (κ × α)} {t : Table κ α} (h : es.Perm t.entries) :
    ofList es = t := by
  have hnodup : ((es ++ (empty : Table κ α).entries).map (·.1)).Nodup := by
    rw [empty, List.append_nil, (h.map _).nodup_iff]
    exact t.nodup_keys
  have hperm : (ofList es).entries.Perm t.entries := by
    have := perm_foldl_insert hnodup
    rw [empty, List.append_nil] at this
    exact this.trans h
  refine eq_of_entries_eq (hperm.eq_of_pairwise ?_ (ofList es).ascending t.ascending)
  intro a b _ _ hab hba
  exact absurd (Std.TransCmp.lt_trans hab hba) (compare_self_ne_lt a.1)

end TileAtlas.Table
