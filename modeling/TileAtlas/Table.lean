/-
Finite maps with their entries in ascending key order.

The order is part of the type, so a map has one representation: two tables are equal
as soon as they answer every look-up alike, however they were built.
-/

namespace TileAtlas

/-- A finite map from `κ` to `α`: entries in strictly ascending key order. -/
structure Table (κ α : Type) [Ord κ] where
  entries : List (κ × α)
  ascending : entries.Pairwise (fun a b => compare a.1 b.1 = .lt)

namespace Table

variable {κ α : Type} [Ord κ]

/-- A table is its entries. -/
theorem eq_of_entries_eq {s t : Table κ α} (h : s.entries = t.entries) : s = t := by
  cases s; cases t; cases h; rfl

instance [DecidableEq κ] [DecidableEq α] : DecidableEq (Table κ α) := fun s t =>
  if h : s.entries = t.entries then isTrue (eq_of_entries_eq h)
  else isFalse (fun e => h (e ▸ rfl))

/-- The table without entries. -/
def empty : Table κ α := ⟨[], .nil⟩

instance : EmptyCollection (Table κ α) := ⟨empty⟩

instance : Inhabited (Table κ α) := ⟨empty⟩

def isEmpty (t : Table κ α) : Bool :=
  t.entries.isEmpty

def size (t : Table κ α) : Nat :=
  t.entries.length

def get? (t : Table κ α) (k : κ) : Option α :=
  (t.entries.find? (fun e => compare k e.1 == .eq)).map (·.2)

@[simp] theorem get?_empty (k : κ) : (∅ : Table κ α).get? k = none := rfl

/-- Put an entry at its place in an ascending list, over an entry with the same key. -/
def insertEntry (k : κ) (v : α) : List (κ × α) → List (κ × α)
  | [] => [(k, v)]
  | e :: es =>
    match compare k e.1 with
    | .lt => (k, v) :: e :: es
    | .eq => (k, v) :: es
    | .gt => e :: insertEntry k v es

theorem mem_insertEntry {k : κ} {v : α} {x : κ × α} :
    ∀ {es : List (κ × α)}, x ∈ insertEntry k v es → x = (k, v) ∨ x ∈ es
  | [], h => by simpa [insertEntry] using h
  | e :: es, h => by
    unfold insertEntry at h
    split at h
    · simpa using h
    · rcases List.mem_cons.1 h with h | h
      · exact .inl h
      · exact .inr (List.mem_cons_of_mem _ h)
    · rcases List.mem_cons.1 h with h | h
      · exact .inr (h ▸ List.mem_cons_self)
      · rcases mem_insertEntry h with h | h
        · exact .inl h
        · exact .inr (List.mem_cons_of_mem _ h)

variable [Std.TransOrd κ] [Std.LawfulEqOrd κ]

/-- Insertion keeps the keys strictly ascending, so each key has one entry. -/
theorem ascending_insertEntry {k : κ} {v : α} :
    ∀ {es : List (κ × α)}, es.Pairwise (fun a b => compare a.1 b.1 = .lt) →
      (insertEntry k v es).Pairwise (fun a b => compare a.1 b.1 = .lt)
  | [], _ => by simp [insertEntry]
  | e :: es, h => by
    have hes := List.pairwise_cons.1 h
    unfold insertEntry
    split
    · rename_i hlt
      refine List.pairwise_cons.2 ⟨fun x hx => ?_, h⟩
      rcases List.mem_cons.1 hx with rfl | hx
      · exact hlt
      · exact Std.TransCmp.lt_trans hlt (hes.1 x hx)
    · rename_i heq
      have hk : k = e.1 := Std.LawfulEqOrd.compare_eq_iff_eq.1 heq
      exact List.pairwise_cons.2 ⟨fun x hx => hk ▸ hes.1 x hx, hes.2⟩
    · rename_i hgt
      refine List.pairwise_cons.2 ⟨fun x hx => ?_, ascending_insertEntry hes.2⟩
      rcases mem_insertEntry hx with rfl | hx
      · exact Std.OrientedCmp.gt_iff_lt.1 hgt
      · exact hes.1 x hx

/-- Bind a key to a value, in place of what it was bound to before. -/
def insert (t : Table κ α) (k : κ) (v : α) : Table κ α :=
  ⟨insertEntry k v t.entries, ascending_insertEntry t.ascending⟩

/-- Insertion is seen at its key. -/
@[simp] theorem get?_insert_self (t : Table κ α) (k : κ) (v : α) :
    (t.insert k v).get? k = some v := by
  suffices h : ((insertEntry k v t.entries).find? (fun e => compare k e.1 == .eq)).map (·.2) =
      some v from h
  induction t.entries with
  | nil => simp [insertEntry]
  | cons e es ih =>
    unfold insertEntry
    split
    · simp
    · simp
    · rename_i hgt
      simpa [List.find?_cons, hgt] using ih

/-- Insertion is not seen at any other key. -/
theorem get?_insert_of_ne (t : Table κ α) {k k' : κ} (v : α) (hne : k' ≠ k) :
    (t.insert k v).get? k' = t.get? k' := by
  have hk : compare k' k ≠ .eq := fun h => hne (Std.LawfulEqOrd.compare_eq_iff_eq.1 h)
  suffices h : (insertEntry k v t.entries).find? (fun e => compare k' e.1 == .eq) =
      t.entries.find? (fun e => compare k' e.1 == .eq) by
    simp only [get?, insert, h]
  induction t.entries with
  | nil => simp [insertEntry, hk]
  | cons e es ih =>
    unfold insertEntry
    split
    · simp [List.find?_cons, hk]
    · rename_i heq
      have he : k = e.1 := Std.LawfulEqOrd.compare_eq_iff_eq.1 heq
      simp [← he, hk]
    · simp only [List.find?_cons, ih]

/-- The table of a list of bindings; of two bindings of one key the later one counts. -/
def ofList (es : List (κ × α)) : Table κ α :=
  es.foldl (fun t e => t.insert e.1 e.2) empty

end Table

end TileAtlas
