/-
Which tileset a global id belongs to.

`TileMap.resolve?` goes through the references once and keeps the best so far
(`TileMap.exists_foldl_later`). The result is the reference with the greatest first id
not above the id, the last of equals (`TileMap.resolve?_eq_some_iff`).

`TileMap.Holds` says the same by ranges: an id lies in the range of a reference if the
reference starts at it or below and the next one starts above. Where first ids ascend
the two agree, and the range is unique.
-/

import Mathlib.Algebra.Group.Nat.Defs
import TileAtlas.TileMap

namespace TileAtlas

/-- Flips are gone after they were taken off once. -/
@[simp] theorem stripFlips_stripFlips (gid : UInt32) :
    stripFlips (stripFlips gid) = stripFlips gid := by
  unfold stripFlips
  rw [UInt32.and_assoc, UInt32.and_self]

/-- The id proper is what the low 28 bits hold. -/
theorem toNat_stripFlips (gid : UInt32) : (stripFlips gid).toNat = gid.toNat % 2 ^ 28 := by
  rw [stripFlips, UInt32.toNat_and]
  exact Nat.and_two_pow_sub_one_eq_mod _ 28

/-- A cell is empty if its gid is zero but for the four flip bits. -/
theorem stripFlips_ne_zero_iff {gid : UInt32} :
    stripFlips gid ≠ 0 ↔ gid.toNat % 2 ^ 28 ≠ 0 := by
  rw [ne_eq, ← UInt32.toNat_inj, toNat_stripFlips]
  rfl

namespace TileMap

/-! ### The best candidate -/

/-- A candidate that does not replace another: it starts lower, or it starts alike and
does not come later. -/
def NotBetter (c s : Nat × UInt32) : Prop :=
  c.2.toNat < s.2.toNat ∨ c.2.toNat = s.2.toNat ∧ c.1 ≤ s.1

theorem NotBetter.refl (c : Nat × UInt32) : NotBetter c c :=
  .inr ⟨rfl, Nat.le_refl _⟩

theorem NotBetter.trans {a b c : Nat × UInt32} (hab : NotBetter a b) (hbc : NotBetter b c) :
    NotBetter a c := by
  unfold NotBetter at *
  omega

/-- Two candidates of which neither is better are one: position and start decide together. -/
theorem NotBetter.antisymm {a b : Nat × UInt32} (hab : NotBetter a b) (hba : NotBetter b a) :
    a = b := by
  unfold NotBetter at *
  have hstart : a.2 = b.2 := UInt32.toNat_inj.mp (by omega)
  exact Prod.ext (by omega) hstart

/-- Of an earlier candidate and a later one, `later` keeps one that neither is better
than. -/
theorem exists_later {b c : Nat × UInt32} (hbc : b.1 < c.1) :
    ∃ s, later (some b) c = some s ∧ (s = b ∨ s = c) ∧ NotBetter b s ∧ NotBetter c s := by
  unfold later
  simp only
  split
  · rename_i hlt
    exact ⟨b, rfl, .inl rfl, .refl b, .inl (UInt32.lt_iff_toNat_lt.mp hlt)⟩
  · rename_i hge
    rw [UInt32.lt_iff_toNat_lt, Nat.not_lt] at hge
    refine ⟨c, rfl, .inr rfl, ?_, .refl c⟩
    unfold NotBetter
    omega

/-- Keeping the better of two all along a list ends with a member that no member is
better than. -/
theorem exists_foldl_later {b : Nat × UInt32} {cs : List (Nat × UInt32)}
    (hsorted : (b :: cs).Pairwise (fun s t => s.1 < t.1)) :
    ∃ s ∈ b :: cs, cs.foldl later (some b) = some s ∧ ∀ c ∈ b :: cs, NotBetter c s := by
  induction cs generalizing b with
  | nil =>
      refine ⟨b, List.mem_singleton_self b, rfl, fun c hc => ?_⟩
      rw [List.mem_singleton.mp hc]
      exact .refl b
  | cons c cs ih =>
      obtain ⟨hb, htail⟩ := List.pairwise_cons.mp hsorted
      obtain ⟨t, ht, heither, hbt, hct⟩ := exists_later (hb c List.mem_cons_self)
      have hts : (t :: cs).Pairwise (fun s t => s.1 < t.1) := by
        rcases heither with rfl | rfl
        · exact List.pairwise_cons.mpr ⟨fun x hx => hb x (List.mem_cons_of_mem c hx),
            (List.pairwise_cons.mp htail).2⟩
        · exact htail
      obtain ⟨s, hs, hfold, hbest⟩ := ih hts
      have hts' := hbest t List.mem_cons_self
      refine ⟨s, ?_, by rw [List.foldl_cons, ht, hfold], fun x hx => ?_⟩
      · rcases List.mem_cons.mp hs with rfl | hs
        · rcases heither with rfl | rfl
          · exact List.mem_cons_self
          · exact List.mem_cons_of_mem b List.mem_cons_self
        · exact List.mem_cons_of_mem b (List.mem_cons_of_mem c hs)
      · rcases List.mem_cons.mp hx with rfl | hx
        · exact hbt.trans hts'
        · rcases List.mem_cons.mp hx with rfl | hx
          · exact hct.trans hts'
          · exact hbest x (List.mem_cons_of_mem t hx)

/-! ### Candidates for an id -/

/-- The references that start at an id or below, by position. -/
def candidates (m : TileMap) (g : UInt32) : List (Nat × UInt32) :=
  (m.tilesets.zipIdx.map (fun r => (r.2, r.1.firstGid))).filter (fun s => s.2 ≤ g)

/-- The candidates are the tilesets that start at the gid or below. -/
theorem mem_candidates {m : TileMap} {g : UInt32} {s : Nat × UInt32} :
    s ∈ m.candidates g ↔
      ∃ ref, m.tilesets[s.1]? = some ref ∧ ref.firstGid = s.2 ∧ ref.firstGid ≤ g := by
  unfold candidates
  simp only [List.mem_filter, List.mem_map, Prod.exists, List.mem_zipIdx_iff_getElem?,
    decide_eq_true_eq]
  constructor
  · rintro ⟨⟨ref, i, hi, rfl⟩, hle⟩
    exact ⟨ref, hi, rfl, hle⟩
  · rintro ⟨ref, hi, hfirst, hle⟩
    exact ⟨⟨ref, s.1, hi, by rw [hfirst]⟩, hfirst ▸ hle⟩

/-- The candidates stand in the order of the map's tilesets. -/
theorem candidates_sorted (m : TileMap) (g : UInt32) :
    (m.candidates g).Pairwise (fun s t => s.1 < t.1) := by
  have hpositions : (m.tilesets.zipIdx.map Prod.snd).Pairwise (· < ·) := by
    rw [List.zipIdx_map_snd]
    exact List.pairwise_lt_range'
  exact List.Pairwise.filter _ (List.pairwise_map.mpr (List.pairwise_map.mp hpositions))

/-- Resolution takes the best candidate for the gid without its flip bits. -/
theorem resolve?_eq (m : TileMap) (gid : UInt32) :
    m.resolve? gid =
      if stripFlips gid = 0 then none
      else ((m.candidates (stripFlips gid)).foldl later none).map
        (fun s => (s.1, stripFlips gid - s.2)) :=
  rfl

/-- Flips do not matter to where an id belongs. -/
@[simp] theorem resolve?_stripFlips (m : TileMap) (gid : UInt32) :
    m.resolve? (stripFlips gid) = m.resolve? gid := by
  rw [resolve?_eq, resolve?_eq, stripFlips_stripFlips]

/-- **Where an id belongs.** An id that is not empty belongs to the reference with the
greatest first id not above it, the last of those that start alike; the local tile id is
what is left. -/
theorem resolve?_eq_some_iff {m : TileMap} {gid : UInt32} {i : Nat} {tile : UInt32} :
    m.resolve? gid = some (i, tile) ↔
      stripFlips gid ≠ 0 ∧
        ∃ ref, m.tilesets[i]? = some ref ∧ ref.firstGid ≤ stripFlips gid ∧
          tile = stripFlips gid - ref.firstGid ∧
          ∀ j other, m.tilesets[j]? = some other → other.firstGid ≤ stripFlips gid →
            NotBetter (j, other.firstGid) (i, ref.firstGid) := by
  have hsorted := candidates_sorted m (stripFlips gid)
  rw [resolve?_eq]
  split
  · rename_i hzero
    constructor
    · intro h
      cases h
    · intro h
      exact absurd hzero h.1
  · rename_i hgid
    cases hcs : m.candidates (stripFlips gid) with
    | nil =>
        constructor
        · intro h
          cases h
        · rintro ⟨-, ref, hi, hle, -⟩
          have hmem := mem_candidates (s := (i, ref.firstGid)) |>.mpr ⟨ref, hi, rfl, hle⟩
          rw [hcs] at hmem
          cases hmem
    | cons b cs =>
        rw [hcs] at hsorted
        obtain ⟨s, hs, hfold, hbest⟩ := exists_foldl_later hsorted
        rw [← hcs] at hs hbest
        obtain ⟨ref, href, hfirst, hle⟩ := mem_candidates.mp hs
        have hresult : ((b :: cs).foldl later none).map (fun s => (s.1, stripFlips gid - s.2)) =
            some (s.1, stripFlips gid - s.2) := congrArg _ hfold
        rw [hresult, Option.some.injEq, Prod.mk.injEq]
        constructor
        · rintro ⟨rfl, rfl⟩
          refine ⟨hgid, ref, href, hle, by rw [hfirst], fun j other hj hother => ?_⟩
          rw [hfirst]
          exact hbest (j, other.firstGid) (mem_candidates.mpr ⟨other, hj, rfl, hother⟩)
        · rintro ⟨-, other, hi, hother, rfl, hothers⟩
          -- Both are best, so they are the same candidate.
          have hsame : s = (i, other.firstGid) := by
            refine NotBetter.antisymm ?_ (hbest _ (mem_candidates.mpr ⟨other, hi, rfl, hother⟩))
            have := hothers s.1 ref href hle
            rwa [hfirst] at this
          rw [hsame]
          exact ⟨rfl, rfl⟩

/-! ### Ranges -/

/-- An id lies in the range of a reference: the reference starts at it or below, and the
next one, if there is one, starts above. -/
def Holds (m : TileMap) (i : Nat) (g : UInt32) : Prop :=
  (∃ ref, m.tilesets[i]? = some ref ∧ ref.firstGid ≤ g) ∧
    ∀ next, m.tilesets[i + 1]? = some next → g < next.firstGid

/-- First ids that ascend strictly. -/
def Ascends (m : TileMap) : Prop :=
  m.tilesets.Pairwise (fun r s => r.firstGid < s.firstGid)

theorem Ascends.lt {m : TileMap} (hm : m.Ascends) {i j : Nat} {r s : TilesetRef}
    (hi : m.tilesets[i]? = some r) (hj : m.tilesets[j]? = some s) (hij : i < j) :
    r.firstGid < s.firstGid := by
  obtain ⟨hilt, rfl⟩ := List.getElem?_eq_some_iff.mp hi
  obtain ⟨hjlt, rfl⟩ := List.getElem?_eq_some_iff.mp hj
  exact List.pairwise_iff_getElem.mp hm i j hilt hjlt hij

/-- Where first ids ascend, the ranges are disjoint. -/
theorem Holds.unique {m : TileMap} (hm : m.Ascends) {i j : Nat} {g : UInt32}
    (hi : m.Holds i g) (hj : m.Holds j g) : i = j := by
  -- The later of two ranges would start above the end of the earlier one.
  have hnot : ∀ {i j}, m.Holds i g → m.Holds j g → ¬ i < j := by
    rintro i j ⟨-, hnext⟩ ⟨⟨r, hr, hle⟩, -⟩ hij
    have hjlt := (List.getElem?_eq_some_iff.mp hr).1
    have hsucc := List.getElem?_eq_getElem (Nat.lt_of_le_of_lt hij hjlt)
    have hlt := hnext _ hsucc
    rcases Nat.eq_or_lt_of_le hij with rfl | hij
    · rw [hr] at hsucc
      cases hsucc
      exact absurd hle (UInt32.not_le.mpr hlt)
    · exact absurd hle (UInt32.not_le.mpr (UInt32.lt_trans hlt (hm.lt hsucc hr hij)))
  rcases Nat.lt_trichotomy i j with h | h | h
  · exact absurd h (hnot hi hj)
  · exact h
  · exact absurd h (hnot hj hi)

/-- Where first ids ascend, an id belongs to the reference whose range it lies in. -/
theorem holds_of_resolve? {m : TileMap} (hm : m.Ascends) {gid : UInt32} {i : Nat} {tile : UInt32}
    (h : m.resolve? gid = some (i, tile)) : m.Holds i (stripFlips gid) := by
  obtain ⟨-, ref, hi, hle, -, hbest⟩ := resolve?_eq_some_iff.mp h
  refine ⟨⟨ref, hi, hle⟩, fun next hnext => ?_⟩
  have hlt := hm.lt hi hnext (Nat.lt_succ_self i)
  rw [← UInt32.not_le]
  intro hnextle
  rcases hbest (i + 1) next hnext hnextle with hless | ⟨-, hpos⟩
  · exact absurd (UInt32.lt_iff_toNat_lt.mp hlt) (Nat.lt_asymm hless)
  · exact absurd hpos (Nat.not_succ_le_self i)

end TileMap

end TileAtlas
