/-
Global ids and the tiles they stand for, in both directions.

`TileMap.resolve?_eq_some_iff` says which reference an id belongs to. Here the answer is
put in whole numbers, where first id and local id add up to the id without its flips
(`TileMap.resolve?_eq_some_iff_isStart`), and an id without an answer is empty or below
all first ids (`TileMap.resolve?_eq_none_iff`).

The place of a reference matters only between references that start alike. So the order
of the references does not matter where no two do (`TileMap.refFor?_perm`), and where
first ids ascend the ids of a reference are those up to the next one
(`TileMap.resolve?_first_add_iff`).
-/

import TileAtlas.Proofs.GlobalIds

namespace TileAtlas.TileMap

variable {m m' : TileMap} {gid : UInt32} {i : Nat} {tile : UInt32}

/-! ### Every id -/

/-- The reference in place `i` is where an id starts from: its first id is the greatest
one not above the id, and no later reference has the same. -/
structure IsStart (m : TileMap) (g i : Nat) (ref : TilesetRef) : Prop where
  getElem?_eq : m.tilesets[i]? = some ref
  le : ref.firstGid.toNat ≤ g
  greatest : ∀ other ∈ m.tilesets, other.firstGid.toNat ≤ g →
    other.firstGid.toNat ≤ ref.firstGid.toNat
  last : ∀ j other, m.tilesets[j]? = some other → other.firstGid = ref.firstGid → j ≤ i

/-- The tileset a gid belongs to is one that no other candidate beats. -/
theorem isStart_iff_notBetter {g : Nat} {ref : TilesetRef} :
    m.IsStart g i ref ↔
      m.tilesets[i]? = some ref ∧ ref.firstGid.toNat ≤ g ∧
        ∀ j other, m.tilesets[j]? = some other → other.firstGid.toNat ≤ g →
          NotBetter (j, other.firstGid) (i, ref.firstGid) := by
  unfold NotBetter
  constructor
  · rintro ⟨href, hle, hgreatest, hlast⟩
    refine ⟨href, hle, ?_⟩
    intro j other hj hother
    rcases Nat.lt_or_eq_of_le (hgreatest other (List.mem_of_getElem? hj) hother) with hlt | heq
    · exact .inl hlt
    · exact .inr ⟨heq, hlast j other hj (UInt32.toNat_inj.mp heq)⟩
  · rintro ⟨href, hle, hbest⟩
    refine ⟨href, hle, ?_, ?_⟩
    · intro other hother hle'
      obtain ⟨j, hj⟩ := List.mem_iff_getElem?.mp hother
      rcases hbest j other hj hle' with hlt | ⟨heq, -⟩
      · exact Nat.le_of_lt hlt
      · exact Nat.le_of_eq heq
    · intro j other hj hsame
      rcases hbest j other hj (hsame ▸ hle) with hlt | ⟨-, hji⟩
      · rw [hsame] at hlt
        exact absurd hlt (Nat.lt_irrefl _)
      · exact hji

/-- **First id and local id add up.** An id that is not empty stands for the tile that is
left when it starts from its reference. -/
theorem resolve?_eq_some_iff_isStart :
    m.resolve? gid = some (i, tile) ↔
      gid.toNat % 2 ^ 28 ≠ 0 ∧ ∃ ref, m.IsStart (gid.toNat % 2 ^ 28) i ref ∧
        ref.firstGid.toNat + tile.toNat = gid.toNat % 2 ^ 28 := by
  rw [resolve?_eq_some_iff, stripFlips_ne_zero_iff]
  refine and_congr_right fun _ => exists_congr fun ref => ?_
  simp only [isStart_iff_notBetter, UInt32.le_iff_toNat_le, toNat_stripFlips]
  have htile : ref.firstGid.toNat ≤ gid.toNat % 2 ^ 28 →
      (tile = stripFlips gid - ref.firstGid ↔
        ref.firstGid.toNat + tile.toNat = gid.toNat % 2 ^ 28) := by
    intro hle
    rw [← UInt32.toNat_inj, UInt32.toNat_sub_of_le, toNat_stripFlips]
    · omega
    · rwa [UInt32.le_iff_toNat_le, toNat_stripFlips]
  constructor
  · rintro ⟨href, hle, hsub, hbest⟩
    exact ⟨⟨href, hle, hbest⟩, (htile hle).mp hsub⟩
  · rintro ⟨⟨href, hle, hbest⟩, hadd⟩
    exact ⟨href, hle, (htile hle).mpr hadd, hbest⟩

/-- An id that is not empty belongs somewhere if some reference starts at it or below. -/
theorem exists_resolve?_eq_some (hgid : stripFlips gid ≠ 0) {ref : TilesetRef}
    (href : ref ∈ m.tilesets) (hle : ref.firstGid ≤ stripFlips gid) :
    ∃ r, m.resolve? gid = some r := by
  obtain ⟨j, hj⟩ := List.mem_iff_getElem?.mp href
  have hmem := mem_candidates (s := (j, ref.firstGid)) |>.mpr ⟨ref, hj, rfl, hle⟩
  have hsorted := candidates_sorted m (stripFlips gid)
  rw [resolve?_eq, if_neg hgid]
  cases hcs : m.candidates (stripFlips gid) with
  | nil =>
      rw [hcs] at hmem
      cases hmem
  | cons b cs =>
      rw [hcs] at hsorted
      obtain ⟨s, -, hfold, -⟩ := exists_foldl_later hsorted
      exact ⟨_, congrArg _ hfold⟩

/-- A gid resolves to nothing if it is empty or below every tileset. -/
theorem resolve?_eq_none_iff :
    m.resolve? gid = none ↔
      gid.toNat % 2 ^ 28 = 0 ∨ ∀ ref ∈ m.tilesets, gid.toNat % 2 ^ 28 < ref.firstGid.toNat := by
  constructor
  · intro hnone
    by_cases hgid : gid.toNat % 2 ^ 28 = 0
    · exact .inl hgid
    · refine .inr fun ref href => Nat.not_le.mp fun hle => ?_
      rw [← toNat_stripFlips, ← UInt32.le_iff_toNat_le] at hle
      obtain ⟨r, hr⟩ := exists_resolve?_eq_some (stripFlips_ne_zero_iff.mpr hgid) href hle
      rw [hnone] at hr
      cases hr
  · intro hout
    cases hresolve : m.resolve? gid with
    | none => rfl
    | some r =>
        obtain ⟨hgid, ref, hstart, -⟩ := resolve?_eq_some_iff_isStart.mp hresolve
        rcases hout with hzero | habove
        · exact absurd hzero hgid
        · have hlt := habove ref (List.mem_of_getElem? hstart.getElem?_eq)
          exact absurd hstart.le (Nat.not_le.mpr hlt)

/-! ### The order of the references -/

/-- No two references start alike. -/
def Distinct (m : TileMap) : Prop :=
  m.tilesets.Pairwise (fun r s => r.firstGid ≠ s.firstGid)

/-- Where starts are distinct the start names the tileset. -/
theorem Distinct.eq_of_firstGid_eq (hm : m.Distinct) {j k : Nat} {r s : TilesetRef}
    (hj : m.tilesets[j]? = some r) (hk : m.tilesets[k]? = some s)
    (hsame : r.firstGid = s.firstGid) : j = k := by
  obtain ⟨hjlt, rfl⟩ := List.getElem?_eq_some_iff.mp hj
  obtain ⟨hklt, rfl⟩ := List.getElem?_eq_some_iff.mp hk
  rcases Nat.lt_trichotomy j k with h | h | h
  · exact absurd hsame (List.pairwise_iff_getElem.mp hm j k hjlt hklt h)
  · exact h
  · exact absurd hsame.symm (List.pairwise_iff_getElem.mp hm k j hklt hjlt h)

def refFor? (m : TileMap) (gid : UInt32) : Option (TilesetRef × UInt32) :=
  (m.resolve? gid).bind fun r => (m.tilesets[r.1]?).map fun ref => (ref, r.2)

/-- Where no two references start alike, the place of a reference does not matter. -/
theorem refFor?_eq_some_iff (hm : m.Distinct) {ref : TilesetRef} :
    m.refFor? gid = some (ref, tile) ↔
      gid.toNat % 2 ^ 28 ≠ 0 ∧ ref ∈ m.tilesets ∧
        ref.firstGid.toNat + tile.toNat = gid.toNat % 2 ^ 28 ∧
        ∀ other ∈ m.tilesets, other.firstGid.toNat ≤ gid.toNat % 2 ^ 28 →
          other.firstGid.toNat ≤ ref.firstGid.toNat := by
  unfold refFor?
  simp only [Option.bind_eq_some_iff, Option.map_eq_some_iff, Prod.exists, Prod.mk.injEq,
    resolve?_eq_some_iff_isStart]
  constructor
  · rintro ⟨i, _, ⟨hgid, ref', hstart, hadd⟩, _, href, rfl, rfl⟩
    cases hstart.getElem?_eq.symm.trans href
    exact ⟨hgid, List.mem_of_getElem? href, hadd, hstart.greatest⟩
  · rintro ⟨hgid, hmem, hadd, hgreatest⟩
    obtain ⟨i, hi⟩ := List.mem_iff_getElem?.mp hmem
    have hstart : m.IsStart (gid.toNat % 2 ^ 28) i ref := by
      refine ⟨hi, by omega, hgreatest, ?_⟩
      intro j other hj hsame
      exact Nat.le_of_eq (hm.eq_of_firstGid_eq hj hi hsame)
    exact ⟨i, tile, ⟨hgid, ref, hstart, hadd⟩, ref, hi, rfl, rfl⟩

/-- **The order of references does not matter** where no two start alike. -/
theorem refFor?_perm (hm : m.Distinct) (hperm : m'.tilesets.Perm m.tilesets) (gid : UInt32) :
    m'.refFor? gid = m.refFor? gid := by
  have hm' : m'.Distinct := hperm.symm.pairwise hm fun h => h.symm
  apply Option.ext
  rintro ⟨ref, tile⟩
  rw [refFor?_eq_some_iff hm, refFor?_eq_some_iff hm', hperm.mem_iff]
  simp only [hperm.mem_iff]

/-! ### Ascending first ids -/

/-- Where first ids ascend, a reference is where an id starts from if the next one starts
above it. -/
theorem Ascends.isStart_iff (hm : m.Ascends) {g : Nat} {ref : TilesetRef}
    (href : m.tilesets[i]? = some ref) :
    m.IsStart g i ref ↔ ref.firstGid.toNat ≤ g ∧
      ∀ next, m.tilesets[i + 1]? = some next → g < next.firstGid.toNat := by
  constructor
  · intro hstart
    refine ⟨hstart.le, ?_⟩
    intro next hnext
    have hlt := UInt32.lt_iff_toNat_lt.mp (hm.lt href hnext (Nat.lt_succ_self i))
    refine Nat.not_le.mp fun hge => ?_
    exact absurd hlt (Nat.not_lt.mpr (hstart.greatest next (List.mem_of_getElem? hnext) hge))
  · rintro ⟨hle, hnext⟩
    -- A reference behind the next one starts above it, and so above the id.
    have hbefore : ∀ j other, m.tilesets[j]? = some other → other.firstGid.toNat ≤ g → j ≤ i := by
      intro j other hj hother
      refine Nat.not_lt.mp fun hij => ?_
      obtain ⟨hlength, rfl⟩ := List.getElem?_eq_some_iff.mp hj
      have hsucc := List.getElem?_eq_getElem (show i + 1 < m.tilesets.length by omega)
      have hlt := hnext _ hsucc
      rcases Nat.eq_or_lt_of_le (show i + 1 ≤ j by omega) with rfl | hlater
      · exact absurd hother (Nat.not_le.mpr hlt)
      · have hup := UInt32.lt_iff_toNat_lt.mp (hm.lt hsucc hj hlater)
        omega
    refine ⟨href, hle, ?_, ?_⟩
    · intro other hother hothers
      obtain ⟨j, hj⟩ := List.mem_iff_getElem?.mp hother
      rcases Nat.eq_or_lt_of_le (hbefore j other hj hothers) with rfl | hearlier
      · cases hj.symm.trans href
        exact Nat.le_refl _
      · exact Nat.le_of_lt (UInt32.lt_iff_toNat_lt.mp (hm.lt hj href hearlier))
    · intro j other hj hsame
      exact hbefore j other hj (hsame ▸ hle)

/-- **From a tile to its id and back.** Where first ids ascend, first id plus local id
leads back to both exactly if it is not empty, leaves the flips free, and the next
reference starts above it. -/
theorem resolve?_first_add_iff (hm : m.Ascends) {ref : TilesetRef}
    (href : m.tilesets[i]? = some ref) (hadd : gid.toNat = ref.firstGid.toNat + tile.toNat) :
    m.resolve? gid = some (i, tile) ↔
      gid ≠ 0 ∧ gid.toNat < 2 ^ 28 ∧
        ∀ next, m.tilesets[i + 1]? = some next → gid < next.firstGid := by
  rw [resolve?_eq_some_iff_isStart]
  simp only [UInt32.lt_iff_toNat_lt, ne_eq, ← UInt32.toNat_inj, UInt32.toNat_zero]
  constructor
  · rintro ⟨hgid, ref', hstart, hsum⟩
    cases hstart.getElem?_eq.symm.trans href
    -- Both sums are the same, so there is nothing above the low bits.
    have hlow : gid.toNat % 2 ^ 28 = gid.toNat := by omega
    rw [hlow] at hgid hstart
    exact ⟨hgid, hlow ▸ Nat.mod_lt _ (by decide), ((hm.isStart_iff href).mp hstart).2⟩
  · rintro ⟨hgid, hlow, hnext⟩
    rw [Nat.mod_eq_of_lt hlow]
    exact ⟨hgid, ref, (hm.isStart_iff href).mpr ⟨by omega, hnext⟩, hadd.symm⟩

/-! ### The whole rule -/

/-- **How global ids are resolved.** An id has no tile exactly if its low 28 bits are zero
or below every first id. Otherwise it belongs to the last reference with the greatest
first id not above it, and the local id is what is left. Where no two references start
alike, any other order of them gives every id the same reference and local id; and where
first ids ascend, the tile of a reference is found again under first id plus local id
exactly while that is not empty, fits in 28 bits, and stays below the next first id. -/
theorem resolution_rule (m : TileMap) (gid : UInt32) :
    (m.resolve? gid = none ↔
        gid.toNat % 2 ^ 28 = 0 ∨
          ∀ ref ∈ m.tilesets, gid.toNat % 2 ^ 28 < ref.firstGid.toNat) ∧
      (∀ i tile, m.resolve? gid = some (i, tile) ↔
        gid.toNat % 2 ^ 28 ≠ 0 ∧ ∃ ref, m.IsStart (gid.toNat % 2 ^ 28) i ref ∧
          ref.firstGid.toNat + tile.toNat = gid.toNat % 2 ^ 28) ∧
      (m.Distinct → ∀ m' : TileMap, m'.tilesets.Perm m.tilesets →
        m'.refFor? gid = m.refFor? gid) ∧
      (m.Ascends → ∀ i ref, m.tilesets[i]? = some ref → ∀ tile : UInt32,
        gid.toNat = ref.firstGid.toNat + tile.toNat →
          (m.resolve? gid = some (i, tile) ↔
            gid ≠ 0 ∧ gid.toNat < 2 ^ 28 ∧
              ∀ next, m.tilesets[i + 1]? = some next → gid < next.firstGid)) :=
  ⟨resolve?_eq_none_iff, fun _ _ => resolve?_eq_some_iff_isStart,
    fun hm _ hperm => refFor?_perm hm hperm gid,
    fun hm _ _ href _ hadd => resolve?_first_add_iff hm href hadd⟩

/-- Two tilesets, the first with the ids up to 4. -/
def shelf : TileMap :=
  { TileMap.blank 1 1 8 8 with
    tilesets := [⟨1, .external ⟨"a.tsx"⟩⟩, ⟨5, .external ⟨"b.tsx"⟩⟩] }

/-- Id 6 is the second tile of the second tileset. With a flip and with the references
turned around it still is. -/
theorem shelf_resolution :
    shelf.Ascends ∧ shelf.Distinct ∧ shelf.resolve? 6 = some (1, 1) ∧
      TileMap.refFor? { shelf with tilesets := shelf.tilesets.reverse } 2147483654 =
        some (⟨5, .external ⟨"b.tsx"⟩⟩, 1) := by
  have hascends : shelf.Ascends := by
    unfold Ascends
    decide
  have hdistinct : shelf.Distinct := by
    unfold Distinct
    decide
  obtain ⟨-, -, -, hback⟩ := resolution_rule shelf 6
  obtain ⟨-, -, horder, -⟩ := resolution_rule shelf 2147483654
  refine ⟨hascends, hdistinct, (hback hascends 1 _ rfl 1 rfl).mpr ⟨by decide, by decide, ?_⟩, ?_⟩
  · intro next hnext
    cases hnext
  · rw [horder hdistinct _ (List.reverse_perm _)]
    decide

end TileAtlas.TileMap
