/-
The texts of floating-point numbers, character by character.

Digits with a point placed among them are a whole part and a fraction
(`exists_toList_placed`); with an exponent, a single digit comes before the point
(`exists_toList_scientific`). The whole part of a number above zero has no needless zero
in front, and the number that is written for a value above zero is above zero
(`shortest_ne_zero`). So a text with every digit in place has no white space
(`trim_plain`), and a text with a point or an exponent is a numeral that is more than
digits (`exists_toList_marked`).
-/

import TileAtlas.Number.Shortest
import TileAtlas.Proofs.Numerals

namespace TileAtlas.Number

open Text

def AllDigits (cs : List Char) : Prop := ∀ c ∈ cs, c.isDigit = true

theorem allDigits_nil : AllDigits [] := fun _ h => nomatch h

theorem allDigits_toDigits (n : Nat) : AllDigits (Nat.toDigits 10 n) :=
  fun _ => isDigit_of_mem_toDigits

theorem AllDigits.append {cs ds : List Char} (hcs : AllDigits cs) (hds : AllDigits ds) :
    AllDigits (cs ++ ds) := by
  intro c hc
  rcases List.mem_append.mp hc with hc | hc
  · exact hcs c hc
  · exact hds c hc

theorem allDigits_replicate (n : Nat) : AllDigits (List.replicate n '0') := by
  intro c hc
  rw [List.eq_of_mem_replicate hc]
  rfl

theorem AllDigits.take {cs : List Char} (h : AllDigits cs) (n : Nat) : AllDigits (cs.take n) :=
  fun c hc => h c (List.mem_of_mem_take hc)

theorem AllDigits.drop {cs : List Char} (h : AllDigits cs) (n : Nat) : AllDigits (cs.drop n) :=
  fun c hc => h c (List.mem_of_mem_drop hc)

/-- A fraction after its point; no point without one. -/
def pointed (fraction : List Char) : List Char :=
  if fraction.isEmpty then [] else '.' :: fraction

theorem pointed_of_ne_nil {fraction : List Char} (h : fraction ≠ []) :
    pointed fraction = '.' :: fraction := by
  simp [pointed, h]

/-- The digits before a point: at least one, and no needless zero in front. -/
def IsWhole (cs : List Char) : Prop :=
  AllDigits cs ∧ cs ≠ [] ∧ (cs = ['0'] ∨ cs.head? ≠ some '0')

/-- A decimal numeral has no leading zero, as JSON asks of the whole part. -/
theorem isWhole_toDigits (n : Nat) : IsWhole (Nat.toDigits 10 n) := by
  refine ⟨allDigits_toDigits n, Nat.toDigits_ne_nil, ?_⟩
  by_cases hn : n = 0
  · left
    rw [hn]
    rfl
  · right
    exact head?_toDigits_ne hn

/-- The digits of a number above zero start with a digit that is not zero. -/
theorem exists_toDigits_eq_cons_of_ne {n : Nat} (hn : n ≠ 0) :
    ∃ c cs, Nat.toDigits 10 n = c :: cs ∧ c.isDigit = true ∧ c ≠ '0' ∧ AllDigits cs := by
  obtain ⟨c, cs, hcons, hdigit⟩ := exists_toDigits_eq_cons n
  have hhead := head?_toDigits_ne hn
  have hall := allDigits_toDigits n
  rw [hcons] at hhead hall
  exact ⟨c, cs, hcons, hdigit, fun h => hhead (congrArg some h),
    fun d hd => hall d (List.mem_cons_of_mem c hd)⟩

theorem isWhole_cons {c : Char} {cs : List Char} (hdigit : c.isDigit = true) (hc : c ≠ '0')
    (hcs : AllDigits cs) : IsWhole (c :: cs) := by
  refine ⟨?_, List.cons_ne_nil _ _, .inr fun h => hc (Option.some.inj h)⟩
  intro d hd
  rcases List.mem_cons.mp hd with rfl | hd
  · exact hdigit
  · exact hcs d hd

/-- Digits with a point placed among them. -/
theorem exists_toList_placed (keepPoint : Bool) {c : Nat} (hc : c ≠ 0) (e : Int) :
    ∃ whole fraction, IsWhole whole ∧ AllDigits fraction ∧
      (keepPoint = true → fraction ≠ []) ∧
      (placed keepPoint c e).toList = whole ++ pointed fraction := by
  obtain ⟨d, ds, hcons, hdigit, hd, hds⟩ := exists_toDigits_eq_cons_of_ne hc
  unfold placed
  simp only [hcons]
  split
  · refine ⟨d :: ds ++ List.replicate e.toNat '0', if keepPoint then ['0'] else [],
      isWhole_cons hdigit hd (hds.append (allDigits_replicate _)), ?_, ?_, ?_⟩
    · cases keepPoint with
      | true => exact allDigits_replicate 1
      | false => exact allDigits_nil
    · rintro rfl
      simp
    · cases keepPoint with
      | true => simp [zeros, pointed]
      | false => simp [zeros, pointed]
  · rename_i he
    split
    · have hne : List.replicate ((-e).toNat - (d :: ds).length) '0' ++ d :: ds ≠ [] := by
        simp
      refine ⟨['0'], _, ⟨allDigits_replicate 1, by decide, .inl rfl⟩,
        (allDigits_replicate _).append (hcons ▸ allDigits_toDigits c), fun _ => hne, ?_⟩
      rw [pointed_of_ne_nil hne]
      simp [zeros]
    · rename_i hlength
      -- The point falls inside the digits, so there are some on both sides of it.
      obtain ⟨k, hk⟩ : ∃ k, (d :: ds).length - (-e).toNat = k + 1 :=
        ⟨(d :: ds).length - (-e).toNat - 1, by omega⟩
      have hne : ds.drop k ≠ [] := by
        rw [Ne, List.drop_eq_nil_iff, Nat.not_le]
        rw [List.length_cons] at hk
        omega
      refine ⟨d :: ds.take k, ds.drop k, isWhole_cons hdigit hd (hds.take k), hds.drop k,
        fun _ => hne, ?_⟩
      rw [pointed_of_ne_nil hne, hk]
      simp

/-- Digits with the point after the first one and an exponent. -/
theorem exists_toList_scientific {c : Nat} (hc : c ≠ 0) (e : Int) :
    ∃ d ds sign n, IsWhole [d] ∧ AllDigits ds ∧ (sign = '+' ∨ sign = '-') ∧
      (scientific c e).toList = d :: pointed ds ++ 'e' :: sign :: Nat.toDigits 10 n := by
  obtain ⟨d, ds, hcons, hdigit, hd, hds⟩ := exists_toDigits_eq_cons_of_ne hc
  unfold scientific
  simp only [hcons]
  refine ⟨d, ds, if e + (d :: ds).length - 1 < 0 then '-' else '+',
    (e + (d :: ds).length - 1).natAbs, isWhole_cons hdigit hd allDigits_nil, hds, ?_, ?_⟩
  · split
    · exact .inr rfl
    · exact .inl rfl
  · have hmantissa : (String.ofList ((d :: ds).take 1) ++
        if (d :: ds).length ≤ 1 then "" else "." ++ String.ofList ((d :: ds).drop 1)).toList =
          d :: pointed ds := by
      cases ds with
      | nil => simp [pointed]
      | cons d' ds => simp [pointed]
    have hmark : ∀ x : Int, (if x < 0 then "e-" else "e+").toList =
        ['e', if x < 0 then '-' else '+'] := by
      intro x
      split
      · rfl
      · rfl
    rw [String.toList_append, String.toList_append, hmantissa, hmark, toList_toString_nat]
    simp

/-! ### The number that is written -/

theorem scaleBy_fst_pos {base num : Nat} (hbase : 0 < base) (hnum : 0 < num) (e : Int) (den : Nat) :
    0 < (scaleBy base e num den).1 :=
  Nat.mul_pos hnum (Nat.pow_pos hbase)

theorem quarters_fst_pos (f : Format) {m : Nat} (hm : m ≠ 0) (e : Int) :
    0 < (f.quarters m e).1 := by
  unfold Format.quarters
  simp only
  split
  · omega
  · omega

/-- A multiple that rounds to a value above zero is above zero. -/
theorem onGrid?_ne_zero {tie : Tie} {f : Format} {m : Nat} (hm : m ≠ 0) {e k : Int} {c : Nat}
    (h : onGrid? tie f m e k = some c) : c ≠ 0 := by
  rintro rfl
  unfold onGrid? at h
  obtain ⟨low, mid, high, hquarters⟩ : ∃ low mid high, f.quarters m e = (low, mid, high) :=
    ⟨_, _, _, rfl⟩
  obtain ⟨p, q, hscale⟩ : ∃ p q, scaleBy 10 (-k) (scaleBy 2 (e - 2) 1 1).1
      (scaleBy 2 (e - 2) 1 1).2 = (p, q) := ⟨_, _, rfl⟩
  have hlow : 0 < low := by
    simpa [hquarters] using quarters_fst_pos f hm e
  have hp : 0 < p := by
    have htwo := scaleBy_fst_pos Nat.two_pos Nat.one_pos (e - 2) 1
    have hten := scaleBy_fst_pos (Nat.succ_pos 9) htwo (-k) (scaleBy 2 (e - 2) 1 1).2
    rwa [hscale] at hten
  have hlowp : 0 < low * p := Nat.mul_pos hlow hp
  simp -zeta only [hquarters, hscale] at h
  extract_lets inside c below above at h
  have hzero : inside 0 = false := by
    simp only [inside]
    split
    · simp
      omega
    · simp
  split at h
  · rename_i hboth
    split at h
    · cases h
    · simp [below, Option.some.inj h, hzero] at hboth
  · split at h
    · rename_i hbelow
      simp [below, Option.some.inj h, hzero] at hbelow
    · split at h
      · cases h
      · cases h

/-- The number that is written for a value above zero is above zero. -/
theorem shortest_ne_zero (tie : Tie) (f : Format) {m : Nat} (hm : m ≠ 0) (e : Int) :
    (shortest tie f m e).1 ≠ 0 := by
  have hrun : ∀ fuel k, (coarsestGrid tie f m e fuel k).1 ≠ 0 := by
    intro fuel
    induction fuel with
    | zero => exact fun _ => hm
    | succ fuel ih =>
        intro k
        unfold coarsestGrid
        split
        · rename_i hgrid
          exact onGrid?_ne_zero hm hgrid
        · exact ih (k - 1)
  exact hrun 24 _

/-! ### The two layouts -/

/-- No blank stands in a fraction, so trimming leaves the literal alone. -/
theorem isBlank_of_mem_pointed {fraction : List Char} (h : AllDigits fraction) {c : Char}
    (hc : c ∈ pointed fraction) : isBlank c = false := by
  unfold pointed at hc
  split at hc
  · cases hc
  · rcases List.mem_cons.mp hc with rfl | hc
    · decide
    · exact isBlank_of_isDigit (h c hc)

/-- A number with every digit in place has no white space around it. -/
theorem trim_plain {f : Format} (x : Binary f) : trim x.plain = x.plain := by
  refine trim_eq_self ?_
  cases x with
  | nan => simp [Binary.plain, isBlank]
  | infinite s =>
      cases s with
      | false => simp [Binary.plain, isBlank]
      | true => simp [Binary.plain, isBlank]
  | finite s m e _ =>
      have hsign : ∀ c ∈ (if s then "-" else "").toList, isBlank c = false := by
        cases s with
        | false => simp
        | true => simp [isBlank]
      intro c hc
      unfold Binary.plain at hc
      simp only at hc
      split at hc
      · rw [String.toList_append, List.mem_append] at hc
        rcases hc with hc | hc
        · exact hsign c hc
        · rw [List.mem_singleton.mp hc]
          decide
      · rename_i hm
        obtain ⟨whole, fraction, hwhole, hfraction, -, htext⟩ :=
          exists_toList_placed false (shortest_ne_zero .toGreater f hm e)
            (shortest .toGreater f m e).2
        rw [String.toList_append, htext, List.mem_append, List.mem_append] at hc
        rcases hc with hc | hc | hc
        · exact hsign c hc
        · exact isBlank_of_isDigit (hwhole.1 c hc)
        · exact isBlank_of_mem_pointed hfraction hc

/-- A mark with a signed number, or nothing. -/
inductive IsExponent : List Char → Prop where
  | missing : IsExponent []
  | signed {sign : Char} (hsign : sign = '+' ∨ sign = '-') (n : Nat) :
      IsExponent ('e' :: sign :: Nat.toDigits 10 n)

/-- A number with a point or an exponent is a sign, a whole part, a fraction and an
exponent, and one of the last two is there. -/
theorem exists_toList_marked {f : Format} {range : PlainRange} {x : Binary f} {literal : String}
    (h : x.marked? range = some literal) :
    ∃ sign whole fraction exponent, (sign = [] ∨ sign = ['-']) ∧ IsWhole whole ∧
      AllDigits fraction ∧ IsExponent exponent ∧ (fraction ≠ [] ∨ exponent ≠ []) ∧
      literal.toList = sign ++ (whole ++ (pointed fraction ++ exponent)) := by
  cases x with
  | nan => cases h
  | infinite s => cases h
  | finite s m e _ =>
      have hsign :
          (if s then "-" else "").toList = [] ∨ (if s then "-" else "").toList = ['-'] := by
        cases s with
        | false => exact .inl rfl
        | true => exact .inr rfl
      unfold Binary.marked? at h
      simp only at h
      split at h
      · cases h
        refine ⟨_, ['0'], ['0'], [], hsign, ⟨allDigits_replicate 1, by decide, .inl rfl⟩,
          allDigits_replicate 1, .missing, .inl (by decide), ?_⟩
        rw [String.toList_append]
        rfl
      · rename_i hm
        have hc := shortest_ne_zero .toEven f hm e
        split at h
        · cases h
          obtain ⟨whole, fraction, hwhole, hfraction, hpoint, htext⟩ :=
            exists_toList_placed true hc (shortest .toEven f m e).2
          refine ⟨_, whole, fraction, [], hsign, hwhole, hfraction, .missing, .inl (hpoint rfl), ?_⟩
          rw [String.toList_append, htext, List.append_nil]
        · cases h
          obtain ⟨d, ds, mark, n, hd, hds, hmark, htext⟩ :=
            exists_toList_scientific hc (shortest .toEven f m e).2
          refine ⟨_, [d], ds, _, hsign, hd, hds, .signed hmark n, .inr (List.cons_ne_nil _ _), ?_⟩
          rw [String.toList_append, htext]
          simp

end TileAtlas.Number
