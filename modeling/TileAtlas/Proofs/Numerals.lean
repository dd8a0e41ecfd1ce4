/-
Written numerals and what is read from them.

Every reader of a number takes back the decimal text of the number: `uint8?_toString`,
`uint32?_toString`, `int32?_toString` and `int64?_toString`. The readers of unsigned
numbers take more than these texts: all numerals of the number (`IsNumeral`), and nothing
else (`uint8?_eq_some_iff`, `uint32?_eq_some_iff`).

A decimal text has no white space, so trimming leaves it alone, and no comma, so a list of
numerals can be cut at the commas between them (`fields_joinWith`). Every text can be cut
at a separator in exactly one way (`cutAt_iff`).
-/

import TileAtlas.Text.Numeral

namespace TileAtlas.Text

/-! ### White space -/

/-- Trimming leaves a text alone that neither starts nor ends with white space. -/
theorem trimChars_eq_self_of_ends {cs : List Char}
    (hfirst : ∀ c, cs.head? = some c → isBlank c = false)
    (hlast : ∀ c, cs.getLast? = some c → isBlank c = false) : trimChars cs = cs := by
  have hdrop {cs : List Char} (h : ∀ c, cs.head? = some c → isBlank c = false) :
      cs.dropWhile isBlank = cs := by
    cases cs with
    | nil => rfl
    | cons c cs => rw [List.dropWhile_cons_of_neg (by simp [h c rfl])]
  unfold trimChars trimEndChars
  rw [hdrop hfirst, hdrop (by rwa [List.head?_reverse]), List.reverse_reverse]

/-- Trimming leaves a text without white space alone. -/
theorem trimChars_eq_self {cs : List Char} (h : ∀ c ∈ cs, isBlank c = false) :
    trimChars cs = cs :=
  trimChars_eq_self_of_ends (fun c hc => h c (List.mem_of_head? hc))
    fun c hc => h c (List.mem_of_getLast? hc)

theorem trim_eq_self {s : String} (h : ∀ c ∈ s.toList, isBlank c = false) : trim s = s := by
  rw [trim, trimChars_eq_self h, String.ofList_toList]

theorem isBlank_of_isDigit {c : Char} (h : c.isDigit = true) : isBlank c = false := by
  have hrange : 48 ≤ c.toNat ∧ c.toNat ≤ 57 := by
    simpa [Char.isDigit, UInt32.le_iff_toNat_le] using h
  unfold isBlank
  simp
  omega

/-! ### Digits -/

theorem digitsValue_toDigits (n : Nat) : digitsValue (Nat.toDigits 10 n) = n :=
  Nat.ofDigitChars_toDigits (by decide) (by decide)

theorem isDigit_of_mem_toDigits {n : Nat} {c : Char} (hc : c ∈ Nat.toDigits 10 n) :
    c.isDigit = true :=
  Nat.isDigit_of_mem_toDigits (by decide) (by decide) hc

/-- The digits of a number are read as the number. -/
@[simp] theorem digits?_toDigits (n : Nat) : digits? (Nat.toDigits 10 n) = some n := by
  have hall : (Nat.toDigits 10 n).all Char.isDigit = true :=
    List.all_eq_true.mpr fun c hc => isDigit_of_mem_toDigits hc
  have hne : (Nat.toDigits 10 n).isEmpty = false := by
    simp [Nat.toDigits_ne_nil]
  simp only [digits?, hall, hne, Bool.not_false, Bool.and_self, if_true, digitsValue_toDigits]

theorem toList_toString_nat (n : Nat) : (toString n).toList = Nat.toDigits 10 n :=
  Nat.toList_repr

theorem toList_toString_negSucc (n : Nat) :
    (toString (Int.negSucc n)).toList = '-' :: Nat.toDigits 10 (n + 1) := by
  have h : toString (Int.negSucc n) = "-" ++ (n + 1).repr := rfl
  rw [h, String.toList_append, Nat.toList_repr]
  rfl

/-- The digits of a number start with a digit. -/
theorem exists_toDigits_eq_cons (n : Nat) :
    ∃ c cs, Nat.toDigits 10 n = c :: cs ∧ c.isDigit = true := by
  obtain ⟨c, cs, h⟩ := List.exists_cons_of_ne_nil (Nat.toDigits_ne_nil (n := n) (b := 10))
  exact ⟨c, cs, h, isDigit_of_mem_toDigits (h ▸ List.mem_cons_self)⟩

/-- The digits of a number do not start with a zero, unless the number is zero. -/
theorem head?_toDigits_ne {n : Nat} (h : n ≠ 0) : (Nat.toDigits 10 n).head? ≠ some '0' := by
  induction n using Nat.strongRecOn with
  | _ n ih =>
      by_cases hlt : n < 10
      · rw [Nat.toDigits_of_lt_base hlt, List.head?_cons, Ne, Option.some.injEq, ← Char.toNat_inj,
          Nat.toNat_digitChar_of_lt_ten hlt]
        simp only [Char.reduceToNat]
        omega
      · obtain ⟨c, cs, hcons, -⟩ := exists_toDigits_eq_cons (n / 10)
        have htail := ih (n / 10) (by omega) (by omega)
        rw [hcons] at htail
        rw [Nat.toDigits_of_base_le (by decide) (Nat.not_lt.mp hlt), hcons]
        exact htail

theorem hexDigit?_digitChar {k : Nat} (hk : k < 16) : hexDigit? (Nat.digitChar k) = some k :=
  (by decide : ∀ k : Fin 16, hexDigit? (Nat.digitChar k) = some k.val) ⟨k, hk⟩

/-! ### Readers -/

@[simp] theorem natural?_toDigits (n : Nat) : natural? (Nat.toDigits 10 n) = some n := by
  obtain ⟨c, cs, hcons, hdigit⟩ := exists_toDigits_eq_cons n
  rw [← digits?_toDigits n, hcons]
  unfold natural?
  split
  · rename_i heq
    cases heq
    cases hdigit
  · rfl

/-- The numeral of an integer is read as the integer. -/
theorem integer?_toString (n : Int) : integer? (toString n).toList = some n := by
  cases n with
  | ofNat n =>
      obtain ⟨c, cs, hcons, hdigit⟩ := exists_toDigits_eq_cons n
      have hdigits : digits? (c :: cs) = some n := hcons ▸ digits?_toDigits n
      have htext : (toString (Int.ofNat n)).toList = c :: cs := (toList_toString_nat n).trans hcons
      rw [htext]
      unfold integer?
      split
      · rename_i heq
        cases heq
        cases hdigit
      · rename_i heq
        cases heq
        cases hdigit
      · rw [hdigits]
        rfl
  | negSucc n =>
      rw [toList_toString_negSucc]
      simp only [integer?, digits?_toDigits]
      rfl

theorem uint8?_toString (n : UInt8) : uint8? (toString n.toNat) = some n := by
  have hlt : n.toNat < UInt8.size := n.toNat_lt
  simp only [uint8?, toList_toString_nat, natural?_toDigits, Option.bind_some, below?, if_pos hlt,
    Option.map_some, UInt8.ofNat_toNat]

/-- A 32-bit number is read back from its decimal numeral. -/
theorem uint32?_toString (n : UInt32) : uint32? (toString n.toNat) = some n := by
  have hlt : n.toNat < UInt32.size := n.toNat_lt
  simp only [uint32?, toList_toString_nat, natural?_toDigits, Option.bind_some, below?, if_pos hlt,
    Option.map_some, UInt32.ofNat_toNat]

theorem int32?_toString (n : Int32) : int32? (toString n.toInt) = some n := by
  have hlo : Int32.minValue.toInt ≤ n.toInt := n.minValue_le_toInt
  have hhi : n.toInt ≤ Int32.maxValue.toInt := n.toInt_le
  simp only [int32?, integer?_toString, Option.bind_some, between?, hlo, hhi, and_self, if_true,
    Option.map_some, Int32.ofInt_toInt]

theorem int64?_toString (n : Int64) : int64? (toString n.toInt) = some n := by
  have hlo : Int64.minValue.toInt ≤ n.toInt := n.minValue_le_toInt
  have hhi : n.toInt ≤ Int64.maxValue.toInt := n.toInt_le
  simp only [int64?, integer?_toString, Option.bind_some, between?, hlo, hhi, and_self, if_true,
    Option.map_some, Int64.ofInt_toInt]

/-! ### Which texts are numerals -/

/-- A numeral of an unsigned number: digits that stand for it, zeros in front included,
with or without a plus sign. -/
def IsNumeral (s : String) (n : Nat) : Prop :=
  ∃ sign digits : String, s = sign ++ digits ∧ (sign = "" ∨ sign = "+") ∧ digits ≠ "" ∧
    (∀ c ∈ digits.toList, c.isDigit = true) ∧ digitsValue digits.toList = n

/-- A list of digits spells its decimal value; an empty one spells nothing. -/
theorem digits?_eq_some_iff {cs : List Char} {n : Nat} :
    digits? cs = some n ↔
      cs ≠ [] ∧ (∀ c ∈ cs, c.isDigit = true) ∧ digitsValue cs = n := by
  simp [digits?, and_assoc]

/-- The reader takes exactly the numerals, a leading plus included. -/
theorem natural?_eq_some_iff {s : String} {n : Nat} :
    natural? s.toList = some n ↔ IsNumeral s n := by
  unfold natural?
  split
  · rename_i cs hs
    rw [digits?_eq_some_iff]
    constructor
    · rintro ⟨hne, hdigits, hvalue⟩
      refine ⟨"+", String.ofList cs, ?_, .inr rfl, ?_, ?_, ?_⟩
      · simp [← String.toList_inj, hs]
      · simpa using hne
      · rwa [String.toList_ofList]
      · rwa [String.toList_ofList]
    · rintro ⟨sign, digits, rfl, rfl | rfl, hne, hdigits, hvalue⟩
      · -- A digit is no sign.
        rw [String.empty_append] at hs
        exact absurd (hdigits '+' (hs ▸ List.mem_cons_self)) (by decide)
      · rw [String.toList_append] at hs
        obtain rfl : digits.toList = cs := (List.cons.inj hs).2
        exact ⟨mt String.toList_eq_nil_iff.mp hne, hdigits, hvalue⟩
  · rename_i hplus
    rw [digits?_eq_some_iff]
    constructor
    · rintro ⟨hne, hdigits, hvalue⟩
      exact ⟨"", s, String.empty_append.symm, .inl rfl, mt String.toList_eq_nil_iff.mpr hne,
        hdigits, hvalue⟩
    · rintro ⟨sign, digits, rfl, rfl | rfl, hne, hdigits, hvalue⟩
      · rw [String.empty_append]
        exact ⟨mt String.toList_eq_nil_iff.mp hne, hdigits, hvalue⟩
      · exact absurd (String.toList_append ..) (hplus digits.toList)

/-- The numbers below a bound are read from their numerals and from nothing else. -/
theorem bind_below?_eq_some_iff {s : String} {bound n : Nat} :
    (natural? s.toList).bind (below? bound) = some n ↔ IsNumeral s n ∧ n < bound := by
  simp only [Option.bind_eq_some_iff, natural?_eq_some_iff, below?, Option.ite_none_right_eq_some,
    Option.some.injEq]
  constructor
  · rintro ⟨_, hnumeral, hlt, rfl⟩
    exact ⟨hnumeral, hlt⟩
  · rintro ⟨hnumeral, hlt⟩
    exact ⟨n, hnumeral, hlt, rfl⟩

theorem uint8?_eq_some_iff {s : String} {c : UInt8} :
    uint8? s = some c ↔ IsNumeral s c.toNat := by
  simp only [uint8?, Option.map_eq_some_iff, bind_below?_eq_some_iff]
  constructor
  · rintro ⟨n, ⟨hnumeral, hlt⟩, rfl⟩
    rwa [UInt8.toNat_ofNat_of_lt' hlt]
  · intro hnumeral
    exact ⟨c.toNat, ⟨hnumeral, c.toNat_lt⟩, UInt8.ofNat_toNat⟩

/-- A 32-bit number is a numeral whose value fits. -/
theorem uint32?_eq_some_iff {s : String} {value : UInt32} :
    uint32? s = some value ↔ IsNumeral s value.toNat := by
  simp only [uint32?, Option.map_eq_some_iff, bind_below?_eq_some_iff]
  constructor
  · rintro ⟨n, ⟨hnumeral, hlt⟩, rfl⟩
    rwa [UInt32.toNat_ofNat_of_lt' hlt]
  · intro hnumeral
    exact ⟨value.toNat, ⟨hnumeral, value.toNat_lt⟩, UInt32.ofNat_toNat⟩

/-! ### Numerals in a text -/

theorem isDigit_of_mem_toString_nat {n : Nat} {c : Char} (hc : c ∈ (toString n).toList) :
    c.isDigit = true :=
  isDigit_of_mem_toDigits (toList_toString_nat n ▸ hc)

theorem trim_toString_nat (n : Nat) : trim (toString n) = toString n :=
  trim_eq_self fun _ hc => isBlank_of_isDigit (isDigit_of_mem_toString_nat hc)

theorem trim_toString_int (n : Int) : trim (toString n) = toString n := by
  refine trim_eq_self fun c hc => ?_
  cases n with
  | ofNat n => exact isBlank_of_isDigit (isDigit_of_mem_toString_nat hc)
  | negSucc n =>
      rw [toList_toString_negSucc] at hc
      rcases List.mem_cons.mp hc with rfl | hc
      · decide
      · exact isBlank_of_isDigit (isDigit_of_mem_toDigits hc)

/-! ### Fields -/

theorem fieldChars_cons (sep c : Char) (cs : List Char) :
    fieldChars sep (c :: cs) =
      if c = sep then [] :: fieldChars sep cs else (fieldChars sep cs).modifyHead (c :: ·) := rfl

/-- The fields are the pieces the library's split gives. -/
theorem fieldChars_eq_splitOn (sep : Char) (cs : List Char) :
    fieldChars sep cs = cs.splitOn sep := by
  induction cs with
  | nil => rfl
  | cons c cs ih => simp [fieldChars_cons, List.splitOn_cons_eq_if_modifyHead, ih]

theorem exists_fieldChars_eq_cons (sep : Char) (cs : List Char) :
    ∃ first rest, fieldChars sep cs = first :: rest := by
  rw [fieldChars_eq_splitOn]
  exact List.exists_cons_of_ne_nil (List.splitOn_ne_nil sep cs)

/-- No separator is left in a field. -/
theorem notMem_of_mem_fieldChars {sep : Char} {cs field : List Char}
    (h : field ∈ fieldChars sep cs) : sep ∉ field := by
  induction cs generalizing field with
  | nil =>
      rw [List.mem_singleton.mp h]
      exact List.not_mem_nil
  | cons c cs ih =>
      rw [fieldChars_cons] at h
      split at h
      · rcases List.mem_cons.mp h with rfl | h
        · exact List.not_mem_nil
        · exact ih h
      · rename_i hc
        cases hcut : fieldChars sep cs with
        | nil => simp [hcut] at h
        | cons first rest =>
            rw [hcut] at h ih
            rcases List.mem_cons.mp h with rfl | h
            · rw [List.mem_cons, not_or]
              exact ⟨Ne.symm hc, ih List.mem_cons_self⟩
            · exact ih (List.mem_cons_of_mem _ h)

/-- Joining is intercalation on the characters. -/
theorem toList_joinWith (sep : Char) (parts : List String) :
    (joinWith (String.singleton sep) parts).toList =
      [sep].intercalate (parts.map String.toList) := by
  rw [joinWith, String.toList_join]
  induction parts with
  | nil => rfl
  | cons part parts ih =>
      cases parts with
      | nil => simp
      | cons next parts => simpa using ih

/-- Parts with a separator between them are the fields of the whole, if the separator
occurs in none of them. -/
theorem fields_joinWith {sep : Char} {parts : List String} (hne : parts ≠ [])
    (h : ∀ p ∈ parts, sep ∉ p.toList) :
    fields sep (joinWith (String.singleton sep) parts) = parts := by
  have hsplit : ([sep].intercalate (parts.map String.toList)).splitOn sep =
      parts.map String.toList :=
    List.splitOn_intercalate sep (List.forall_mem_map.mpr h) (mt List.map_eq_nil_iff.mp hne)
  rw [fields, toList_joinWith, fieldChars_eq_splitOn, hsplit, List.map_map]
  simp

/-- The pieces of a text between separators: they hold no separator, and with one between
neighbours they make up the text. -/
structure CutAt (sep : Char) (s : String) (pieces : List String) : Prop where
  ne_nil : pieces ≠ []
  notMem : ∀ p ∈ pieces, sep ∉ p.toList
  joined : joinWith (String.singleton sep) pieces = s

/-- The fields of a text are the one way to cut it. -/
theorem cutAt_iff {sep : Char} {s : String} {pieces : List String} :
    CutAt sep s pieces ↔ fields sep s = pieces := by
  constructor
  · rintro ⟨hne, hpieces, rfl⟩
    exact fields_joinWith hne hpieces
  · rintro rfl
    refine ⟨?_, ?_, ?_⟩
    · rw [fields, fieldChars_eq_splitOn]
      exact mt List.map_eq_nil_iff.mp (List.splitOn_ne_nil sep s.toList)
    · rintro _ hp
      obtain ⟨cs, hcs, rfl⟩ := List.mem_map.mp hp
      rw [String.toList_ofList]
      exact notMem_of_mem_fieldChars hcs
    · rw [← String.toList_inj, toList_joinWith, fields, List.map_map, fieldChars_eq_splitOn]
      simp [Function.comp_def, List.intercalate_splitOn]

end TileAtlas.Text
