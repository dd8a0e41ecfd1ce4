/-
The texts of attribute values and what is read from them.

Every kind of value has one written form: tile references with `-1` for no tile, display
colors, Wang ids, and properties with their type names. Each reader takes that form back
(`Document.tileRef?_tileRefText`, `Wang.Rgba.read?_text`, `Wang.Id.read_text`,
`Property.read?_raw`). Floating-point numbers are the exception: which of them come back
from their texts is left to the rounding (`Property.ReadsBack`).
-/

import TileAtlas.Document.TilesetReader
import TileAtlas.Proofs.FloatText

namespace TileAtlas

open Text

/-! ### Bytes in hexadecimal -/

theorem Text.isBlank_digitChar {k : Nat} (hk : k < 16) : isBlank (Nat.digitChar k) = false :=
  (by decide : ∀ k : Fin 16, isBlank (Nat.digitChar k) = false) ⟨k, hk⟩

theorem Text.digitChar_ne_plus {k : Nat} (hk : k < 16) : Nat.digitChar k ≠ '+' :=
  (by decide : ∀ k : Fin 16, Nat.digitChar k ≠ '+') ⟨k, hk⟩

theorem Text.toList_hexByte (b : UInt8) :
    (hexByte b).toList = [Nat.digitChar (b.toNat / 16), Nat.digitChar (b.toNat % 16)] :=
  String.toList_ofList

theorem Text.isBlank_of_mem_hexByte {b : UInt8} {c : Char} (hc : c ∈ (hexByte b).toList) :
    isBlank c = false := by
  have hb := b.toNat_lt
  rw [toList_hexByte] at hc
  rcases List.mem_cons.mp hc with rfl | hc
  · exact isBlank_digitChar (by omega)
  · rw [List.mem_singleton.mp hc]
    exact isBlank_digitChar (by omega)

namespace Wang

/-! ### Display colors -/

/-- A byte is read back from its two digits. -/
theorem Rgba.byte?_digitChar (b : UInt8) :
    byte? (Nat.digitChar (b.toNat / 16)) (Nat.digitChar (b.toNat % 16)) = some b := by
  have hb := b.toNat_lt
  have hhigh : b.toNat / 16 < 16 := by omega
  have hlow : b.toNat % 16 < 16 := by omega
  unfold byte?
  split
  · rename_i hplus
    exact absurd hplus (digitChar_ne_plus hhigh)
  · simp only [hexDigit?_digitChar hhigh, hexDigit?_digitChar hlow, Option.bind_eq_bind,
      Option.bind_some, Nat.div_add_mod, UInt8.ofNat_toNat]
    rfl

def Rgba.writtenBytes (c : Rgba) : List UInt8 :=
  if c.a = 255 then [c.r, c.g, c.b] else [c.a, c.r, c.g, c.b]

def Rgba.byteDigits (bytes : List UInt8) : List Char :=
  bytes.flatMap fun b => (hexByte b).toList

/-- A color is written as a hash sign and the digits of its bytes. -/
theorem Rgba.toList_text (c : Rgba) : c.text.toList = '#' :: byteDigits c.writtenBytes := by
  unfold text writtenBytes
  split <;> simp [byteDigits]

theorem Rgba.trimChars_text (c : Rgba) : trimChars c.text.toList = c.text.toList := by
  refine trimChars_eq_self fun d hd => ?_
  rw [toList_text, List.mem_cons] at hd
  rcases hd with rfl | hd
  · rfl
  · obtain ⟨b, -, hd⟩ := List.mem_flatMap.mp hd
    exact isBlank_of_mem_hexByte hd

/-- A color's text has no blanks around it. -/
theorem Rgba.trim_text (c : Rgba) : trim c.text = c.text := by
  rw [trim, c.trimChars_text, String.ofList_toList]

/-- A color is read back from the digits of its bytes. -/
theorem Rgba.ofPlaces?_byteDigits (c : Rgba) :
    ofPlaces? (byteDigits c.writtenBytes) = some c := by
  obtain ⟨r, g, b, a⟩ := c
  by_cases ha : a = 255
  · simp [writtenBytes, ha, byteDigits, toList_hexByte, ofPlaces?, byte?_digitChar]
  · simp [writtenBytes, ha, byteDigits, toList_hexByte, ofPlaces?, byte?_digitChar]

/-- A color comes back from its text, opaque or not. -/
theorem Rgba.read?_text (c : Rgba) : read? c.text = some c := by
  unfold read?
  rw [c.trimChars_text, c.toList_text]
  exact c.ofPlaces?_byteDigits

/-! ### Wang ids -/

/-- A Wang ID is its eight colors. -/
theorem Id.exists_eq_ofColors (w : Id) :
    ∃ c₀ c₁ c₂ c₃ c₄ c₅ c₆ c₇, w = ofColors c₀ c₁ c₂ c₃ c₄ c₅ c₆ c₇ := by
  obtain ⟨slots⟩ := w
  refine ⟨slots[0], slots[1], slots[2], slots[3], slots[4], slots[5], slots[6], slots[7], ?_⟩
  rw [ofColors, Id.mk.injEq]
  ext i hi
  match i, hi with
  | 0, _ | 1, _ | 2, _ | 3, _ | 4, _ | 5, _ | 6, _ | 7, _ => rfl

theorem Id.readColor_toString (c : UInt8) : readColor (toString c.toNat) = .ok c := by
  rw [readColor, uint8?_toString]

/-- A Wang id comes back from its text. -/
theorem Id.read_text (w : Id) : read w.text = .ok w := by
  obtain ⟨c₀, c₁, c₂, c₃, c₄, c₅, c₆, c₇, rfl⟩ := w.exists_eq_ofColors
  have hfields : fields ',' (ofColors c₀ c₁ c₂ c₃ c₄ c₅ c₆ c₇).text =
      [c₀, c₁, c₂, c₃, c₄, c₅, c₆, c₇].map fun c => toString c.toNat := by
    refine fields_joinWith (List.cons_ne_nil _ _) fun p hp hcomma => ?_
    obtain ⟨c, -, rfl⟩ := List.mem_map.mp hp
    exact absurd (isDigit_of_mem_toString_nat hcomma) (by decide)
  unfold read
  simp only [hfields, List.map_cons, List.map_nil, trim_toString_nat, readColor_toString]
  rfl

end Wang

/-! ### Tile references -/

def Document.tileRefText : Option UInt32 → String
  | none => "-1"
  | some n => toString n.toNat

theorem Document.trim_tileRefText (r : Option UInt32) : trim (tileRefText r) = tileRefText r := by
  cases r with
  | none => decide
  | some n => exact trim_toString_nat n.toNat

/-- A reference comes back from its text. -/
theorem Document.tileRef?_tileRefText (r : Option UInt32) : tileRef? (tileRefText r) = some r := by
  cases r with
  | none => decide
  | some n =>
      have hn := n.toNat_lt
      have hint : (Int64.ofInt n.toNat).toInt = n.toNat :=
        Int64.toInt_ofInt_of_le (by omega) (by omega)
      have hread : int64? (toString n.toNat) = some (Int64.ofInt n.toNat) := by
        have := int64?_toString (Int64.ofInt n.toNat)
        rwa [hint] at this
      have hnonneg : ¬ ((n.toNat : Int) < 0) := by omega
      have hbound : (n.toNat : Int) < UInt32.size := by exact_mod_cast hn
      simp only [tileRefText, tileRef?, hread, Option.bind_some, hint, hnonneg, if_false, hbound,
        if_true, Int.toNat_natCast, UInt32.ofNat_toNat]

/-! ### Properties -/

/-- The number comes back from its text with every digit in place. -/
def Number.Binary.ReadsBack {f : Number.Format} (x : Number.Binary f) : Prop :=
  Number.Binary.read? f x.plain = some x

instance {f : Number.Format} (x : Number.Binary f) : Decidable x.ReadsBack :=
  inferInstanceAs (Decidable (_ = _))

/-- A floating-point property comes back from its text; nothing is asked of the others. -/
def Property.ReadsBack : Property → Prop
  | .float x => x.ReadsBack
  | _ => True

instance : (p : Property) → Decidable p.ReadsBack
  | .float x => inferInstanceAs (Decidable x.ReadsBack)
  | .bool _ | .int _ | .string _ => isTrue trivial

/-- All properties of a list come back from their texts. -/
def Properties.ReadBack (ps : Properties) : Prop :=
  ∀ entry ∈ ps.entries, entry.2.ReadsBack

instance (ps : Properties) : Decidable ps.ReadBack :=
  inferInstanceAs (Decidable (∀ entry ∈ ps.entries, entry.2.ReadsBack))

/-- A property comes back from its text under its type name. -/
theorem Property.read?_raw {p : Property} (hfloat : p.ReadsBack) :
    read? p.typeName p.raw = some p := by
  cases p with
  | bool b => cases b <;> rfl
  | int n => simp only [typeName, raw, read?, trim_toString_int, int64?_toString, Option.map_some]
  | float x =>
      have hread : Number.Binary.read? Number.binary64 x.plain = some x := hfloat
      simp only [typeName, raw, read?, Number.trim_plain, hread, Option.map_some]
  | string s => rfl

end TileAtlas
