/-
Which texts are display colors, and which color they are.

Without the white space around it and without one mark, a text is read two places at a
time. The grammar of a color (`Wang.Rgba.Spells`) asks for six or eight hexadecimal
digits. Reading takes all such texts, and more: a pair of places may also hold a plus sign
and one digit (`Wang.Rgba.SpellsSigned`). `Wang.Rgba.read?_eq_some_iff` says that these
are all.

Of the texts that are read as a color one is canonical: the mark and small digits, without
the opacity of an opaque color (`Wang.Rgba.IsCanonical`). That is what is written
(`Wang.Rgba.isCanonical_text`), and every canonical text is written for some color
(`Wang.Rgba.exists_text_eq`).
-/

import TileAtlas.Proofs.LayerText
import TileAtlas.Proofs.ValueTexts

namespace TileAtlas

namespace Text

/-! ### Hexadecimal digits -/

def smallDigits : List Char :=
  ['0', '1', '2', '3', '4', '5', '6', '7', '8', '9', 'a', 'b', 'c', 'd', 'e', 'f']

/-- The digits in capital letters, each at the place of its value. -/
def capitalDigits : List Char :=
  ['0', '1', '2', '3', '4', '5', '6', '7', '8', '9', 'A', 'B', 'C', 'D', 'E', 'F']

def IsHexDigit (c : Char) (value : Nat) : Prop :=
  smallDigits[value]? = some c ∨ capitalDigits[value]? = some c

theorem IsHexDigit.lt {c : Char} {value : Nat} (h : IsHexDigit c value) : value < 16 := by
  rcases h with h | h
  · exact (List.getElem?_eq_some_iff.mp h).1
  · exact (List.getElem?_eq_some_iff.mp h).1

/-- A run of `count` characters from `base` on stands among the digits from `shift` on. -/
theorem getElem?_of_run (digits : List Char) (base shift count : Nat)
    (hrun : ∀ k : Fin count, digits[k.val + shift]? = some (Char.ofNat (k.val + base))) {c : Char}
    (hle : base ≤ c.toNat) (hlt : c.toNat < base + count) :
    digits[c.toNat - base + shift]? = some c := by
  have h := hrun ⟨c.toNat - base, by omega⟩
  rwa [Nat.sub_add_cancel hle, Char.ofNat_toNat] at h

theorem bind_hexDigit? (value : Fin 16) :
    smallDigits[value.val]?.bind hexDigit? = some value.val ∧
      capitalDigits[value.val]?.bind hexDigit? = some value.val := by
  revert value
  decide

/-- The reader of digits knows the sixteen digits of either case with their values, and no
other character. -/
theorem hexDigit?_eq_some_iff {c : Char} {value : Nat} :
    hexDigit? c = some value ↔ IsHexDigit c value := by
  constructor
  · intro h
    unfold hexDigit? at h
    split at h
    · rename_i hdigit
      have hrange : 48 ≤ c.toNat ∧ c.toNat ≤ 57 := by
        simpa [Char.isDigit, UInt32.le_iff_toNat_le] using hdigit
      cases h
      exact .inl (getElem?_of_run smallDigits 48 0 10 (by decide) hrange.1 (by omega))
    · split at h
      · rename_i hsmall
        have hge : 97 ≤ c.toNat := UInt32.le_iff_toNat_le.mp hsmall.1
        have hle : c.toNat ≤ 102 := UInt32.le_iff_toNat_le.mp hsmall.2
        cases h
        exact .inl (getElem?_of_run smallDigits 97 10 6 (by decide) hge (by omega))
      · split at h
        · rename_i hcapital
          have hge : 65 ≤ c.toNat := UInt32.le_iff_toNat_le.mp hcapital.1
          have hle : c.toNat ≤ 70 := UInt32.le_iff_toNat_le.mp hcapital.2
          cases h
          exact .inr (getElem?_of_run capitalDigits 65 10 6 (by decide) hge (by omega))
        · cases h
  · intro h
    obtain ⟨hsmall, hcapital⟩ := bind_hexDigit? ⟨value, h.lt⟩
    rcases h with h | h
    · simpa [h] using hsmall
    · simpa [h] using hcapital

/-- A sign is no digit: this keeps signed pairs apart from digit pairs. -/
theorem not_isHexDigit_plus (value : Nat) : ¬ IsHexDigit '+' value := by
  intro h
  cases hexDigit?_eq_some_iff.mpr h

end Text

open Text

namespace Wang.Rgba

variable {s : String} {c : Rgba} {cs : List Char} {bytes : List UInt8}
  {first second : Char} {byte : UInt8} {pair pair' : Char → Char → UInt8 → Prop}

/-! ### Pairs of places -/

/-- A byte in two digits, the high one first. -/
def DigitPair (first second : Char) (byte : UInt8) : Prop :=
  ∃ high low, IsHexDigit first high ∧ IsHexDigit second low ∧ byte.toNat = 16 * high + low

/-- A byte in a plus sign and one digit. -/
def SignedPair (first second : Char) (byte : UInt8) : Prop :=
  first = '+' ∧ IsHexDigit second byte.toNat

theorem ofNat_eq_iff {n : Nat} (hn : n < 256) : UInt8.ofNat n = byte ↔ byte.toNat = n := by
  rw [← UInt8.toNat_inj, UInt8.toNat_ofNat_of_lt' hn, eq_comm]

/-- Two characters are read as a byte if they are two digits, or a sign and one digit. -/
theorem byte?_eq_some_iff :
    byte? first second = some byte ↔
      DigitPair first second byte ∨ SignedPair first second byte := by
  unfold byte?
  split
  · simp only [Option.map_eq_some_iff, hexDigit?_eq_some_iff]
    constructor
    · rintro ⟨value, hvalue, hbyte⟩
      have hlt := hvalue.lt
      rw [ofNat_eq_iff (by omega)] at hbyte
      exact .inr ⟨rfl, hbyte ▸ hvalue⟩
    · rintro (⟨high, -, hhigh, -⟩ | ⟨-, hvalue⟩)
      · exact absurd hhigh (not_isHexDigit_plus high)
      · exact ⟨byte.toNat, hvalue, UInt8.ofNat_toNat⟩
  · rename_i hplus
    simp only [Option.bind_eq_bind, Option.bind_eq_some_iff, Option.pure_def, Option.some.injEq,
      hexDigit?_eq_some_iff]
    constructor
    · rintro ⟨high, hhigh, low, hlow, hbyte⟩
      have hlt := hhigh.lt
      have hlt' := hlow.lt
      rw [ofNat_eq_iff (by omega)] at hbyte
      exact .inl ⟨high, low, hhigh, hlow, hbyte⟩
    · rintro (⟨high, low, hhigh, hlow, hbyte⟩ | ⟨hfirst, -⟩)
      · exact ⟨high, hhigh, low, hlow, by rw [← hbyte, UInt8.ofNat_toNat]⟩
      · exact absurd hfirst hplus

/-- The places two by two, each pair with the byte it holds. -/
inductive InPairs (pair : Char → Char → UInt8 → Prop) : List Char → List UInt8 → Prop where
  | nil : InPairs pair [] []
  | cons {first second : Char} {byte : UInt8} {cs : List Char} {bytes : List UInt8}
      (hpair : pair first second byte) (hrest : InPairs pair cs bytes) :
      InPairs pair (first :: second :: cs) (byte :: bytes)

theorem InPairs.imp
    (himp : ∀ first ∈ cs, ∀ second byte, pair first second byte → pair' first second byte)
    (h : InPairs pair cs bytes) : InPairs pair' cs bytes := by
  induction h with
  | nil => exact .nil
  | cons hpair _ ih =>
      refine .cons (himp _ List.mem_cons_self _ _ hpair) (ih fun first hfirst => ?_)
      exact himp first (List.mem_cons_of_mem _ (List.mem_cons_of_mem _ hfirst))

theorem InPairs.length_eq (h : InPairs pair cs bytes) : cs.length = 2 * bytes.length := by
  induction h with
  | nil => rfl
  | cons _ _ ih =>
      simp only [List.length_cons, ih]
      omega

theorem InPairs.isHexDigit (h : InPairs DigitPair cs bytes) :
    ∀ d ∈ cs, ∃ value, IsHexDigit d value := by
  induction h with
  | nil => simp
  | cons hpair _ ih =>
      obtain ⟨high, low, hhigh, hlow, -⟩ := hpair
      simp only [List.mem_cons, forall_eq_or_imp]
      exact ⟨⟨high, hhigh⟩, ⟨low, hlow⟩, ih⟩

/-- An even number of places holds bytes if any two of them do. -/
theorem exists_inPairs {n : Nat} (hlength : cs.length = 2 * n)
    (hpair : ∀ first ∈ cs, ∀ second ∈ cs, ∃ byte, pair first second byte) :
    ∃ bytes, bytes.length = n ∧ InPairs pair cs bytes := by
  induction n generalizing cs with
  | zero =>
      obtain rfl := List.eq_nil_of_length_eq_zero hlength
      exact ⟨[], rfl, .nil⟩
  | succ n ih =>
      match cs, hlength with
      | first :: second :: cs, hlength =>
          obtain ⟨byte, hbyte⟩ := hpair first (by simp) second (by simp)
          have hrest : ∀ d ∈ cs, d ∈ first :: second :: cs := fun d hd => by simp [hd]
          obtain ⟨bytes, hbytes, hpairs⟩ := ih (by simpa [Nat.mul_succ] using hlength)
            fun d hd d' hd' => hpair d (hrest d hd) d' (hrest d' hd')
          exact ⟨byte :: bytes, by simp [hbytes], .cons hbyte hpairs⟩

theorem exists_digitPair {high low : Nat} (hhigh : IsHexDigit first high)
    (hlow : IsHexDigit second low) : ∃ byte, DigitPair first second byte := by
  have hlt := hhigh.lt
  have hlt' := hlow.lt
  exact ⟨.ofNat (16 * high + low), high, low, hhigh, hlow, (ofNat_eq_iff (by omega)).mp rfl⟩

/-! ### Colors from bytes -/

/-- The color of its bytes: red, green and blue, with the opacity in front if there are
four. -/
def ofBytes? : List UInt8 → Option Rgba
  | [r, g, b] => some ⟨r, g, b, 255⟩
  | [a, r, g, b] => some ⟨r, g, b, a⟩
  | _ => none

/-- Three bytes make a color, and four do. -/
theorem exists_ofBytes?_iff :
    (∃ c, ofBytes? bytes = some c) ↔ bytes.length = 3 ∨ bytes.length = 4 := by
  unfold ofBytes?
  split
  · simp
  · simp
  · rename_i hthree hfour
    simp only [reduceCtorEq, exists_false, false_iff]
    rintro (hlength | hlength)
    · obtain ⟨r, g, b, rfl⟩ := List.length_eq_three.mp hlength
      exact hthree r g b rfl
    · match bytes, hlength with
      | [a, r, g, b], _ => exact hfour a r g b rfl

/-- A text is read pair by pair, and the bytes are then taken as channels. -/
theorem ofPlaces?_eq_some_iff :
    ofPlaces? cs = some c ↔
      ∃ bytes, InPairs (fun first second byte => byte? first second = some byte) cs bytes ∧
        ofBytes? bytes = some c := by
  constructor
  · intro h
    unfold ofPlaces? at h
    split at h
    · simp only [Option.bind_eq_bind, Option.bind_eq_some_iff, Option.pure_def,
        Option.some.injEq] at h
      obtain ⟨r, hr, g, hg, b, hb, rfl⟩ := h
      exact ⟨[r, g, b], .cons hr (.cons hg (.cons hb .nil)), rfl⟩
    · simp only [Option.bind_eq_bind, Option.bind_eq_some_iff, Option.pure_def,
        Option.some.injEq] at h
      obtain ⟨a, ha, r, hr, g, hg, b, hb, rfl⟩ := h
      exact ⟨[a, r, g, b], .cons ha (.cons hr (.cons hg (.cons hb .nil))), rfl⟩
    · cases h
  · rintro ⟨bytes, hpairs, hcolor⟩
    -- Three bytes or four: the pairs are those of the six or eight places.
    unfold ofBytes? at hcolor
    split at hcolor
    · rcases hpairs with _ | ⟨hr, _ | ⟨hg, _ | ⟨hb, _ | _⟩⟩⟩
      simp [ofPlaces?, hr, hg, hb, hcolor]
    · rcases hpairs with _ | ⟨ha, _ | ⟨hr, _ | ⟨hg, _ | ⟨hb, _ | _⟩⟩⟩⟩
      simp [ofPlaces?, ha, hr, hg, hb, hcolor]
    · cases hcolor

/-! ### The grammar of a color -/

/-- What is left of a text without the white space around it and without one mark. -/
def places (s : String) : List Char :=
  match trimChars s.toList with
  | '#' :: cs => cs
  | cs => cs

theorem read?_eq (s : String) : read? s = ofPlaces? (places s) := by
  unfold read? places
  cases trimChars s.toList with
  | nil => rfl
  | cons d cs => by_cases hmark : d = '#' <;> simp [hmark]

/-- The text spells the color in digits. -/
def Spells (s : String) (c : Rgba) : Prop :=
  ∃ bytes, InPairs DigitPair (places s) bytes ∧ ofBytes? bytes = some c

/-- The text spells the color with a plus sign in the place of some high digits. -/
def SpellsSigned (s : String) (c : Rgba) : Prop :=
  '+' ∈ places s ∧
    ∃ bytes, InPairs (fun first second byte =>
      DigitPair first second byte ∨ SignedPair first second byte) (places s) bytes ∧
      ofBytes? bytes = some c

/-- A color is spelled exactly by six digits or eight. -/
theorem exists_spells_iff :
    (∃ c, Spells s c) ↔ ((places s).length = 6 ∨ (places s).length = 8) ∧
      ∀ d ∈ places s, ∃ value, IsHexDigit d value := by
  constructor
  · rintro ⟨c, bytes, hpairs, hcolor⟩
    have hlength := hpairs.length_eq
    have hbytes := exists_ofBytes?_iff.mp ⟨c, hcolor⟩
    exact ⟨by omega, hpairs.isHexDigit⟩
  · rintro ⟨hlength, hdigits⟩
    have hpair : ∀ first ∈ places s, ∀ second ∈ places s, ∃ byte, DigitPair first second byte := by
      intro first hfirst second hsecond
      obtain ⟨high, hhigh⟩ := hdigits first hfirst
      obtain ⟨low, hlow⟩ := hdigits second hsecond
      exact exists_digitPair hhigh hlow
    obtain ⟨bytes, hbytes, hpairs⟩ :=
      exists_inPairs (n := (places s).length / 2) (by omega) hpair
    obtain ⟨c, hc⟩ := exists_ofBytes?_iff.mpr (show bytes.length = 3 ∨ bytes.length = 4 by omega)
    exact ⟨c, bytes, hpairs, hc⟩

/-- A text with a signed pair is no text of the documented form, of any color. -/
theorem SpellsSigned.not_spells (h : SpellsSigned s c) (c' : Rgba) : ¬ Spells s c' := by
  intro hspells
  obtain ⟨-, hdigits⟩ := exists_spells_iff.mp ⟨c', hspells⟩
  obtain ⟨value, hvalue⟩ := hdigits '+' h.1
  exact not_isHexDigit_plus value hvalue

/-- What is read is spelled in digits, some of which may be plus signs. -/
theorem read?_eq_some_iff : read? s = some c ↔ Spells s c ∨ SpellsSigned s c := by
  simp only [read?_eq, ofPlaces?_eq_some_iff, byte?_eq_some_iff]
  constructor
  · rintro ⟨bytes, hpairs, hcolor⟩
    -- Only a text with a plus sign in it can hold a signed pair.
    by_cases hplus : '+' ∈ places s
    · exact .inr ⟨hplus, bytes, hpairs, hcolor⟩
    · refine .inl ⟨bytes, hpairs.imp fun first hfirst second byte hpair => ?_, hcolor⟩
      exact hpair.resolve_right fun hsigned => hplus (hsigned.1 ▸ hfirst)
  · rintro (⟨bytes, hpairs, hcolor⟩ | ⟨-, hbytes⟩)
    · exact ⟨bytes, hpairs.imp fun _ _ _ _ => .inl, hcolor⟩
    · exact hbytes

/-- A read that succeeds is one that finds a color. -/
theorem read_eq_ok_iff : read s = .ok c ↔ read? s = some c := by
  unfold read
  cases read? s <;> simp

/-- The only error there is carries the text as it was given. -/
theorem read_eq_error_iff {e : ReadError} :
    read s = .error e ↔ e = ⟨s⟩ ∧ ¬ ∃ c, read? s = some c := by
  unfold read
  cases read? s <;> simp [eq_comm]

/-! ### Where reading looks -/

def byteStarts : Nat → List Nat
  | 6 => [0, 2, 4]
  | 8 => [0, 2, 4, 6]
  | _ => []

/-- The two places from a start on, if both lie in the text. -/
def slice? (cs : List Char) (start : Nat) : Option (Char × Char) :=
  match cs.drop start with
  | first :: second :: _ => some (first, second)
  | _ => none

def slices (cs : List Char) : List (Option (Char × Char)) :=
  (byteStarts cs.length).map (slice? cs)

/-- No slice reaches out of the text. -/
theorem isSome_of_mem_slices {slice : Option (Char × Char)} (h : slice ∈ slices cs) :
    slice.isSome = true := by
  obtain ⟨start, hstart, rfl⟩ := List.mem_map.mp h
  have hend : start + 2 ≤ cs.length := by
    unfold byteStarts at hstart
    split at hstart <;> simp at hstart <;> omega
  match hdrop : cs.drop start with
  | [] | [_] =>
      have hlength := congrArg List.length hdrop
      simp at hlength
      omega
  | _ :: _ :: _ => simp [slice?, hdrop]

/-- Reading takes the bytes of the slices and makes a color of them. -/
theorem ofPlaces?_eq_slices (cs : List Char) :
    ofPlaces? cs = ((slices cs).mapM fun slice : Option (Char × Char) =>
      slice.bind fun p => byte? p.1 p.2).bind ofBytes? := by
  unfold ofPlaces?
  split
  · simp [slices, byteStarts, slice?, ofBytes?, Option.bind_assoc]
  · simp [slices, byteStarts, slice?, ofBytes?, Option.bind_assoc]
  · -- Any other number of places has no slices, and no bytes make no color.
    rename_i hnotSix hnotEight
    have hstarts : byteStarts cs.length = [] := by
      unfold byteStarts
      split
      · rename_i hlength
        match cs, hlength with
        | [r₁, r₂, g₁, g₂, b₁, b₂], _ => exact absurd rfl (hnotSix r₁ r₂ g₁ g₂ b₁ b₂)
      · rename_i hlength
        match cs, hlength with
        | [a₁, a₂, r₁, r₂, g₁, g₂, b₁, b₂], _ =>
            exact absurd rfl (hnotEight a₁ a₂ r₁ r₂ g₁ g₂ b₁ b₂)
      · rfl
    simp [slices, hstarts, ofBytes?]

/-- **Which texts are colors.** Reading succeeds exactly on the texts that spell a color,
in digits or with a plus sign in the place of some high digit, and gives that color; on all
others it fails and shows the text as it was given. The texts in digits are those of six or
eight digits, and reading is held to them exactly where no color is spelled with a plus
sign. The places it looks at all lie inside the text. -/
theorem color_text_grammar (s : String) :
    (∀ c, read s = .ok c ↔ Spells s c ∨ SpellsSigned s c) ∧
    (∀ e, read s = .error e ↔ e = ⟨s⟩ ∧ ¬ ∃ c, Spells s c ∨ SpellsSigned s c) ∧
    ((∃ c, Spells s c) ↔ ((places s).length = 6 ∨ (places s).length = 8) ∧
      ∀ d ∈ places s, ∃ value, IsHexDigit d value) ∧
    ((∀ c, read s = .ok c ↔ Spells s c) ↔ ¬ ∃ c, SpellsSigned s c) ∧
    (read? s = ((slices (places s)).mapM fun slice : Option (Char × Char) =>
        slice.bind fun p => byte? p.1 p.2).bind ofBytes? ∧
      ∀ slice ∈ slices (places s), slice.isSome = true) := by
  have hok (c : Rgba) : read s = .ok c ↔ Spells s c ∨ SpellsSigned s c := by
    rw [read_eq_ok_iff, read?_eq_some_iff]
  refine ⟨hok, fun e => ?_, exists_spells_iff, ⟨?_, ?_⟩, ?_, fun slice => isSome_of_mem_slices⟩
  · simp only [read_eq_error_iff, read?_eq_some_iff]
  · rintro hdigits ⟨c, hsigned⟩
    exact hsigned.not_spells c ((hdigits c).mp ((hok c).mpr (.inr hsigned)))
  · intro hnone c
    rw [hok c, or_iff_left fun hsigned => hnone ⟨c, hsigned⟩]
  · rw [read?_eq, ofPlaces?_eq_slices]

/-- Eight digits of either case, with white space around them. -/
theorem mixed_case_grammar :
    Spells " #80C0ffEE" ⟨192, 255, 238, 128⟩ ∧
      read " #80C0ffEE" = .ok ⟨192, 255, 238, 128⟩ := by
  have hplaces : places " #80C0ffEE" = ['8', '0', 'C', '0', 'f', 'f', 'E', 'E'] := rfl
  have hspells : Spells " #80C0ffEE" ⟨192, 255, 238, 128⟩ := by
    refine ⟨[128, 192, 255, 238], ?_, rfl⟩
    rw [hplaces]
    exact .cons ⟨8, 0, .inl rfl, .inl rfl, rfl⟩ (.cons ⟨12, 0, .inr rfl, .inl rfl, rfl⟩
      (.cons ⟨15, 15, .inl rfl, .inl rfl, rfl⟩ (.cons ⟨14, 14, .inr rfl, .inr rfl, rfl⟩ .nil)))
  exact ⟨hspells, ((color_text_grammar _).1 _).mpr (.inl hspells)⟩

/-- Three pairs of a plus sign and a digit are read as a color, though a plus sign is no
digit. -/
theorem plus_signs_read_as_color :
    read "#+f+f+f" = .ok ⟨15, 15, 15, 255⟩ ∧ '+' ∈ places "#+f+f+f" ∧
      ¬ ∃ c, Spells "#+f+f+f" c := by
  have hplus : '+' ∈ places "#+f+f+f" := by decide
  refine ⟨rfl, hplus, fun hspells => ?_⟩
  obtain ⟨value, hvalue⟩ := (exists_spells_iff.mp hspells).2 '+' hplus
  exact not_isHexDigit_plus value hvalue

/-! ### Canonical texts -/

/-- The mark and six small digits, or eight of which the first two are not `ff`. -/
def IsCanonical (s : String) : Prop :=
  ∃ digits, s.toList = '#' :: digits ∧ (∀ d ∈ digits, d ∈ smallDigits) ∧
    (digits.length = 6 ∨ digits.length = 8 ∧ digits.take 2 ≠ ['f', 'f'])

theorem smallDigits_getElem? {k : Nat} (hk : k < 16) : smallDigits[k]? = some (Nat.digitChar k) :=
  (by decide : ∀ k : Fin 16, smallDigits[k.val]? = some (Nat.digitChar k)) ⟨k, hk⟩

theorem digitChar_mem_smallDigits {k : Nat} (hk : k < 16) : Nat.digitChar k ∈ smallDigits :=
  List.mem_of_getElem? (smallDigits_getElem? hk)

theorem exists_digitChar_of_mem {d : Char} (h : d ∈ smallDigits) :
    ∃ k, k < 16 ∧ Nat.digitChar k = d := by
  obtain ⟨k, hd⟩ := List.mem_iff_getElem?.mp h
  have hk : k < 16 := (List.getElem?_eq_some_iff.mp hd).1
  rw [smallDigits_getElem? hk] at hd
  exact ⟨k, hk, Option.some.inj hd⟩

/-- Two small digits are written for some byte. -/
theorem exists_hexByte_eq {first second : Char} (hfirst : first ∈ smallDigits)
    (hsecond : second ∈ smallDigits) : ∃ b, (hexByte b).toList = [first, second] := by
  obtain ⟨high, hhigh, rfl⟩ := exists_digitChar_of_mem hfirst
  obtain ⟨low, hlow, rfl⟩ := exists_digitChar_of_mem hsecond
  refine ⟨UInt8.ofNat (16 * high + low), ?_⟩
  rw [toList_hexByte, UInt8.toNat_ofNat_of_lt' (show 16 * high + low < 256 by omega)]
  rw [show (16 * high + low) / 16 = high by omega, show (16 * high + low) % 16 = low by omega]

theorem length_byteDigits (bytes : List UInt8) :
    (byteDigits bytes).length = 2 * bytes.length := by
  induction bytes with
  | nil => rfl
  | cons b bytes ih =>
      simp only [byteDigits, List.flatMap_cons, List.length_append, toList_hexByte] at ih ⊢
      simp only [List.length_cons, List.length_nil, ih]
      omega

theorem mem_smallDigits_of_mem_byteDigits {d : Char} (h : d ∈ byteDigits bytes) :
    d ∈ smallDigits := by
  obtain ⟨b, -, hd⟩ := List.mem_flatMap.mp h
  have hb := b.toNat_lt
  rw [toList_hexByte, List.mem_pair] at hd
  rcases hd with rfl | rfl
  · exact digitChar_mem_smallDigits (by omega)
  · exact digitChar_mem_smallDigits (by omega)

/-- Printing gives the pairs back that were read. -/
theorem InPairs.byteDigits_eq
    (h : InPairs (fun first second byte => (hexByte byte).toList = [first, second]) cs bytes) :
    byteDigits bytes = cs := by
  induction h with
  | nil => rfl
  | cons hbyte _ ih =>
      simp only [byteDigits, List.flatMap_cons, hbyte] at ih ⊢
      rw [ih]
      rfl

/-- Small digits in an even number are written for some bytes. -/
theorem exists_byteDigits_eq {digits : List Char} {n : Nat} (hlength : digits.length = 2 * n)
    (hsmall : ∀ d ∈ digits, d ∈ smallDigits) :
    ∃ bytes, bytes.length = n ∧ byteDigits bytes = digits := by
  obtain ⟨bytes, hbytes, hpairs⟩ := exists_inPairs hlength fun first hfirst second hsecond =>
    exists_hexByte_eq (hsmall first hfirst) (hsmall second hsecond)
  exact ⟨bytes, hbytes, hpairs.byteDigits_eq⟩

/-- The alpha channel is left out for 255, which is the only byte written `ff`. -/
theorem toList_hexByte_eq_ff_iff {b : UInt8} : (hexByte b).toList = ['f', 'f'] ↔ b = 255 := by
  constructor
  · intro h
    have hread := byte?_digitChar b
    rw [toList_hexByte, List.cons.injEq, List.cons.injEq] at h
    rw [h.1, h.2.1] at hread
    exact (Option.some.inj hread).symm
  · rintro rfl
    rfl

/-- What is written is canonical. -/
theorem isCanonical_text (c : Rgba) : IsCanonical c.text := by
  refine ⟨byteDigits c.writtenBytes, c.toList_text,
    fun d hd => mem_smallDigits_of_mem_byteDigits hd, ?_⟩
  rw [length_byteDigits, writtenBytes]
  split
  · exact .inl rfl
  · rename_i ha
    refine .inr ⟨rfl, fun hff => ha (toList_hexByte_eq_ff_iff.mp ?_)⟩
    simpa [byteDigits, toList_hexByte] using hff

/-- Every canonical text is written for some color. -/
theorem exists_text_eq (h : IsCanonical s) : ∃ c : Rgba, c.text = s := by
  obtain ⟨digits, hs, hsmall, hlength⟩ := h
  suffices hbytes : ∃ c : Rgba, byteDigits c.writtenBytes = digits by
    obtain ⟨c, hc⟩ := hbytes
    exact ⟨c, String.toList_inj.mp (by rw [toList_text, hc, hs])⟩
  rcases hlength with hlength | ⟨hlength, hff⟩
  · obtain ⟨bytes, hbytes, rfl⟩ := exists_byteDigits_eq (n := 3) hlength hsmall
    obtain ⟨r, g, b, rfl⟩ := List.length_eq_three.mp hbytes
    exact ⟨⟨r, g, b, 255⟩, rfl⟩
  · obtain ⟨bytes, hbytes, rfl⟩ := exists_byteDigits_eq (n := 4) hlength hsmall
    match bytes, hbytes with
    | [a, r, g, b], _ =>
        have ha : a ≠ 255 := by
          rintro rfl
          exact hff rfl
        exact ⟨⟨r, g, b, a⟩, by rw [writtenBytes, if_neg ha]⟩

/-- White space around a text does not change what is read. -/
theorem read?_surrounded {before after : String} (hbefore : ∀ d ∈ before.toList, isBlank d = true)
    (hafter : ∀ d ∈ after.toList, isBlank d = true) :
    read? (before ++ s ++ after) = read? s := by
  unfold read?
  rw [String.toList_append, String.toList_append, trimChars_append_blank _ hafter,
    trimChars_blank_append hbefore]

/-- **Colors and canonical texts.** A color is read back from the text that is written for
it, which is canonical; and every canonical text, with any white space around it, is read
as a color for which exactly that text is written. -/
theorem text_read_inverse :
    (∀ c : Rgba, IsCanonical c.text ∧ read c.text = .ok c) ∧
      ∀ s, IsCanonical s → ∃ c : Rgba, read s = .ok c ∧ c.text = s ∧
        ∀ before after : String, (∀ d ∈ before.toList, isBlank d = true) →
          (∀ d ∈ after.toList, isBlank d = true) → read (before ++ s ++ after) = .ok c := by
  refine ⟨fun c => ⟨c.isCanonical_text, read_eq_ok_iff.mpr c.read?_text⟩, fun s hs => ?_⟩
  obtain ⟨c, rfl⟩ := exists_text_eq hs
  refine ⟨c, read_eq_ok_iff.mpr c.read?_text, rfl, fun before after hbefore hafter => ?_⟩
  rw [read_eq_ok_iff, read?_surrounded hbefore hafter, c.read?_text]

/-- A canonical text with an opacity, on a line of its own. -/
theorem haze_read_back :
    IsCanonical "#80c0ffee" ∧ ∃ c : Rgba, c.text = "#80c0ffee" ∧
      read ("\t " ++ "#80c0ffee" ++ "\n") = .ok c := by
  have hcanonical : IsCanonical "#80c0ffee" :=
    ⟨['8', '0', 'c', '0', 'f', 'f', 'e', 'e'], rfl, by simp [smallDigits],
      .inr (by decide)⟩
  obtain ⟨c, -, htext, hread⟩ := text_read_inverse.2 _ hcanonical
  exact ⟨hcanonical, c, htext, hread _ _ (List.all_eq_true.mp (by decide))
    (List.all_eq_true.mp (by decide))⟩

end Wang.Rgba

end TileAtlas
