/-
Which texts are Wang ids, which id they are, and why the others are none.

A text is cut at its commas into pieces (`Text.CutAt`). A piece holds a color if it is,
apart from the white space around it, a numeral of the color (`Wang.Id.HoldsColor`).
Reading takes eight pieces one after another (`Wang.Id.map_toList_read`), so a text of
eight pieces is an id exactly if each of them holds a color, and is otherwise refused for
the first that holds none. Any other number of pieces is refused for the number.
-/

import TileAtlas.Proofs.Fallible
import TileAtlas.Proofs.LayerText
import TileAtlas.Proofs.ValueTexts

namespace TileAtlas

open Fallible Text

namespace Wang.Id

variable {s piece : String} {pieces : List String} {c : UInt8} {e : ReadError} {w : Id}

/-! ### One piece -/

/-- The piece is a numeral of the color, with any white space around it. -/
def HoldsColor (piece : String) (c : UInt8) : Prop :=
  ∃ core, IsTrimmed piece core ∧ IsNumeral core c.toNat

/-- A field is read as the color it holds between its blanks. -/
theorem readColor_trim_eq_ok_iff : readColor (trim piece) = .ok c ↔ HoldsColor piece c := by
  have hread : readColor (trim piece) = .ok c ↔ uint8? (trim piece) = some c := by
    unfold readColor
    cases uint8? (trim piece) with
    | none => simp
    | some d => simp
  rw [hread, uint8?_eq_some_iff]
  constructor
  · intro hnumeral
    exact ⟨trim piece, trim_eq_iff.mp rfl, hnumeral⟩
  · rintro ⟨core, htrimmed, hnumeral⟩
    rwa [trim_eq_iff.mpr htrimmed]

/-- A field that holds no color is reported as it is, without its blanks. -/
theorem readColor_trim_eq_error_iff :
    readColor (trim piece) = .error e ↔
      (¬ ∃ c, HoldsColor piece c) ∧ ∃ field, IsTrimmed piece field ∧ e = .invalidIndex field := by
  simp only [← readColor_trim_eq_ok_iff, ← trim_eq_iff]
  unfold readColor
  cases uint8? (trim piece) with
  | none => simp [eq_comm]
  | some d => simp

/-! ### The whole text -/

/-- With eight fields, reading an id is reading a color from each of them in turn. -/
theorem map_toList_read (h : (fields ',' s).length = 8) :
    (read s).map toList = (fields ',' s).mapM fun piece => readColor (trim piece) := by
  have hmap : (read s).map toList = toList <$> read s := rfl
  rw [hmap, read]
  -- Both sides take the eight pieces from left to right, and stop at the same one.
  match fields ',' s, h with
  | [_, _, _, _, _, _, _, _], _ =>
      simp only [List.map_cons, List.map_nil, List.mapM_cons, List.mapM_nil, map_bind, map_pure,
        bind_assoc, pure_bind]
      rfl

/-- The number of fields is checked before any of them is read. -/
theorem read_of_length_ne (h : (fields ',' s).length ≠ 8) :
    read s = .error (.wrongLength (fields ',' s).length) := by
  unfold read
  split
  · rename_i hfields
    have hlength := congrArg List.length hfields
    rw [List.length_map] at hlength
    exact absurd hlength h
  · rw [List.length_map]

theorem toList_inj {w' : Id} : w.toList = w'.toList ↔ w = w' := by
  constructor
  · intro h
    cases w
    cases w'
    exact congrArg Id.mk (Vector.toList_inj.mp h)
  · rintro rfl
    rfl

theorem length_toList (w : Id) : w.toList.length = 8 :=
  w.slots.length_toList

/-- An ID is read if each of its fields holds a color. -/
theorem read_eq_ok_iff (hcut : CutAt ',' s pieces) :
    read s = .ok w ↔ List.Forall₂ HoldsColor pieces w.toList := by
  rw [cutAt_iff] at hcut
  have hread : read s = .ok w ↔ (read s).map toList = .ok w.toList := by
    simp only [map_eq_ok_iff, toList_inj, exists_eq_right]
  by_cases hlength : (fields ',' s).length = 8
  · simp only [hread, map_toList_read hlength, mapM_eq_ok_iff, readColor_trim_eq_ok_iff, hcut]
  · rw [read_of_length_ne hlength]
    constructor
    · intro h
      cases h
    · intro hholds
      exact absurd (hcut ▸ hholds.length_eq.trans w.length_toList) hlength

/-- The first piece that holds no color, without the white space around it. -/
def FirstBad (pieces : List String) (field : String) : Prop :=
  ∃ before bad after, pieces = before ++ bad :: after ∧
    (∀ piece ∈ before, ∃ c, HoldsColor piece c) ∧ (¬ ∃ c, HoldsColor bad c) ∧ IsTrimmed bad field

/-- The number of fields is reported first, then the first field that holds no color. -/
theorem read_eq_error_iff (hcut : CutAt ',' s pieces) :
    read s = .error e ↔
      pieces.length ≠ 8 ∧ e = .wrongLength pieces.length ∨
        pieces.length = 8 ∧ ∃ field, FirstBad pieces field ∧ e = .invalidIndex field := by
  rw [cutAt_iff] at hcut
  by_cases hlength : (fields ',' s).length = 8
  · rw [← map_eq_error_iff (f := toList), map_toList_read hlength, mapM_eq_error_iff, ← hcut]
    simp only [readColor_trim_eq_ok_iff, readColor_trim_eq_error_iff, hlength, ne_eq,
      not_true_eq_false, false_and, false_or, true_and, FirstBad]
    constructor
    · rintro ⟨before, bad, after, hpieces, hbefore, hbad, field, hfield, he⟩
      exact ⟨field, ⟨before, bad, after, hpieces, hbefore, hbad, hfield⟩, he⟩
    · rintro ⟨field, ⟨before, bad, after, hpieces, hbefore, hbad, hfield⟩, he⟩
      exact ⟨before, bad, after, hpieces, hbefore, hbad, field, hfield, he⟩
  · rw [read_of_length_ne hlength, ← hcut]
    simp [hlength, eq_comm]

/-- **Which texts are Wang ids.** Every text is cut at its commas in one way. It is read as
an id exactly if there are eight pieces and each of them holds the color of its slot. If
there are not eight pieces, the error gives their number, whatever they hold; else it gives
the first piece that holds no color, trimmed. And an id comes back from the text that is
written for it. -/
theorem id_text_grammar :
    (∀ s, ∃! pieces, CutAt ',' s pieces) ∧
    (∀ s pieces, CutAt ',' s pieces →
      (∀ w, read s = .ok w ↔ pieces.length = 8 ∧ List.Forall₂ HoldsColor pieces w.toList) ∧
      ∀ e, read s = .error e ↔
        pieces.length ≠ 8 ∧ e = .wrongLength pieces.length ∨
          pieces.length = 8 ∧ ∃ field, FirstBad pieces field ∧ e = .invalidIndex field) ∧
    ∀ w : Id, read w.text = .ok w := by
  refine ⟨fun s => ?_, fun s pieces hcut => ⟨fun w => ?_, fun e => read_eq_error_iff hcut⟩,
    read_text⟩
  · simp only [cutAt_iff, existsUnique_eq']
  · rw [read_eq_ok_iff hcut]
    constructor
    · intro hholds
      exact ⟨hholds.length_eq.trans w.length_toList, hholds⟩
    · rintro ⟨-, hholds⟩
      exact hholds

/-- Signs, zeros in front and white space, up to the highest color; one more, and the
fifth piece is refused though the sixth is no numeral at all. -/
theorem spaced_numerals_grammar :
    CutAt ',' " 1,+2,03\t,0,00255,0,+0 ,\n7"
        [" 1", "+2", "03\t", "0", "00255", "0", "+0 ", "\n7"] ∧
      read " 1,+2,03\t,0,00255,0,+0 ,\n7" = .ok (ofColors 1 2 3 0 255 0 0 7) ∧
      CutAt ',' "1,2,3,0, 256,x,0,7" ["1", "2", "3", "0", " 256", "x", "0", "7"] ∧
      read "1,2,3,0, 256,x,0,7" = .error (.invalidIndex "256") := by
  have hread (piece : String) (c : UInt8) (h : readColor (trim piece) = .ok c) :
      HoldsColor piece c := readColor_trim_eq_ok_iff.mp h
  have hcut : CutAt ',' " 1,+2,03\t,0,00255,0,+0 ,\n7"
      [" 1", "+2", "03\t", "0", "00255", "0", "+0 ", "\n7"] := cutAt_iff.mpr (by decide)
  have hcut' : CutAt ',' "1,2,3,0, 256,x,0,7" ["1", "2", "3", "0", " 256", "x", "0", "7"] :=
    cutAt_iff.mpr (by decide)
  have hholds : List.Forall₂ HoldsColor [" 1", "+2", "03\t", "0", "00255", "0", "+0 ", "\n7"]
      [1, 2, 3, 0, 255, 0, 0, 7] :=
    .cons (hread " 1" 1 rfl) (.cons (hread "+2" 2 rfl) (.cons (hread "03\t" 3 rfl)
      (.cons (hread "0" 0 rfl) (.cons (hread "00255" 255 rfl) (.cons (hread "0" 0 rfl)
        (.cons (hread "+0 " 0 rfl) (.cons (hread "\n7" 7 rfl) .nil)))))))
  have hbefore : ∀ piece ∈ ["1", "2", "3", "0"], ∃ c, HoldsColor piece c := by
    simp only [List.forall_mem_cons, List.not_mem_nil, false_implies, implies_true, and_true]
    exact ⟨⟨1, hread "1" 1 rfl⟩, ⟨2, hread "2" 2 rfl⟩, ⟨3, hread "3" 3 rfl⟩, ⟨0, hread "0" 0 rfl⟩⟩
  have hrefused : readColor (trim " 256") = .error (.invalidIndex "256") := rfl
  have hbad : FirstBad ["1", "2", "3", "0", " 256", "x", "0", "7"] "256" :=
    ⟨["1", "2", "3", "0"], " 256", ["x", "0", "7"], rfl, hbefore,
      (readColor_trim_eq_error_iff.mp hrefused).1, trim_eq_iff.mp rfl⟩
  obtain ⟨hok, -⟩ := id_text_grammar.2.1 _ _ hcut
  obtain ⟨-, herror⟩ := id_text_grammar.2.1 _ _ hcut'
  exact ⟨hcut, (hok _).mpr ⟨rfl, hholds⟩, hcut', (herror _).mpr (.inr ⟨rfl, "256", hbad, rfl⟩)⟩

end Wang.Id

end TileAtlas
