/-
The text of layer data.

`layerFields` is what the reader of a layer takes from a text: the fields between commas,
without the white space around them, empty ones left out. Commas and white space say
nothing by themselves, so a text may end in any number of them; and only in them, since
every other character ends up in some field (`layerFields_append_eq_iff`). Trimming a text
leaves what stands between the blanks around it (`Text.trim_eq_iff`).

`ListsValues` is the written form: numerals of 32-bit numbers between commas, with white
space around them and empty fields among them. Such a text has one field for each number
(`ListsValues.fieldValues`).
-/

import Mathlib.Data.List.DropRight
import Mathlib.Data.List.TakeWhile
import TileAtlas.Document.MapReader
import TileAtlas.Proofs.Fallible
import TileAtlas.Proofs.Numerals

namespace TileAtlas

open Fallible

namespace Text

/-! ### Trimming -/

theorem trimEndChars_append_blank (cs : List Char) {blanks : List Char}
    (h : ∀ c ∈ blanks, isBlank c = true) : trimEndChars (cs ++ blanks) = trimEndChars cs := by
  have hreverse : ∀ c ∈ blanks.reverse, isBlank c = true := by
    intro c hc
    exact h c (List.mem_reverse.mp hc)
  unfold trimEndChars
  rw [List.reverse_append, List.dropWhile_append_of_pos hreverse]

/-- White space at the end is trimmed. -/
theorem trimChars_append_blank (cs : List Char) {blanks : List Char}
    (h : ∀ c ∈ blanks, isBlank c = true) : trimChars (cs ++ blanks) = trimChars cs := by
  unfold trimChars
  rw [List.dropWhile_append]
  split
  · rename_i hempty
    rw [List.dropWhile_eq_nil_iff.mpr h, List.isEmpty_iff.mp hempty]
  · exact trimEndChars_append_blank _ h

/-- White space at the start is trimmed. -/
theorem trimChars_blank_append {blanks : List Char} (h : ∀ c ∈ blanks, isBlank c = true)
    (cs : List Char) : trimChars (blanks ++ cs) = trimChars cs := by
  unfold trimChars
  rw [List.dropWhile_append_of_pos h]

theorem trimChars_eq_nil_of_blank {cs : List Char} (h : ∀ c ∈ cs, isBlank c = true) :
    trimChars cs = [] := by
  unfold trimChars
  rw [List.dropWhile_eq_nil_iff.mpr h]
  rfl

/-- `core` is the text without white space at its ends: there is only white space before
and after it, and it neither starts nor ends with any. -/
structure IsTrimmed (s core : String) : Prop where
  surrounded : ∃ before after : String, s = before ++ core ++ after ∧
    (∀ c ∈ before.toList, isBlank c = true) ∧ ∀ c ∈ after.toList, isBlank c = true
  first : ∀ c, core.toList.head? = some c → isBlank c = false
  last : ∀ c, core.toList.getLast? = some c → isBlank c = false

theorem head?_trimEndChars {cs : List Char} {c : Char} (h : (trimEndChars cs).head? = some c) :
    cs.head? = some c := by
  obtain ⟨rest, hcs⟩ : trimEndChars cs <+: cs := List.rdropWhile_prefix isBlank cs
  rw [← hcs, List.head?_append, h, Option.some_or]

/-- Trimming gives the core of the text between the blanks around it. -/
theorem trim_eq_iff {s core : String} : trim s = core ↔ IsTrimmed s core := by
  constructor
  · rintro rfl
    have hcore : (trim s).toList = trimChars s.toList := String.toList_ofList
    refine ⟨⟨String.ofList (s.toList.takeWhile isBlank),
      String.ofList ((s.toList.dropWhile isBlank).rtakeWhile isBlank), ?_, ?_, ?_⟩, ?_, ?_⟩
    · rw [← String.toList_inj, String.toList_append, String.toList_append, String.toList_ofList,
        String.toList_ofList, hcore, List.append_assoc]
      have hdropped : trimChars s.toList ++ (s.toList.dropWhile isBlank).rtakeWhile isBlank =
          s.toList.dropWhile isBlank := List.rdropWhile_append_rtakeWhile
      rw [hdropped, List.takeWhile_append_dropWhile]
    · intro c hc
      rw [String.toList_ofList] at hc
      exact List.mem_takeWhile_imp hc
    · intro c hc
      rw [String.toList_ofList] at hc
      exact List.mem_rtakeWhile_imp hc
    · intro c hc
      have hdropped := head?_trimEndChars (hcore ▸ hc)
      have hnot := List.head?_dropWhile_not isBlank s.toList
      rw [hdropped] at hnot
      exact hnot
    · intro c hc
      rw [hcore, trimChars, trimEndChars, List.getLast?_reverse] at hc
      have hnot := List.head?_dropWhile_not isBlank (s.toList.dropWhile isBlank).reverse
      rw [hc] at hnot
      exact hnot
  · rintro ⟨⟨before, after, rfl, hbefore, hafter⟩, hfirst, hlast⟩
    rw [trim, String.toList_append, String.toList_append, trimChars_append_blank _ hafter,
      trimChars_blank_append hbefore, trimChars_eq_self_of_ends hfirst hlast, String.ofList_toList]

/-- A class of characters without white space is not touched by trimming. -/
theorem filter_trimChars {p : Char → Bool} (hp : ∀ c, isBlank c = true → p c = false)
    (cs : List Char) : (trimChars cs).filter p = cs.filter p := by
  have hdrop : ∀ ds : List Char, (ds.dropWhile isBlank).filter p = ds.filter p := by
    intro ds
    induction ds with
    | nil => rfl
    | cons d ds ih =>
        by_cases hd : isBlank d = true
        · rw [List.dropWhile_cons_of_pos hd, List.filter_cons_of_neg (by simp [hp d hd]), ih]
        · rw [List.dropWhile_cons_of_neg hd]
  unfold trimChars trimEndChars
  rw [List.filter_reverse, hdrop, List.filter_reverse, hdrop, List.reverse_reverse]

/-! ### Cutting at separators -/

/-- Every character but the separators is in a field. -/
theorem filter_flatten_fieldChars {sep : Char} {p : Char → Bool} (hp : p sep = false)
    (cs : List Char) : (fieldChars sep cs).flatten.filter p = cs.filter p := by
  induction cs with
  | nil => rfl
  | cons c cs ih =>
      obtain ⟨first, rest, h⟩ := exists_fieldChars_eq_cons sep cs
      rw [h] at ih
      rw [fieldChars_cons, h]
      by_cases hc : c = sep
      · rw [if_pos hc, List.filter_cons_of_neg (by simp [hc, hp]), ← ih]
        rfl
      · rw [if_neg hc, List.modifyHead_cons, List.flatten_cons, List.cons_append,
          List.filter_cons, List.filter_cons, ← List.flatten_cons, ih]

/-! ### Fields that are not empty -/

def isSpare (c : Char) : Bool :=
  c == ',' || isBlank c

/-- A text of commas and white space alone. -/
def Spare (s : String) : Prop :=
  ∀ c ∈ s.toList, isSpare c = true

instance (s : String) : Decidable (Spare s) :=
  decidable_of_iff (s.toList.all isSpare = true) List.all_eq_true

/-- The fields between commas, trimmed, that are not empty then. -/
def filledFields (cs : List Char) : List (List Char) :=
  ((fieldChars ',' cs).map trimChars).filter fun field => !field.isEmpty

/-- The spare characters around the data are commas and blanks. -/
theorem isBlank_of_isSpare {c : Char} (h : isSpare c = true) (hc : c ≠ ',') :
    isBlank c = true := by
  simpa [isSpare, hc] using h

/-- In a text of commas and white space no field is filled. -/
theorem isBlank_of_mem_fieldChars {cs : List Char} (h : ∀ c ∈ cs, isSpare c = true) :
    ∀ field ∈ fieldChars ',' cs, ∀ c ∈ field, isBlank c = true := by
  induction cs with
  | nil =>
      intro field hfield c hc
      rw [List.mem_singleton.mp hfield] at hc
      cases hc
  | cons d ds ih =>
      have hds := ih fun c hc => h c (List.mem_cons_of_mem d hc)
      obtain ⟨first, rest, hcut⟩ := exists_fieldChars_eq_cons ',' ds
      rw [hcut] at hds
      rw [fieldChars_cons, hcut]
      by_cases hd : d = ','
      · rw [if_pos hd]
        intro field hfield c hc
        rcases List.mem_cons.mp hfield with rfl | hfield
        · cases hc
        · exact hds field hfield c hc
      · rw [if_neg hd, List.modifyHead_cons]
        intro field hfield c hc
        rcases List.mem_cons.mp hfield with rfl | hfield
        · rcases List.mem_cons.mp hc with rfl | hc
          · exact isBlank_of_isSpare (h c List.mem_cons_self) hd
          · exact hds first List.mem_cons_self c hc
        · exact hds field (List.mem_cons_of_mem _ hfield) c hc

theorem filled_eq_nil_of_blank {fields : List (List Char)}
    (h : ∀ field ∈ fields, ∀ c ∈ field, isBlank c = true) :
    ((fields.map trimChars).filter fun field => !field.isEmpty) = [] := by
  rw [List.filter_eq_nil_iff]
  intro field hfield
  obtain ⟨untrimmed, hmem, rfl⟩ := List.mem_map.mp hfield
  rw [trimChars_eq_nil_of_blank (h untrimmed hmem)]
  simp

/-- Commas and white space at the end leave the fields before them as they are, and add
white space to the last one. -/
theorem exists_fieldChars_append_spare (cs : List Char) {spare : List Char}
    (h : ∀ c ∈ spare, isSpare c = true) :
    ∃ first blanks rest rest', fieldChars ',' cs = first :: rest ∧
      fieldChars ',' (cs ++ spare) = (first ++ blanks) :: rest' ∧
      (∀ c ∈ blanks, isBlank c = true) ∧
      ((rest'.map trimChars).filter fun field => !field.isEmpty) =
        (rest.map trimChars).filter fun field => !field.isEmpty := by
  induction cs with
  | nil =>
      obtain ⟨blanks, rest', hcut⟩ := exists_fieldChars_eq_cons ',' spare
      have hblank := isBlank_of_mem_fieldChars h
      rw [hcut] at hblank
      have hrest : ∀ field ∈ rest', ∀ c ∈ field, isBlank c = true := by
        intro field hfield
        exact hblank field (List.mem_cons_of_mem _ hfield)
      exact ⟨[], blanks, [], rest', rfl, hcut, hblank blanks List.mem_cons_self,
        filled_eq_nil_of_blank hrest⟩
  | cons c cs ih =>
      obtain ⟨first, blanks, rest, rest', hcut, hcut', hblanks, hrest⟩ := ih
      rw [List.cons_append, fieldChars_cons, fieldChars_cons, hcut, hcut']
      by_cases hc : c = ','
      · refine ⟨[], [], first :: rest, (first ++ blanks) :: rest', if_pos hc, if_pos hc, ?_, ?_⟩
        · intro d hd
          cases hd
        · rw [List.map_cons, List.map_cons, trimChars_append_blank first hblanks,
            List.filter_cons, List.filter_cons, hrest]
      · exact ⟨c :: first, blanks, rest, rest', if_neg hc, if_neg hc, hblanks, hrest⟩

/-- Commas and blanks at the end add no filled field. -/
theorem filledFields_append_spare (cs : List Char) {spare : List Char}
    (h : ∀ c ∈ spare, isSpare c = true) : filledFields (cs ++ spare) = filledFields cs := by
  obtain ⟨first, blanks, rest, rest', hcut, hcut', hblanks, hrest⟩ :=
    exists_fieldChars_append_spare cs h
  unfold filledFields
  rw [hcut, hcut', List.map_cons, List.map_cons, trimChars_append_blank first hblanks,
    List.filter_cons, List.filter_cons, hrest]

/-- The filled fields hold every character that is neither a comma nor white space. -/
theorem filter_flatten_filledFields (cs : List Char) :
    (filledFields cs).flatten.filter (fun c => !isSpare c) = cs.filter fun c => !isSpare c := by
  have hblank : ∀ c, isBlank c = true → (!isSpare c) = false := by
    intro c hc
    simp [isSpare, hc]
  have hfields : ∀ fields : List (List Char),
      ((fields.map trimChars).filter fun field => !field.isEmpty).flatten.filter
          (fun c => !isSpare c) = fields.flatten.filter fun c => !isSpare c := by
    intro fields
    induction fields with
    | nil => rfl
    | cons field fields ih =>
        have htrim := filter_trimChars hblank field
        rw [List.map_cons, List.flatten_cons, List.filter_append, ← ih, ← htrim]
        cases htrimmed : trimChars field with
        | nil => rfl
        | cons c cs => rw [List.filter_cons_of_pos rfl, List.flatten_cons, List.filter_append]
  rw [filledFields, hfields, filter_flatten_fieldChars (by decide)]

end Text

namespace Document

open Text (Spare isSpare isBlank)

/-- The fields that a layer is read from. -/
def layerFields (text : String) : List String :=
  ((Text.fields ',' text).map Text.trim).filter (· != "")

/-- The numbers of a text of layer data, one for each field. -/
def FieldValues (text : String) (values : List UInt32) : Prop :=
  List.Forall₂ (fun field value => Text.uint32? field = some value) (layerFields text) values

/-- The fields of the data are those between commas that are not blank. -/
theorem layerFields_eq (text : String) :
    layerFields text = (Text.filledFields text.toList).map String.ofList := by
  have hempty : ∀ cs : List Char, (String.ofList cs != "") = !cs.isEmpty := by
    intro cs
    cases cs with
    | nil => rfl
    | cons c cs => simp [bne, ← String.toList_inj]
  unfold layerFields Text.filledFields Text.fields
  rw [List.map_map, List.filter_map, List.filter_map, List.map_map]
  simp only [Function.comp_def, Text.trim, String.toList_ofList, hempty]

/-- **What follows a text changes its fields unless it is commas and white space.** -/
theorem layerFields_append_eq_iff (text more : String) :
    layerFields (text ++ more) = layerFields text ↔ Spare more := by
  rw [layerFields_eq, layerFields_eq, String.toList_append]
  constructor
  · intro h
    have hfields : Text.filledFields (text.toList ++ more.toList) = Text.filledFields text.toList :=
      (List.map_inj_right fun _ _ => String.ofList_injective).mp h
    have hkept := Text.filter_flatten_filledFields (text.toList ++ more.toList)
    rw [hfields, Text.filter_flatten_filledFields, List.filter_append] at hkept
    have hnone : (more.toList.filter fun c => !isSpare c) = [] := by
      simpa using hkept
    intro c hc
    simpa using List.filter_eq_nil_iff.mp hnone c hc
  · intro h
    rw [Text.filledFields_append_spare _ h]

/-- A text of layer data up to the end of its last field. -/
def layerText (text : String) : String :=
  String.ofList (text.toList.rdropWhile isSpare)

/-- What stands around the fields of the data can be left out. -/
theorem layerFields_layerText (text : String) :
    layerFields (layerText text) = layerFields text := by
  have hspare : Spare (String.ofList (text.toList.rtakeWhile isSpare)) := by
    intro c hc
    rw [String.toList_ofList] at hc
    exact List.mem_rtakeWhile_imp hc
  have hwhole : layerText text ++ String.ofList (text.toList.rtakeWhile isSpare) = text := by
    rw [layerText, ← String.ofList_append, List.rdropWhile_append_rtakeWhile, String.ofList_toList]
  rw [← (layerFields_append_eq_iff (layerText text) _).mpr hspare, hwhole]

/-- Commas and white space do not move the end of the last field. -/
theorem layerText_append (text : String) {more : String} (h : Spare more) :
    layerText (text ++ more) = layerText text := by
  have hreverse : ∀ c ∈ more.toList.reverse, isSpare c = true := by
    intro c hc
    exact h c (List.mem_reverse.mp hc)
  unfold layerText List.rdropWhile
  rw [String.toList_append, List.reverse_append, List.dropWhile_append_of_pos hreverse]

/-! ### The written form -/

/-- The pieces between the commas of a written list of numbers: a decimal numeral with
white space around it for each number, and white space alone anywhere among them. -/
inductive WrittenPieces : List String → List UInt32 → Prop where
  | nil : WrittenPieces [] []
  | blank {piece : String} {pieces : List String} {values : List UInt32}
      (blank : ∀ c ∈ piece.toList, isBlank c = true) (rest : WrittenPieces pieces values) :
      WrittenPieces (piece :: pieces) values
  | number {before sign digits after : String} {value : UInt32} {pieces : List String}
      {values : List UInt32} (before_blank : ∀ c ∈ before.toList, isBlank c = true)
      (sign_eq : sign = "" ∨ sign = "+") (digits_ne : digits ≠ "")
      (digits_decimal : ∀ c ∈ digits.toList, c.isDigit = true)
      (value_eq : Text.digitsValue digits.toList = value.toNat)
      (after_blank : ∀ c ∈ after.toList, isBlank c = true) (rest : WrittenPieces pieces values) :
      WrittenPieces ((before ++ sign ++ digits ++ after) :: pieces) (value :: values)

/-- A text that lists numbers between commas. -/
def ListsValues (text : String) (values : List UInt32) : Prop :=
  ∃ pieces, text = Text.joinWith "," pieces ∧ WrittenPieces pieces values

theorem trim_piece {before body after : String} (hbefore : ∀ c ∈ before.toList, isBlank c = true)
    (hbody : ∀ c ∈ body.toList, isBlank c = false) (hafter : ∀ c ∈ after.toList, isBlank c = true) :
    Text.trim (before ++ body ++ after) = body := by
  rw [Text.trim, String.toList_append, String.toList_append, Text.trimChars_append_blank _ hafter,
    Text.trimChars_blank_append hbefore, Text.trimChars_eq_self hbody, String.ofList_toList]

theorem trim_blank {piece : String} (h : ∀ c ∈ piece.toList, isBlank c = true) :
    Text.trim piece = "" := by
  rw [Text.trim, Text.trimChars_eq_nil_of_blank h]

theorem ne_comma_of_isBlank {c : Char} (h : isBlank c = true) : c ≠ ',' := by
  rintro rfl
  exact absurd h (by decide)

/-- No comma stands in a piece, so the text is cut at the commas between pieces only. -/
theorem ne_comma_of_mem_piece {pieces : List String} {values : List UInt32}
    (h : WrittenPieces pieces values) : ∀ piece ∈ pieces, ',' ∉ piece.toList := by
  induction h with
  | nil =>
      intro piece hpiece
      cases hpiece
  | blank hblank _ ih =>
      refine List.forall_mem_cons.mpr ⟨?_, ih⟩
      intro hcomma
      exact ne_comma_of_isBlank (hblank _ hcomma) rfl
  | number hbefore hsign _ hdigits _ hafter _ ih =>
      refine List.forall_mem_cons.mpr ⟨?_, ih⟩
      intro hcomma
      simp only [String.toList_append, List.mem_append] at hcomma
      rcases hcomma with ((hcomma | hcomma) | hcomma) | hcomma
      · exact ne_comma_of_isBlank (hbefore _ hcomma) rfl
      · rcases hsign with rfl | rfl
        · cases hcomma
        · exact absurd hcomma (by decide)
      · exact absurd (hdigits _ hcomma) (by decide)
      · exact ne_comma_of_isBlank (hafter _ hcomma) rfl

/-- There is no white space in a numeral. -/
theorem isBlank_of_mem_numeral {s : String} {n : Nat} (h : Text.IsNumeral s n) :
    ∀ c ∈ s.toList, isBlank c = false := by
  obtain ⟨sign, digits, rfl, hsign, -, hdigits, -⟩ := h
  intro c hc
  rw [String.toList_append] at hc
  rcases List.mem_append.mp hc with hc | hc
  · rcases hsign with rfl | rfl
    · cases hc
    · rw [List.mem_singleton.mp hc]
      decide
  · exact Text.isBlank_of_isDigit (hdigits c hc)

/-- The pieces that say something are read as the numbers. -/
theorem forall₂_uint32?_pieces {pieces : List String} {values : List UInt32}
    (h : WrittenPieces pieces values) :
    List.Forall₂ (fun field value => Text.uint32? field = some value)
      ((pieces.map Text.trim).filter (· != "")) values := by
  induction h with
  | nil => exact .nil
  | blank hblank _ ih =>
      rw [List.map_cons, trim_blank hblank, List.filter_cons_of_neg (by decide)]
      exact ih
  | @number before sign digits after value pieces values hbefore hsign hne hdigits hvalue hafter _
      ih =>
      have hnumeral : Text.IsNumeral (sign ++ digits) value.toNat :=
        ⟨sign, digits, rfl, hsign, hne, hdigits, hvalue⟩
      have hfilled : sign ++ digits ≠ "" := by
        intro hempty
        exact hne (String.append_eq_empty_iff.mp hempty).2
      rw [List.map_cons, @String.append_assoc before sign digits,
        trim_piece hbefore (isBlank_of_mem_numeral hnumeral) hafter,
        List.filter_cons_of_pos (by simpa using hfilled)]
      exact .cons (Text.uint32?_eq_some_iff.mpr hnumeral) ih

/-- **A written list is read field by field**: the fields of its text are the numerals of
its numbers, in their order. -/
theorem ListsValues.fieldValues {text : String} {values : List UInt32}
    (h : ListsValues text values) : FieldValues text values := by
  obtain ⟨pieces, rfl, hpieces⟩ := h
  cases pieces with
  | nil =>
      cases hpieces
      exact .nil
  | cons piece pieces =>
      have hfields : Text.fields ',' (Text.joinWith "," (piece :: pieces)) = piece :: pieces :=
        Text.fields_joinWith (List.cons_ne_nil _ _) (ne_comma_of_mem_piece hpieces)
      rw [FieldValues, layerFields, hfields]
      exact forall₂_uint32?_pieces hpieces

end Document

end TileAtlas
