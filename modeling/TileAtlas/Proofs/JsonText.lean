/-
JSON texts are read as what they were written from.

`ReadsAs cs j` says that a text stands for a value wherever it occurs: after white space,
and before anything that does not go on with a number. Numerals, strings and the words
stand for what they look like, and a list of texts in brackets, with white space around
its members, stands for the list of what they stand for (`ReadsAs.array`,
`ReadsAs.object`). Both printers put texts together in this way, so the reader takes
their texts back (`parse?_compact`, `parse?_pretty`).

The values have to be ones whose literals are numerals and whose strings are closed
(`WellFormed`).
-/

import Mathlib.Data.List.Forall2
import TileAtlas.Json.Number
import TileAtlas.Json.Printer
import TileAtlas.Json.Reader
import TileAtlas.Proofs.FloatText

namespace TileAtlas.Json

open Number (AllDigits IsWhole IsExponent pointed spanDigits)

/-! ### White space and what follows a number -/

/-- Nothing but white space. -/
def AllSpaces (cs : List Char) : Prop := ∀ c ∈ cs, isSpace c = true

theorem allSpaces_nil : AllSpaces [] := fun _ h => nomatch h

/-- White space before a value does not matter. -/
theorem skipSpaces_append {w : List Char} (hw : AllSpaces w) (cs : List Char) :
    skipSpaces (w ++ cs) = skipSpaces cs :=
  List.dropWhile_append_of_pos hw

theorem skipSpaces_cons {c : Char} (hc : isSpace c = false) (cs : List Char) :
    skipSpaces (c :: cs) = c :: cs :=
  List.dropWhile_cons_of_neg (by simp [hc])

/-- A text that does not go on with a number. -/
def Delimited (rest : List Char) : Prop :=
  ∀ c ∈ rest.head?, c.isDigit = false ∧ c ≠ '.' ∧ c ≠ 'e' ∧ c ≠ 'E'

theorem delimited_nil : Delimited [] := fun _ h => nomatch h

/-- A character that cannot continue a number ends it. -/
theorem delimited_cons {c : Char} (hc : c.isDigit = false ∧ c ≠ '.' ∧ c ≠ 'e' ∧ c ≠ 'E')
    (rest : List Char) : Delimited (c :: rest) := by
  rintro d ⟨⟩
  exact hc

/-- White space does not continue a number either. -/
theorem Delimited.spaces_append {w rest : List Char} (hrest : Delimited rest) (hw : AllSpaces w) :
    Delimited (w ++ rest) := by
  cases w with
  | nil => exact hrest
  | cons c w =>
      have hc : isSpace c = true := hw c List.mem_cons_self
      simp only [isSpace, Bool.or_eq_true, beq_iff_eq] at hc
      refine delimited_cons ?_ _
      rcases hc with ((rfl | rfl) | rfl) | rfl
      all_goals decide

/-! ### Numbers -/

/-- Digits are taken up to the first character that is none. -/
theorem spanDigits_append {ds rest : List Char} (hds : AllDigits ds)
    (hrest : ∀ c ∈ rest.head?, c.isDigit = false) : spanDigits (ds ++ rest) = (ds, rest) := by
  have htake : rest.takeWhile Char.isDigit = [] := by
    cases rest with
    | nil => rfl
    | cons c rest => rw [List.takeWhile_cons_of_neg (by simp [hrest c rfl])]
  have hdrop : rest.dropWhile Char.isDigit = rest := by
    cases rest with
    | nil => rfl
    | cons c rest => rw [List.dropWhile_cons_of_neg (by simp [hrest c rfl])]
  rw [spanDigits, List.takeWhile_append_of_pos hds, List.dropWhile_append_of_pos hds, htake, hdrop,
    List.append_nil]

/-- A sign, a whole part, a fraction and an exponent, of which only the second has to be
there. -/
inductive IsNumeral : List Char → Prop where
  | intro {sign whole fraction exponent : List Char} (hsign : sign = [] ∨ sign = ['-'])
      (hwhole : IsWhole whole) (hfraction : AllDigits fraction) (hexponent : IsExponent exponent) :
      IsNumeral (sign ++ (whole ++ (pointed fraction ++ exponent)))

theorem exponentPart?_append {exponent rest : List Char} (h : IsExponent exponent)
    (hrest : Delimited rest) : exponentPart? (exponent ++ rest) = some (exponent, rest) := by
  cases h with
  | missing =>
      cases rest with
      | nil => rfl
      | cons c rest =>
          have hc := hrest c rfl
          simp [exponentPart?, hc.2.2.1, hc.2.2.2]
  | @signed sign hsign n =>
      have hspan := spanDigits_append (Number.allDigits_toDigits n) fun c hc => (hrest c hc).1
      have hne : (Nat.toDigits 10 n).isEmpty = false := by
        simp [Nat.toDigits_ne_nil]
      rcases hsign with rfl | rfl
      · simp [exponentPart?, hspan, hne]
      · simp [exponentPart?, hspan, hne]

theorem fractionPart?_append {fraction rest : List Char} (h : AllDigits fraction)
    (hrest : ∀ c ∈ rest.head?, c.isDigit = false ∧ c ≠ '.') :
    fractionPart? (pointed fraction ++ rest) = some (pointed fraction, rest) := by
  by_cases hfraction : fraction = []
  · subst hfraction
    cases rest with
    | nil => rfl
    | cons c rest =>
        have hc := hrest c rfl
        simp [pointed, fractionPart?, hc.2]
  · rw [Number.pointed_of_ne_nil hfraction]
    have hspan := spanDigits_append h fun c hc => (hrest c hc).1
    simp [fractionPart?, hspan, hfraction]

theorem wholePart?_append {whole rest : List Char} (h : IsWhole whole)
    (hrest : ∀ c ∈ rest.head?, c.isDigit = false) :
    wholePart? (whole ++ rest) = some (whole, rest) := by
  obtain ⟨hdigits, hne, hzero⟩ := h
  rw [wholePart?, spanDigits_append hdigits hrest]
  simp only
  split
  · exact absurd rfl hne
  · rcases hzero with hzero | hzero
    · cases hzero
    · exact absurd rfl hzero
  · rfl

theorem head?_exponent_append {exponent rest : List Char} (h : IsExponent exponent)
    (hrest : Delimited rest) :
    ∀ c ∈ (exponent ++ rest).head?, c.isDigit = false ∧ c ≠ '.' := by
  cases h with
  | missing => exact fun c hc => ⟨(hrest c hc).1, (hrest c hc).2.1⟩
  | signed =>
      rintro c ⟨⟩
      decide

theorem head?_pointed_append {fraction rest : List Char}
    (hrest : ∀ c ∈ rest.head?, c.isDigit = false ∧ c ≠ '.') :
    ∀ c ∈ (pointed fraction ++ rest).head?, c.isDigit = false := by
  unfold pointed
  split
  · exact fun c hc => (hrest c hc).1
  · rintro c ⟨⟩
    decide

/-- A numeral is read up to its end. -/
theorem number?_append {cs rest : List Char} (h : IsNumeral cs) (hrest : Delimited rest) :
    number? (cs ++ rest) = some (.number (String.ofList cs), rest) := by
  cases h with
  | @intro sign whole fraction exponent hsign hwhole hfraction hexponent =>
      have hafter := head?_exponent_append hexponent hrest
      have hbody : wholePart? (whole ++ (pointed fraction ++ (exponent ++ rest))) =
          some (whole, pointed fraction ++ (exponent ++ rest)) :=
        wholePart?_append hwhole (head?_pointed_append hafter)
      have hfraction := fractionPart?_append hfraction hafter
      have hexponent := exponentPart?_append hexponent hrest
      rcases hsign with rfl | rfl
      · obtain ⟨c, ds, rfl⟩ := List.exists_cons_of_ne_nil hwhole.2.1
        have hc : c ≠ '-' := by
          rintro rfl
          exact absurd (hwhole.1 '-' List.mem_cons_self) (by decide)
        simp only [List.cons_append] at hbody
        simp [number?, hc, hbody, hfraction, hexponent, String.append_assoc]
      · simp [number?, hbody, hfraction, hexponent]

/-- A numeral starts with a digit or a minus sign. -/
theorem IsNumeral.exists_eq_cons {cs : List Char} (h : IsNumeral cs) :
    ∃ c ds, cs = c :: ds ∧ (c = '-' ∨ c.isDigit = true) := by
  cases h with
  | intro hsign hwhole =>
      obtain ⟨c, ds, rfl⟩ := List.exists_cons_of_ne_nil hwhole.2.1
      rcases hsign with rfl | rfl
      · exact ⟨c, _, rfl, .inr (hwhole.1 c List.mem_cons_self)⟩
      · exact ⟨'-', _, rfl, .inl rfl⟩

theorem isNumeral_toString_nat (n : Nat) : IsNumeral (toString n).toList := by
  have h : IsNumeral ([] ++ (Nat.toDigits 10 n ++ (pointed [] ++ []))) :=
    .intro (.inl rfl) (Number.isWhole_toDigits n) Number.allDigits_nil .missing
  rw [Text.toList_toString_nat]
  simpa [pointed] using h

theorem isNumeral_toString_int (n : Int) : IsNumeral (toString n).toList := by
  cases n with
  | ofNat n => exact isNumeral_toString_nat n
  | negSucc n =>
      have h : IsNumeral (['-'] ++ (Nat.toDigits 10 (n + 1) ++ (pointed [] ++ []))) :=
        .intro (.inr rfl) (Number.isWhole_toDigits _) Number.allDigits_nil .missing
      rw [Text.toList_toString_negSucc]
      simpa [pointed] using h

/-- The literals printed for numbers are numerals of the grammar. -/
theorem isNumeral_of_marked {f : Number.Format} {range : Number.PlainRange} {x : Number.Binary f}
    {literal : String} (h : x.marked? range = some literal) : IsNumeral literal.toList := by
  obtain ⟨sign, whole, fraction, exponent, hsign, hwhole, hfraction, hexponent, -, htext⟩ :=
    Number.exists_toList_marked h
  rw [htext]
  exact .intro hsign hwhole hfraction hexponent

/-! ### Strings -/

/-- What may stand between quotes: a reader stops at the closing quote and not before. -/
def IsBody (body : String) : Prop :=
  ∀ rest, stringBody? (body.toList ++ '"' :: rest) = some (body.toList, rest)

/-- A control character is read back from its four-digit escape. -/
theorem hexDigits?_control {n : Nat} (hn : n < 256) :
    Text.hexDigits? ['0', '0', Nat.digitChar (n / 16), Nat.digitChar (n % 16)] = some n := by
  have hhigh := Text.hexDigit?_digitChar (k := n / 16) (by omega)
  have hlow := Text.hexDigit?_digitChar (k := n % 16) (by omega)
  have hzero : Text.hexDigit? '0' = some 0 := rfl
  simp [Text.hexDigits?, hhigh, hlow, hzero, Nat.div_add_mod]

/-- A character has a one-letter escape, the escape of a control character, or none. -/
theorem escapeChar_cases (c : Char) :
    (∃ e, e ≠ 'u' ∧ simpleEscape? e = some c ∧ escapeChar c = ['\\', e]) ∨
      (c.toNat < 0x20 ∧ escapeChar c = controlEscape c) ∨
      (c ≠ '"' ∧ c ≠ '\\' ∧ ¬ c.toNat < 0x20 ∧ escapeChar c = [c]) := by
  unfold escapeChar
  split
  · exact .inl ⟨'"', by decide, by simp_all [simpleEscape?], rfl⟩
  split
  · exact .inl ⟨'\\', by decide, by simp_all [simpleEscape?], rfl⟩
  split
  · exact .inl ⟨'n', by decide, by simp_all [simpleEscape?], rfl⟩
  split
  · exact .inl ⟨'r', by decide, by simp_all [simpleEscape?], rfl⟩
  split
  · exact .inl ⟨'t', by decide, by simp_all [simpleEscape?], rfl⟩
  split
  · exact .inl ⟨'b', by decide, by simp_all [simpleEscape?], rfl⟩
  split
  · exact .inl ⟨'f', by decide, by simp_all [simpleEscape?], rfl⟩
  split
  · exact .inr (.inl ⟨‹_›, rfl⟩)
  · exact .inr (.inr ⟨‹_›, ‹_›, ‹_›, rfl⟩)

/-- An escaped character does not end the string it stands in. -/
theorem stringBody?_escapeChar (c : Char) (rest : List Char) :
    stringBody? (escapeChar c ++ rest) =
      (stringBody? rest).map fun r => (escapeChar c ++ r.1, r.2) := by
  rcases escapeChar_cases c with ⟨e, he, hescape, htext⟩ | ⟨hcontrol, htext⟩ |
    ⟨hquote, hslash, hcontrol, htext⟩
  · simp [htext, stringBody?, he, hescape]
  · have hhex := hexDigits?_control (show c.toNat < 256 by omega)
    simp [htext, controlEscape, stringBody?, hhex]
  · simp [htext, stringBody?, hslash, hcontrol]

/-- Unescaping undoes escaping, character by character. -/
theorem unescapeChars?_escapeChar (c : Char) (rest : List Char) :
    unescapeChars? (escapeChar c ++ rest) = (unescapeChars? rest).map (c :: ·) := by
  rcases escapeChar_cases c with ⟨e, he, hescape, htext⟩ | ⟨hcontrol, htext⟩ |
    ⟨hquote, hslash, hcontrol, htext⟩
  · cases hrest : unescapeChars? rest with
    | none => simp [htext, unescapeChars?, he, hescape, hrest]
    | some tail => simp [htext, unescapeChars?, he, hescape, hrest]
  · have hhex := hexDigits?_control (show c.toNat < 256 by omega)
    have hlead : ¬ (0xD800 ≤ c.toNat ∧ c.toNat < 0xDC00) := by omega
    have htrail : ¬ (0xDC00 ≤ c.toNat ∧ c.toNat < 0xE000) := by omega
    cases hrest : unescapeChars? rest with
    | none => simp [htext, controlEscape, unescapeChars?, hhex, hlead, hrest]
    | some tail => simp [htext, controlEscape, unescapeChars?, hhex, hlead, htrail, hrest]
  · simp [htext, unescapeChars?, hslash]

/-- The escaped form of a text is a string body. -/
theorem isBody_escape (s : String) : IsBody (escape s) := by
  intro rest
  rw [escape, String.toList_ofList]
  induction s.toList with
  | nil => rfl
  | cons c cs ih =>
      rw [List.flatMap_cons, List.append_assoc, stringBody?_escapeChar, ih]
      rfl

/-- A text comes back from its escaped form. -/
@[simp] theorem unescape?_escape (s : String) : unescape? (escape s) = some s := by
  have hchars : ∀ cs : List Char, unescapeChars? (cs.flatMap escapeChar) = some cs := by
    intro cs
    induction cs with
    | nil => rfl
    | cons c cs ih =>
        rw [List.flatMap_cons, unescapeChars?_escapeChar, ih]
        rfl
  rw [unescape?, escape, String.toList_ofList, hchars]
  simp

/-! ### What a value starts with -/

theorem value?_spaces {w : List Char} (hw : AllSpaces w) (n : Nat) (cs : List Char) :
    value? n (w ++ cs) = value? n cs := by
  cases n with
  | zero => rfl
  | succ n => simp only [value?, skipSpaces_append hw]

theorem value?_null (n : Nat) (rest : List Char) :
    value? (n + 1) ('n' :: rest) = word? "null" .null ('n' :: rest) := rfl

theorem value?_true (n : Nat) (rest : List Char) :
    value? (n + 1) ('t' :: rest) = word? "true" (.bool true) ('t' :: rest) := rfl

theorem value?_false (n : Nat) (rest : List Char) :
    value? (n + 1) ('f' :: rest) = word? "false" (.bool false) ('f' :: rest) := rfl

theorem value?_string (n : Nat) (rest : List Char) :
    value? (n + 1) ('"' :: rest) =
      (stringBody? rest).map fun r => (.string (String.ofList r.1), r.2) := rfl

theorem value?_array (n : Nat) (rest : List Char) :
    value? (n + 1) ('[' :: rest) =
      match skipSpaces rest with
      | ']' :: rest => some (.array [], rest)
      | rest => (items? n rest).map fun r => (.array r.1, r.2) := rfl

theorem value?_object (n : Nat) (rest : List Char) :
    value? (n + 1) ('\x7b' :: rest) =
      match skipSpaces rest with
      | '\x7d' :: rest => some (.object [], rest)
      | rest => (members? n rest).map fun r => (.object r.1, r.2) := rfl

/-- What starts none of the other kinds of value is read as a number. -/
theorem value?_number {c : Char} (hspace : isSpace c = false)
    (hc : c ∉ ['[', '\x7b', '"', 'n', 't', 'f']) (n : Nat) (cs : List Char) :
    value? (n + 1) (c :: cs) = number? (c :: cs) := by
  simp only [List.mem_cons, List.not_mem_nil, or_false, not_or] at hc
  simp [value?, skipSpaces_cons hspace, hc]

/-! ### Values -/

/-- A text stands for a value: it is read as the value after white space and before
anything that does not go on with a number, under any bound above its length. -/
structure ReadsAs (cs : List Char) (j : Json) : Prop where
  starts : ∃ c ds, cs = c :: ds ∧ isSpace c = false ∧ c ≠ ']'
  read : ∀ n w rest, AllSpaces w → Delimited rest → cs.length ≤ n →
    value? n (w ++ (cs ++ rest)) = some (j, rest)

/-- It is enough to look at a text that starts with the value. -/
theorem readsAs_of_cons {c : Char} {cs : List Char} {j : Json} (hspace : isSpace c = false)
    (hclose : c ≠ ']')
    (hread : ∀ n rest, Delimited rest → cs.length ≤ n →
      value? (n + 1) (c :: (cs ++ rest)) = some (j, rest)) : ReadsAs (c :: cs) j := by
  refine ⟨⟨c, cs, rfl, hspace, hclose⟩, ?_⟩
  intro n w rest hw hrest hn
  obtain ⟨n, rfl⟩ : ∃ m, n = m + 1 := by
    rw [List.length_cons] at hn
    exact ⟨n - 1, by omega⟩
  rw [value?_spaces hw]
  exact hread n rest hrest (Nat.le_of_succ_le_succ hn)

theorem word?_append (word : String) (value : Json) (rest : List Char) :
    word? word value (word.toList ++ rest) = some (value, rest) := by
  have hdrop : (word.toList ++ rest).drop word.length = rest := by
    rw [← String.length_toList, List.drop_left]
  simp [word?, hdrop]

theorem readsAs_null : ReadsAs ['n', 'u', 'l', 'l'] .null := by
  refine readsAs_of_cons (by decide) (by decide) fun n rest _ _ => ?_
  have hword := word?_append "null" .null rest
  simpa [value?_null] using hword

theorem readsAs_true : ReadsAs ['t', 'r', 'u', 'e'] (.bool true) := by
  refine readsAs_of_cons (by decide) (by decide) fun n rest _ _ => ?_
  have hword := word?_append "true" (.bool true) rest
  simpa [value?_true] using hword

theorem readsAs_false : ReadsAs ['f', 'a', 'l', 's', 'e'] (.bool false) := by
  refine readsAs_of_cons (by decide) (by decide) fun n rest _ _ => ?_
  have hword := word?_append "false" (.bool false) rest
  simpa [value?_false] using hword

theorem readsAs_string {body : String} (h : IsBody body) :
    ReadsAs ('"' :: (body.toList ++ ['"'])) (.string body) := by
  refine readsAs_of_cons (by decide) (by decide) fun n rest _ _ => ?_
  have hbody := h rest
  simp [value?_string, hbody]

theorem readsAs_number {literal : String} (h : IsNumeral literal.toList) :
    ReadsAs literal.toList (.number literal) := by
  obtain ⟨c, ds, hcons, hc⟩ := h.exists_eq_cons
  have hne {d : Char} (hd : d.isDigit = false) (hminus : d ≠ '-') : c ≠ d := by
    rintro rfl
    rcases hc with rfl | hc
    · exact hminus rfl
    · rw [hd] at hc
      cases hc
  have hspace : isSpace c = false := by
    simp [isSpace, hne]
  have hother : c ∉ ['[', '\x7b', '"', 'n', 't', 'f'] := by
    simp [hne]
  rw [hcons]
  refine readsAs_of_cons hspace (hne (by decide) (by decide)) fun n rest hrest _ => ?_
  have hread := number?_append h hrest
  rw [String.ofList_toList, hcons, List.cons_append] at hread
  rw [value?_number hspace hother, hread]

/-! ### Lists in brackets -/

def separated (inner : List Char) (texts : List (List Char)) : List Char :=
  (',' :: inner).intercalate texts

theorem separated_cons_cons (inner text text' : List Char) (texts : List (List Char)) :
    separated inner (text :: text' :: texts) =
      text ++ ',' :: (inner ++ separated inner (text' :: texts)) := by
  simp [separated, List.intercalate]

theorem separated_singleton (inner text : List Char) : separated inner [text] = text := by
  simp [separated, List.intercalate]

/-- Items with commas between them are read up to the closing bracket. -/
theorem items?_separated {inner outer : List Char} {texts : List (List Char)} {items : List Json}
    (hinner : AllSpaces inner) (houter : AllSpaces outer)
    (hitems : List.Forall₂ ReadsAs texts items) (hne : texts ≠ []) {n : Nat} {w : List Char}
    (hw : AllSpaces w) (hn : (separated inner texts).length + 1 ≤ n) (rest : List Char) :
    items? n (w ++ (separated inner texts ++ (outer ++ ']' :: rest))) = some (items, rest) := by
  induction hitems generalizing n w with
  | nil => exact absurd rfl hne
  | @cons text item texts items htext htexts ih =>
      obtain ⟨n, rfl⟩ : ∃ m, n = m + 1 := ⟨n - 1, by omega⟩
      cases texts with
      | nil =>
          cases htexts
          rw [separated_singleton] at hn ⊢
          have hafter : Delimited (outer ++ ']' :: rest) :=
            (delimited_cons (by decide) rest).spaces_append houter
          have hread := htext.read n w _ hw hafter (by omega)
          simp [items?, hread, skipSpaces_append houter, skipSpaces_cons, isSpace]
      | cons text' texts =>
          rw [separated_cons_cons] at hn ⊢
          have hread := htext.read n w
            (',' :: (inner ++ (separated inner (text' :: texts) ++ (outer ++ ']' :: rest)))) hw
            (delimited_cons (by decide) _) (by simp at hn; omega)
          have hrest := ih (List.cons_ne_nil _ _) hinner (n := n) (by simp at hn; omega)
          simp [items?, hread, hrest, skipSpaces_cons, isSpace]

/-- The first of several texts starts all of them. -/
theorem exists_separated_eq_cons {inner : List Char} {c : Char} {ds : List Char}
    {texts : List (List Char)} :
    ∃ es, separated inner ((c :: ds) :: texts) = c :: es := by
  cases texts with
  | nil => exact ⟨ds, separated_singleton inner _⟩
  | cons text texts => exact ⟨_, separated_cons_cons inner _ _ _⟩

theorem readsAs_array_nil : ReadsAs ['[', ']'] (.array []) :=
  readsAs_of_cons (by decide) (by decide) fun n rest _ _ => value?_array n (']' :: rest)

/-- Texts in brackets stand for the array of what they stand for. -/
theorem ReadsAs.array {inner outer : List Char} {texts : List (List Char)} {items : List Json}
    (hinner : AllSpaces inner) (houter : AllSpaces outer)
    (hitems : List.Forall₂ ReadsAs texts items) (hne : texts ≠ []) :
    ReadsAs ('[' :: (inner ++ (separated inner texts ++ (outer ++ [']'])))) (.array items) := by
  refine readsAs_of_cons (by decide) (by decide) fun n rest _ hn => ?_
  have hn : (separated inner texts).length + 1 ≤ n := by
    simp only [List.length_append, List.length_singleton] at hn
    omega
  have hread := items?_separated hinner houter hitems hne allSpaces_nil hn rest
  obtain ⟨c, es, hcons, hspace, hclose⟩ :
      ∃ c es, separated inner texts = c :: es ∧ isSpace c = false ∧ c ≠ ']' := by
    cases hitems with
    | nil => exact absurd rfl hne
    | cons htext _ =>
        obtain ⟨c, ds, rfl, hspace, hclose⟩ := htext.starts
        obtain ⟨es, hes⟩ := exists_separated_eq_cons
        exact ⟨c, es, hes, hspace, hclose⟩
  rw [hcons] at hread ⊢
  simp only [List.nil_append, List.cons_append] at hread
  simp [value?_array, skipSpaces_append hinner, skipSpaces_cons hspace, hclose, hread]

/-- A text stands for a member of an object: a key in quotes, a colon and white space, and
a text for the value. -/
def ReadsAsMember (gap text : List Char) (m : String × Json) : Prop :=
  IsBody m.1 ∧ ∃ cs, ReadsAs cs m.2 ∧ text = '"' :: (m.1.toList ++ '"' :: ':' :: (gap ++ cs))

/-- Members with commas between them are read up to the closing bracket. -/
theorem members?_separated {gap inner outer : List Char} {texts : List (List Char)}
    {members : List (String × Json)} (hgap : AllSpaces gap) (hinner : AllSpaces inner)
    (houter : AllSpaces outer) (hmembers : List.Forall₂ (ReadsAsMember gap) texts members)
    (hne : texts ≠ []) {n : Nat} {w : List Char} (hw : AllSpaces w)
    (hn : (separated inner texts).length + 1 ≤ n) (rest : List Char) :
    members? n (w ++ (separated inner texts ++ (outer ++ '\x7d' :: rest))) =
      some (members, rest) := by
  induction hmembers generalizing n w with
  | nil => exact absurd rfl hne
  | @cons text m texts members htext htexts ih =>
      obtain ⟨n, rfl⟩ : ∃ m, n = m + 1 := ⟨n - 1, by omega⟩
      obtain ⟨hkey, cs, hvalue, rfl⟩ := htext
      cases texts with
      | nil =>
          cases htexts
          rw [separated_singleton] at hn ⊢
          have hafter : Delimited (outer ++ '\x7d' :: rest) :=
            (delimited_cons (by decide) rest).spaces_append houter
          have hread := hvalue.read n gap _ hgap hafter (by simp at hn; omega)
          simp [members?, skipSpaces_append hw, skipSpaces_append houter, skipSpaces_cons, isSpace,
            hkey _, hread]
      | cons text' texts =>
          rw [separated_cons_cons] at hn ⊢
          have hread := hvalue.read n gap
            (',' :: (inner ++ (separated inner (text' :: texts) ++ (outer ++ '\x7d' :: rest)))) hgap
            (delimited_cons (by decide) _) (by simp at hn; omega)
          have hrest := ih (List.cons_ne_nil _ _) hinner (n := n) (by simp at hn; omega)
          simp [members?, skipSpaces_append hw, skipSpaces_cons, isSpace, hkey _, hread, hrest]

theorem readsAs_object_nil : ReadsAs ['\x7b', '\x7d'] (.object []) :=
  readsAs_of_cons (by decide) (by decide) fun n rest _ _ => value?_object n ('\x7d' :: rest)

/-- Members in braces stand for the object of what they stand for. -/
theorem ReadsAs.object {gap inner outer : List Char} {texts : List (List Char)}
    {members : List (String × Json)} (hgap : AllSpaces gap) (hinner : AllSpaces inner)
    (houter : AllSpaces outer) (hmembers : List.Forall₂ (ReadsAsMember gap) texts members)
    (hne : texts ≠ []) :
    ReadsAs ('\x7b' :: (inner ++ (separated inner texts ++ (outer ++ ['\x7d']))))
      (.object members) := by
  refine readsAs_of_cons (by decide) (by decide) fun n rest _ hn => ?_
  have hn : (separated inner texts).length + 1 ≤ n := by
    simp only [List.length_append, List.length_singleton] at hn
    omega
  have hread := members?_separated hgap hinner houter hmembers hne allSpaces_nil hn rest
  obtain ⟨es, hcons⟩ : ∃ es, separated inner texts = '"' :: es := by
    cases hmembers with
    | nil => exact absurd rfl hne
    | cons htext _ =>
        obtain ⟨-, cs, -, rfl⟩ := htext
        exact exists_separated_eq_cons
  rw [hcons] at hread ⊢
  simp only [List.nil_append, List.cons_append] at hread
  simp [value?_object, skipSpaces_append hinner, skipSpaces_cons, isSpace, hread]

/-! ### Printers -/

/-- A value whose literals are numerals and whose strings and keys are closed. -/
inductive WellFormed : Json → Prop where
  | null : WellFormed .null
  | bool (b : Bool) : WellFormed (.bool b)
  | number {literal : String} (h : IsNumeral literal.toList) : WellFormed (.number literal)
  | string {body : String} (h : IsBody body) : WellFormed (.string body)
  | array {items : List Json} (hitems : ∀ i ∈ items, WellFormed i) : WellFormed (.array items)
  | object {members : List (String × Json)} (hkeys : ∀ m ∈ members, IsBody m.1)
      (hvalues : ∀ m ∈ members, WellFormed m.2) : WellFormed (.object members)

/-- Parts joined by commas, as the list of texts the reader takes apart. -/
theorem toList_joinWith_comma (inner : String) (parts : List String) :
    (Text.joinWith ("," ++ inner) parts).toList =
      separated inner.toList (parts.map String.toList) := by
  rw [Text.joinWith, String.toList_join]
  induction parts with
  | nil => rfl
  | cons p ps ih =>
      cases ps with
      | nil => simp [separated_singleton]
      | cons q qs =>
          simp only [List.intersperse_cons_cons, List.flatMap_cons, ih, List.map_cons,
            separated_cons_cons]
          simp

theorem toList_joinWith (parts : List String) :
    (Text.joinWith "," parts).toList = separated [] (parts.map String.toList) :=
  toList_joinWith_comma "" parts

theorem compactItems_eq_map (items : List Json) : compactItems items = items.map compact := by
  induction items with
  | nil => rfl
  | cons i is ih => rw [compactItems, ih, List.map_cons]

theorem compactMembers_eq_map (members : List (String × Json)) :
    compactMembers members = members.map fun m => "\"" ++ m.1 ++ "\":" ++ m.2.compact := by
  induction members with
  | nil => rfl
  | cons m ms ih => rw [compactMembers, ih, List.map_cons]

theorem prettyItems_eq_map (depth : Nat) (items : List Json) :
    prettyItems depth items = items.map (prettyAt depth) := by
  induction items with
  | nil => rfl
  | cons i is ih => rw [prettyItems, ih, List.map_cons]

/-- The recursion over the members of an object prints each of them behind its name. -/
theorem prettyMembers_eq_map (depth : Nat) (members : List (String × Json)) :
    prettyMembers depth members =
      members.map fun m => "\"" ++ m.1 ++ "\": " ++ m.2.prettyAt depth := by
  induction members with
  | nil => rfl
  | cons m ms ih => rw [prettyMembers, ih, List.map_cons]

/-- If every item reads back, the texts of the items read back as the items. -/
theorem forall₂_readsAs {text : Json → String} {items : List Json}
    (h : ∀ i ∈ items, ReadsAs (text i).toList i) :
    List.Forall₂ ReadsAs ((items.map text).map String.toList) items := by
  rw [List.map_map, List.forall₂_map_left_iff, List.forall₂_same]
  exact h

/-- If every value reads back, the texts of the members read back as the members. -/
theorem forall₂_readsAsMember (gap : String) {text : Json → String}
    {members : List (String × Json)} (hkeys : ∀ m ∈ members, IsBody m.1)
    (h : ∀ m ∈ members, ReadsAs (text m.2).toList m.2) :
    List.Forall₂ (ReadsAsMember gap.toList)
      ((members.map fun m => "\"" ++ m.1 ++ ("\":" ++ gap) ++ text m.2).map String.toList)
      members := by
  rw [List.map_map, List.forall₂_map_left_iff, List.forall₂_same]
  intro m hm
  refine ⟨hkeys m hm, _, h m hm, ?_⟩
  simp

/-- The text without white space stands for the value. -/
theorem readsAs_compact {j : Json} (h : WellFormed j) : ReadsAs j.compact.toList j := by
  induction h with
  | null => simpa [compact] using readsAs_null
  | bool b =>
      cases b with
      | true => simpa [compact] using readsAs_true
      | false => simpa [compact] using readsAs_false
  | number h => exact readsAs_number h
  | string h => simpa [compact] using readsAs_string h
  | @array items _ ih =>
      by_cases hne : items = []
      · subst hne
        simpa [compact, compactItems, Text.joinWith] using readsAs_array_nil
      · have hread := ReadsAs.array allSpaces_nil allSpaces_nil (forall₂_readsAs ih) (by simp [hne])
        simpa [compact, compactItems_eq_map, toList_joinWith] using hread
  | @object members hkeys _ ih =>
      by_cases hne : members = []
      · subst hne
        simpa [compact, compactMembers, Text.joinWith] using readsAs_object_nil
      · have hread := ReadsAs.object allSpaces_nil allSpaces_nil allSpaces_nil
          (forall₂_readsAsMember "" hkeys ih) (by simp [hne])
        simpa [compact, compactMembers_eq_map, toList_joinWith] using hread

/-- A line break and its indentation are white space. -/
theorem allSpaces_lineAt (depth : Nat) : AllSpaces (lineAt depth).toList := by
  intro c hc
  simp only [lineAt, String.toList_append, String.toList_ofList, List.mem_append] at hc
  rcases hc with hc | hc
  · rw [List.mem_singleton.mp hc]
    rfl
  · rw [List.eq_of_mem_replicate hc]
    rfl

/-- A block, with its line breaks told apart from its parts. -/
theorem toList_block (depth : Nat) (left right : String) {parts : List String} (hne : parts ≠ []) :
    (block depth left right parts).toList =
      left.toList ++ ((lineAt (depth + 1)).toList ++
        (separated (lineAt (depth + 1)).toList (parts.map String.toList) ++
          ((lineAt depth).toList ++ right.toList))) := by
  simp [block, hne, toList_joinWith_comma]

/-- The indented text stands for the value, at any depth. -/
theorem readsAs_prettyAt {j : Json} (h : WellFormed j) (depth : Nat) :
    ReadsAs (j.prettyAt depth).toList j := by
  induction h generalizing depth with
  | null => simpa [prettyAt] using readsAs_null
  | bool b =>
      cases b with
      | true => simpa [prettyAt] using readsAs_true
      | false => simpa [prettyAt] using readsAs_false
  | number h => exact readsAs_number h
  | string h => simpa [prettyAt] using readsAs_string h
  | @array items _ ih =>
      by_cases hne : items = []
      · subst hne
        simpa [prettyAt, prettyItems, block] using readsAs_array_nil
      · have hitems := forall₂_readsAs fun i hi => ih i hi (depth + 1)
        have hread := ReadsAs.array (allSpaces_lineAt (depth + 1)) (allSpaces_lineAt depth) hitems
          (by simp [hne])
        rw [prettyAt, prettyItems_eq_map, toList_block _ _ _ (by simp [hne])]
        exact hread
  | @object members hkeys _ ih =>
      by_cases hne : members = []
      · subst hne
        simpa [prettyAt, prettyMembers, block] using readsAs_object_nil
      · have hgap : AllSpaces " ".toList := by
          simp [AllSpaces, isSpace]
        have hmembers := forall₂_readsAsMember " " hkeys fun m hm => ih m hm (depth + 1)
        have hread := ReadsAs.object hgap (allSpaces_lineAt (depth + 1)) (allSpaces_lineAt depth)
          hmembers (by simp [hne])
        rw [prettyAt, prettyMembers_eq_map, toList_block _ _ _ (by simp [hne])]
        exact hread

/-- A text that reads as a value is parsed as that value, with nothing left over. -/
theorem parse?_of_readsAs {text : String} {j : Json} (h : ReadsAs text.toList j) :
    parse? text = some j := by
  have hread : value? (text.toList.length + 1) text.toList = some (j, []) := by
    have hall := h.read (text.toList.length + 1) [] [] allSpaces_nil delimited_nil (Nat.le_succ _)
    rwa [List.nil_append, List.append_nil] at hall
  rw [parse?]
  simp only [hread, Option.bind_eq_bind, Option.bind_some]
  rfl

/-- **The text of a value is read as the value**, without white space or indented. -/
theorem parse?_compact {j : Json} (h : WellFormed j) : parse? j.compact = some j :=
  parse?_of_readsAs (readsAs_compact h)

/-- The indented form of a value is parsed as the value. -/
theorem parse?_pretty {j : Json} (h : WellFormed j) : parse? j.pretty = some j :=
  parse?_of_readsAs (readsAs_prettyAt h 0)

end TileAtlas.Json
