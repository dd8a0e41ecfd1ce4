/-
The paths of the entries of a directory.

A directory lists names, and the path of an entry is the directory joined with its name. A
name is one component (`Path.IsEntryName`), and it becomes the last component of that path
however the directory is written, with a slash at its end or without
(`Path.components_join`). So the directory does not matter to what is asked of an entry: two
entries compare as their names do (`Path.compare_join`), and the extension is read off the
name (`Path.hasExtension_join_iff`).
-/

import Mathlib
import TileAtlas.CommandLine.Validate
import TileAtlas.Proofs.Numerals

namespace TileAtlas

namespace Text

/-! ### Casings -/

/-- The text is the word with some of its letters made capital. -/
def IsCasing (word s : String) : Prop :=
  List.Forall₂ (fun l c => c = l ∨ c = l.toUpper) word.toList s.toList

theorem toLower_eq_self {l : Char} (hl : l.isLower = true) : l.toLower = l :=
  Char.toLower_eq_of_not_isUpper (Char.not_isUpper_of_isLower hl)

/-- A small letter is reached from itself and from its capital, and from nothing else. -/
theorem toLower_eq_iff {l c : Char} (hl : l.isLower = true) :
    c.toLower = l ↔ c = l ∨ c = l.toUpper := by
  constructor
  · intro h
    by_cases hc : c.isUpper = true
    · right
      rw [← h, Char.toUpper_toLower_eq_toUpper,
        Char.toUpper_eq_of_not_isLower (Char.not_isLower_of_isUpper hc)]
    · exact .inl ((Char.toLower_eq_of_not_isUpper hc).symm.trans h)
  · rintro (rfl | rfl)
    · exact toLower_eq_self hl
    · rw [Char.toLower_toUpper_eq_toLower, toLower_eq_self hl]

/-- The texts that differ from a word of small letters in case only are its casings. -/
theorem lowerAscii_eq_iff {word s : String} (hword : ∀ l ∈ word.toList, l.isLower = true) :
    lowerAscii s = lowerAscii word ↔ IsCasing word s := by
  unfold IsCasing lowerAscii
  rw [← String.toList_inj, String.toList_map, String.toList_map]
  generalize s.toList = cs
  generalize word.toList = ls at hword
  induction ls generalizing cs with
  | nil => simp
  | cons l ls ih =>
      have hl := hword l List.mem_cons_self
      cases cs with
      | nil => simp
      | cons c cs =>
          rw [List.map_cons, List.map_cons, List.cons.injEq, toLower_eq_self hl,
            toLower_eq_iff hl, ih cs fun k hk => hword k (List.mem_cons_of_mem l hk),
            List.forall₂_cons]

/-- A dot is no letter. -/
theorem IsCasing.dot_notMem {word s : String} (hword : ∀ l ∈ word.toList, l.isLower = true)
    (h : IsCasing word s) : '.' ∉ s.toList := by
  intro hdot
  have hlower : '.' ∈ (lowerAscii s).toList := by
    rw [lowerAscii, String.toList_map]
    exact List.mem_map.mpr ⟨'.', hdot, by decide⟩
  rw [(lowerAscii_eq_iff hword).mpr h, lowerAscii, String.toList_map] at hlower
  obtain ⟨l, hl, hlower⟩ := List.mem_map.mp hlower
  rw [toLower_eq_self (hword l hl)] at hlower
  exact absurd (hword l hl) (by rw [hlower]; decide)

/-! ### Fields around a separator -/

/-- A slash between two texts keeps their fields apart. -/
theorem fields_append_slash (a b : String) :
    fields '/' (a ++ "/" ++ b) = fields '/' a ++ fields '/' b := by
  have hchars : (a ++ "/" ++ b).toList = a.toList ++ '/' :: b.toList := by simp
  simp only [fields, hchars, fieldChars_eq_splitOn, List.splitOn_append_cons_self, List.map_append]

theorem fields_of_notMem {sep : Char} {s : String} (h : sep ∉ s.toList) : fields sep s = [s] := by
  rw [fields, fieldChars_eq_splitOn, List.splitOn_eq_singleton h]
  simp

theorem exists_fields_eq_cons (sep : Char) (s : String) :
    ∃ first rest, fields sep s = first :: rest := by
  obtain ⟨first, rest, h⟩ := exists_fieldChars_eq_cons sep s.toList
  exact ⟨String.ofList first, rest.map String.ofList, by rw [fields, h, List.map_cons]⟩

end Text

namespace Path

/-! ### Components -/

/-- A name that a directory can list: it is not empty, stays in the directory, and leads
nowhere else. -/
@[mk_iff]
structure IsEntryName (name : String) : Prop where
  ne_empty : name ≠ ""
  ne_here : name ≠ "."
  ne_up : name ≠ ".."
  slash_notMem : '/' ∉ name.toList

variable {m n name : String}

/-- The name of an entry is one component. -/
theorem IsEntryName.component?_eq (h : IsEntryName name) : component? name = some (.name name) := by
  unfold component?
  split
  · exact absurd rfl h.ne_empty
  · exact absurd rfl h.ne_here
  · exact absurd rfl h.ne_up
  · rfl

theorem components_eq {p : Path} {first : String} {rest : List String}
    (h : p.segments = first :: rest) :
    p.components =
      (if p.isAbsolute then [.root]
        else if first = "." then [.here]
        else (component? first).toList) ++ rest.filterMap component? := by
  unfold components
  rw [h]

theorem segments_append_slash (a b : String) :
    segments ⟨a ++ "/" ++ b⟩ = segments ⟨a⟩ ++ segments ⟨b⟩ :=
  Text.fields_append_slash a b

theorem segments_slash (a : String) : segments ⟨a ++ "/"⟩ = segments ⟨a⟩ ++ [""] := by
  have hempty : segments ⟨""⟩ = [""] := rfl
  simpa [hempty] using segments_append_slash a ""

theorem isAbsolute_append {a : String} (ha : a ≠ "") (b : String) :
    isAbsolute ⟨a ++ b⟩ = isAbsolute ⟨a⟩ := by
  unfold isAbsolute
  rw [String.toList_append, List.head?_append_of_ne_nil _ (by simpa using ha)]

/-- What follows a slash is a component of its own. -/
theorem components_append_slash (a : String) {b : String} (hb : '/' ∉ b.toList) :
    components ⟨a ++ "/" ++ b⟩ = components ⟨a ++ "/"⟩ ++ (component? b).toList := by
  obtain ⟨first, rest, ha⟩ := Text.exists_fields_eq_cons '/' a
  have hjoined : segments ⟨a ++ "/" ++ b⟩ = first :: (rest ++ [b]) := by
    rw [segments_append_slash, segments, ha, segments, Text.fields_of_notMem hb, List.cons_append]
  have hslash : segments ⟨a ++ "/"⟩ = first :: (rest ++ [""]) := by
    rw [segments_slash, segments, ha, List.cons_append]
  rw [components_eq hjoined, components_eq hslash, isAbsolute_append (by simp)]
  simp only [List.filterMap_append, List.append_assoc]
  rfl

/-- A slash at the end does not count. -/
theorem components_slash {a : String} (ha : a ≠ "") : components ⟨a ++ "/"⟩ = components ⟨a⟩ := by
  obtain ⟨first, rest, hsegments⟩ := Text.exists_fields_eq_cons '/' a
  have hslash : segments ⟨a ++ "/"⟩ = first :: (rest ++ [""]) := by
    rw [segments_slash, segments, hsegments, List.cons_append]
  rw [components_eq hslash, components_eq hsegments, isAbsolute_append ha]
  simp [component?]

theorem IsEntryName.isAbsolute_eq (h : IsEntryName name) : isAbsolute ⟨name⟩ = false := by
  refine beq_eq_false_iff_ne.mpr fun hhead => ?_
  exact h.slash_notMem (List.mem_of_head? hhead)

theorem IsEntryName.components_eq (h : IsEntryName name) : components ⟨name⟩ = [.name name] := by
  have hsegments : segments ⟨name⟩ = [name] := Text.fields_of_notMem h.slash_notMem
  rw [Path.components_eq hsegments, h.isAbsolute_eq, if_neg (by decide), if_neg h.ne_here,
    h.component?_eq]
  rfl

/-- The name of an entry is the last component of its path. -/
theorem components_join (dir : Path) (h : IsEntryName name) :
    (dir.join ⟨name⟩).components = dir.components ++ [.name name] := by
  obtain ⟨text⟩ := dir
  have happend (a : String) :
      components ⟨a ++ "/" ++ name⟩ = components ⟨a ++ "/"⟩ ++ [.name name] := by
    rw [components_append_slash a h.slash_notMem, h.component?_eq]
    rfl
  rw [join, h.isAbsolute_eq, if_neg (by decide)]
  by_cases hempty : text = ""
  · have hnone : components ⟨""⟩ = [] := by decide +kernel
    rw [if_pos hempty, h.components_eq, hempty, hnone, List.nil_append]
  · rw [if_neg hempty]
    split
    · rename_i hslash
      obtain ⟨cs, hcs⟩ := List.getLast?_eq_some_iff.mp hslash
      have htext : text = String.ofList cs ++ "/" := by
        rw [← String.toList_inj, hcs]
        simp
      rw [htext, happend]
    · rw [happend, components_slash hempty]

/-- An entry of a directory is the last component of its path, however the directory is spelled. -/
theorem fileName?_join (dir : Path) (h : IsEntryName name) :
    (dir.join ⟨name⟩).fileName? = some name := by
  rw [fileName?, components_join dir h, List.getLast?_concat]

/-! ### Order -/

/-- Paths below one directory compare as what follows the directory. -/
theorem compareComponents_append (cs as bs : List Component) :
    compareComponents (cs ++ as) (cs ++ bs) = compareComponents as bs := by
  induction cs with
  | nil => rfl
  | cons c cs ih =>
      rw [List.cons_append, List.cons_append, compareComponents, ih]
      simp [Std.ReflCmp.compare_self]

/-- The entries of a directory are ordered by their names. -/
theorem compare_join (dir : Path) (hm : IsEntryName m) (hn : IsEntryName n) :
    compare (dir.join ⟨m⟩) (dir.join ⟨n⟩) = compare m n := by
  change compareComponents _ _ = _
  rw [components_join dir hm, components_join dir hn, compareComponents_append]
  simp [compareComponents, Component.rank, Component.label]

/-! ### Extensions -/

/-- Read from its end, a name with a dot is cut at the last one. -/
theorem cut_at_dot {ext : List Char} (hext : '.' ∉ ext) (stem : List Char) :
    (ext ++ '.' :: stem).takeWhile (fun c => c != '.') = ext ∧
      (ext ++ '.' :: stem).dropWhile (fun c => c != '.') = '.' :: stem := by
  have hother : ∀ c ∈ ext, (c != '.') = true := by
    intro c hc
    exact bne_iff_ne.mpr (ne_of_mem_of_not_mem hc hext)
  rw [List.takeWhile_append_of_pos hother, List.dropWhile_append_of_pos hother]
  simp

/-- The extension is what follows the last dot of the name, where something stands before
that dot. -/
theorem extension?_eq_some_iff {p : Path} {ext : String} (hname : p.fileName? = some name) :
    p.extension? = some ext ↔
      '.' ∉ ext.toList ∧ ∃ stem, stem ≠ "" ∧ name = stem ++ "." ++ ext := by
  simp only [extension?, hname, Option.bind_some]
  constructor
  · intro h
    by_cases hdot : '.' ∈ name.toList.reverse
    · obtain ⟨back, stem, hname, hback⟩ := List.eq_append_cons_of_mem hdot
      obtain ⟨htake, hdrop⟩ := cut_at_dot hback stem
      rw [hname, htake, hdrop] at h
      cases stem with
      | nil => cases h
      | cons c cs =>
          cases h
          refine ⟨by simpa using hback, String.ofList (c :: cs).reverse, by simp, ?_⟩
          rw [← String.toList_inj, ← List.reverse_inj, hname]
          simp
    · have hdrop : name.toList.reverse.dropWhile (fun c => c != '.') = [] := by
        rw [List.dropWhile_eq_nil_iff]
        intro c hc
        exact bne_iff_ne.mpr (ne_of_mem_of_not_mem hc hdot)
      rw [hdrop] at h
      cases h
  · rintro ⟨hext, stem, hstem, rfl⟩
    have hname : (stem ++ "." ++ ext).toList.reverse =
        ext.toList.reverse ++ '.' :: stem.toList.reverse := by simp
    obtain ⟨htake, hdrop⟩ := cut_at_dot (mt List.mem_reverse.mp hext) stem.toList.reverse
    obtain ⟨c, cs, hcs⟩ : ∃ c cs, stem.toList.reverse = c :: cs :=
      List.exists_cons_of_ne_nil (by simpa using hstem)
    rw [hname, htake, hdrop, hcs]
    simp

/-- An entry has an extension of small letters, in any case, exactly if its name ends in a dot
and a casing of it, and does not start there. -/
theorem hasExtension_join_iff (dir : Path) (h : IsEntryName name) {word : String}
    (hword : ∀ l ∈ word.toList, l.isLower = true) :
    (dir.join ⟨name⟩).hasExtension word = true ↔
      ∃ stem ext, name = stem ++ "." ++ ext ∧ stem ≠ "" ∧ Text.IsCasing word ext := by
  simp only [hasExtension, Option.any_eq_true, beq_iff_eq, Text.lowerAscii_eq_iff hword,
    extension?_eq_some_iff (fileName?_join dir h)]
  constructor
  · rintro ⟨ext, ⟨-, stem, hstem, rfl⟩, hcasing⟩
    exact ⟨stem, ext, rfl, hstem, hcasing⟩
  · rintro ⟨stem, ext, rfl, hstem, hcasing⟩
    exact ⟨ext, ⟨hcasing.dot_notMem hword, stem, hstem, rfl⟩, hcasing⟩

end Path

end TileAtlas
