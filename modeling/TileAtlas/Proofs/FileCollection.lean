/-
The files that a check collects.

A directory stands for the tileset and map files directly in it. The system lists names in
whatever order it likes (`Disk.Relisted`), but each name once, and every name is that of an
entry (`Disk.WellListed`). Sorting the files by path is sorting them by name
(`filesIn_eq_map`), and names that compare equal are the same. So the files of a directory
come out strictly ascending (`pairwise_filesIn`) and the same for every listing
(`filesIn_congr`), and with them all files that a list of paths asks for. Files are not
opened here, so one that cannot be read is collected like any other. A directory that cannot
be listed ends the collection (`expand_of_unlisted`).
-/

import TileAtlas.Proofs.EntryPaths
import TileAtlas.Proofs.Fallible

namespace TileAtlas

namespace Disk

/-! ### Listings -/

/-- Names as a directory lists them: those of entries, each once. -/
structure IsListing (names : List String) : Prop where
  nodup : names.Nodup
  isEntryName : ∀ name ∈ names, Path.IsEntryName name

/-- Whether names list a directory does not depend on their order. -/
theorem IsListing.perm {names names' : List String} (h : IsListing names)
    (hperm : names.Perm names') : IsListing names' where
  nodup := hperm.nodup_iff.mp h.nodup
  isEntryName name hname := h.isEntryName name (hperm.mem_iff.mpr hname)

/-- **What is asked of a file system.** Whatever a directory lists is a listing. -/
def WellListed (d : Disk) : Prop :=
  ∀ path place names, d.find path = .ok ⟨place, .directory (.ok names)⟩ → IsListing names

/-- Answers to a look-up that differ at most in the order in which names are listed. -/
inductive SameAnswer : Except Error Found → Except Error Found → Prop where
  | refl (answer : Except Error Found) : SameAnswer answer answer
  | relisted (place : Path) {names names' : List String} : names.Perm names' →
      SameAnswer (.ok ⟨place, .directory (.ok names)⟩) (.ok ⟨place, .directory (.ok names')⟩)

/-- The same file system, with directories listed in any other order. -/
def Relisted (d d' : Disk) : Prop :=
  ∀ path, SameAnswer (d.find path) (d'.find path)

/-- A path at which there is no directory, or one that can be listed. -/
def Listable (d : Disk) (path : Path) : Prop :=
  d.isDirectory path = true → ∃ names, d.list path = .ok names

variable {d d' : Disk}

/-- A directory that is listed was found, with those names. -/
theorem find_of_list_eq_ok {path : Path} {names : List String} (h : d.list path = .ok names) :
    ∃ place, d.find path = .ok ⟨place, .directory (.ok names)⟩ := by
  unfold list at h
  split at h
  · rename_i place answer hfind
    rw [h] at hfind
    exact ⟨place, hfind⟩
  · cases h
  · cases h

namespace Relisted

/-- Relisting directories changes no path into a file or out of one. -/
theorem isFile_eq (h : d.Relisted d') (path : Path) : d'.isFile path = d.isFile path := by
  have hanswer := h path
  unfold isFile
  generalize d.find path = answer, d'.find path = answer' at hanswer
  cases hanswer <;> rfl

theorem isDirectory_eq (h : d.Relisted d') (path : Path) :
    d'.isDirectory path = d.isDirectory path := by
  have hanswer := h path
  unfold isDirectory
  generalize d.find path = answer, d'.find path = answer' at hanswer
  cases hanswer <;> rfl

/-- A directory that can be listed has the same names in it; one that cannot fails alike. -/
theorem list_eq (h : d.Relisted d') (path : Path) :
    d'.list path = d.list path ∨
      ∃ names names', names.Perm names' ∧ d.list path = .ok names ∧ d'.list path = .ok names' := by
  have hanswer := h path
  unfold list
  generalize d.find path = answer, d'.find path = answer' at hanswer
  cases hanswer with
  | refl => exact .inl rfl
  | relisted _ hperm => exact .inr ⟨_, _, hperm, rfl, rfl⟩

end Relisted

end Disk

namespace CommandLine

open Fallible

variable {d d' : Disk} {dir path : Path} {names names' : List String} {name : String}

/-! ### The files of a directory -/

/-- The name of a file that can be checked: it has the extension of a tileset or of a map, in
capital or small letters, and does not start with its dot. -/
def IsTileFileName (name : String) : Prop :=
  ∃ stem ext, name = stem ++ "." ++ ext ∧ stem ≠ "" ∧
    (Text.IsCasing "tsx" ext ∨ Text.IsCasing "tmx" ext)

/-- Whether the entry of a name is collected. -/
def isCollected (d : Disk) (dir : Path) (name : String) : Bool :=
  let file := dir.join ⟨name⟩
  d.isFile file && (file.hasExtension "tsx" || file.hasExtension "tmx")

/-- An entry is collected if it is a file, readable or not, whose name says tile file. -/
theorem isCollected_iff (h : Path.IsEntryName name) :
    isCollected d dir name = true ↔
      d.isFile (dir.join ⟨name⟩) = true ∧ IsTileFileName name := by
  have htsx : ∀ l ∈ "tsx".toList, l.isLower = true := by simp
  have htmx : ∀ l ∈ "tmx".toList, l.isLower = true := by simp
  rw [isCollected, Bool.and_eq_true, Bool.or_eq_true, Path.hasExtension_join_iff dir h htsx,
    Path.hasExtension_join_iff dir h htmx]
  refine and_congr_right fun _ => ?_
  constructor
  · rintro (⟨stem, ext, rfl, hstem, hcasing⟩ | ⟨stem, ext, rfl, hstem, hcasing⟩)
    · exact ⟨stem, ext, rfl, hstem, .inl hcasing⟩
    · exact ⟨stem, ext, rfl, hstem, .inr hcasing⟩
  · rintro ⟨stem, ext, rfl, hstem, hcasing | hcasing⟩
    · exact .inl ⟨stem, ext, rfl, hstem, hcasing⟩
    · exact .inr ⟨stem, ext, rfl, hstem, hcasing⟩

/-- Names in ascending order. -/
def sortNames (names : List String) : List String :=
  names.mergeSort fun m n => (compare m n).isLE

theorem mem_sortNames : name ∈ sortNames names ↔ name ∈ names :=
  List.mem_mergeSort

/-- Names that are listed once are in strictly ascending order once sorted. -/
theorem pairwise_sortNames (hnodup : names.Nodup) :
    (sortNames names).Pairwise fun m n => compare m n = .lt := by
  have hsorted : (sortNames names).Pairwise fun m n => (compare m n).isLE = true := by
    refine List.pairwise_mergeSort ?_ ?_ names
    · intro l m n hlm hmn
      exact Std.TransCmp.isLE_trans hlm hmn
    · intro m n
      have hswap : compare n m = (compare m n).swap := Std.OrientedCmp.eq_swap
      rw [hswap]
      cases compare m n <;> rfl
  have hnodup' : (sortNames names).Nodup := (List.mergeSort_perm names _).nodup_iff.mpr hnodup
  refine (hsorted.and hnodup').imp ?_
  rintro m n ⟨hle, hne⟩
  cases hcompare : compare m n with
  | lt => rfl
  | eq => exact absurd (Std.LawfulEqOrd.compare_eq_iff_eq.mp hcompare) hne
  | gt =>
      rw [hcompare] at hle
      cases hle

/-- Sorted names do not depend on the order in which they were listed. -/
theorem sortNames_congr (hnodup : names.Nodup) (hperm : names.Perm names') :
    sortNames names' = sortNames names := by
  have hsorted : (sortNames names').Perm (sortNames names) :=
    (List.mergeSort_perm names' _).trans (hperm.symm.trans (List.mergeSort_perm names _).symm)
  refine hsorted.eq_of_pairwise ?_ (pairwise_sortNames (hperm.nodup_iff.mp hnodup))
    (pairwise_sortNames hnodup)
  intro m n _ _ hmn hnm
  cases (Std.OrientedCmp.gt_iff_lt.mpr hnm).symm.trans hmn

/-- Sorting the files of a directory is sorting their names. -/
theorem filesIn_eq_map (h : Disk.IsListing names) :
    filesIn d dir names =
      (sortNames (names.filter (isCollected d dir))).map fun name => dir.join ⟨name⟩ := by
  unfold filesIn sortNames
  rw [List.map_mergeSort, List.filter_map]
  · rfl
  · intro m hm n hn
    rw [Path.compare_join dir (h.isEntryName m (List.mem_filter.mp hm).1)
      (h.isEntryName n (List.mem_filter.mp hn).1)]

/-- The files of a directory are its entries that are files of the right name. -/
theorem mem_filesIn_iff (h : Disk.IsListing names) {file : Path} :
    file ∈ filesIn d dir names ↔
      ∃ name ∈ names, file = dir.join ⟨name⟩ ∧ d.isFile file = true ∧ IsTileFileName name := by
  simp only [filesIn_eq_map h, List.mem_map, mem_sortNames, List.mem_filter]
  constructor
  · rintro ⟨name, ⟨hname, hcollected⟩, rfl⟩
    exact ⟨name, hname, rfl, (isCollected_iff (h.isEntryName name hname)).mp hcollected⟩
  · rintro ⟨name, hname, rfl, hfile⟩
    exact ⟨name, ⟨hname, (isCollected_iff (h.isEntryName name hname)).mpr hfile⟩, rfl⟩

/-- The files of a directory come out in strictly ascending order. -/
theorem pairwise_filesIn (h : Disk.IsListing names) :
    (filesIn d dir names).Pairwise fun p q => compare p q = .lt := by
  have hentry : ∀ name ∈ sortNames (names.filter (isCollected d dir)), Path.IsEntryName name :=
    fun name hname => h.isEntryName name (List.mem_filter.mp (mem_sortNames.mp hname)).1
  rw [filesIn_eq_map h, List.pairwise_map]
  refine (pairwise_sortNames (h.nodup.filter _)).imp_of_mem ?_
  intro m n hm hn hlt
  rw [Path.compare_join dir (hentry m hm) (hentry n hn), hlt]

/-- The files of a directory do not depend on the order in which it is listed. -/
theorem filesIn_congr (h : Disk.IsListing names) (hsame : d.Relisted d')
    (hperm : names.Perm names') : filesIn d' dir names' = filesIn d dir names := by
  have hcollected : isCollected d' dir = isCollected d dir := by
    funext name
    simp only [isCollected, hsame.isFile_eq]
  rw [filesIn_eq_map (h.perm hperm), filesIn_eq_map h, hcollected,
    sortNames_congr (h.nodup.filter _) (hperm.filter _)]

/-! ### The files of a list of paths -/

/-- **What a path asks for.** A path that is no directory asks for itself. A directory asks for
the files directly in it that can be checked, all of them and each once, in strictly
ascending order. -/
inductive Expansion (d : Disk) (path : Path) : List Path → Prop where
  | self : d.isDirectory path = false → Expansion d path [path]
  | directory {names : List String} {files : List Path} :
      d.isDirectory path = true → d.list path = .ok names →
      files.Pairwise (fun p q => compare p q = .lt) →
      (∀ file, file ∈ files ↔
        ∃ name ∈ names, file = path.join ⟨name⟩ ∧ d.isFile file = true ∧ IsTileFileName name) →
      Expansion d path files

/-- A path that is no directory stands for itself, whether or not it exists. -/
theorem expand_of_not_directory (h : d.isDirectory path = false) : expand d path = .ok [path] := by
  simp [expand, h]

/-- A directory that is listed stands for its tile files. -/
theorem expand_of_listed (h : d.isDirectory path = true) (hlist : d.list path = .ok names) :
    expand d path = .ok (filesIn d path names) := by
  simp [expand, h, hlist]

/-- A directory that cannot be listed is an error, with the directory's path. -/
theorem expand_of_unlisted {cause : Disk.Error} (h : d.isDirectory path = true)
    (hlist : d.list path = .error cause) : expand d path = .error (.file path cause) := by
  simp [expand, h, hlist]

/-- A path expands alike, however directories are listed. -/
theorem expand_relisted (hlisted : d.WellListed) (hsame : d.Relisted d') (path : Path) :
    expand d' path = expand d path := by
  have hdirectory' := hsame.isDirectory_eq path
  cases hdirectory : d.isDirectory path with
  | false =>
      rw [hdirectory] at hdirectory'
      rw [expand_of_not_directory hdirectory, expand_of_not_directory hdirectory']
  | true =>
      rw [hdirectory] at hdirectory'
      cases hlist : d.list path with
      | error cause =>
          have hlist' : d'.list path = .error cause := by
            rcases hsame.list_eq path with heq | ⟨_, _, -, hok, -⟩
            · rw [heq, hlist]
            · cases hlist.symm.trans hok
          rw [expand_of_unlisted hdirectory hlist, expand_of_unlisted hdirectory' hlist']
      | ok names =>
          obtain ⟨place, hfind⟩ := Disk.find_of_list_eq_ok hlist
          have hlisting := hlisted path place names hfind
          obtain ⟨names', hperm, hlist'⟩ :
              ∃ names', names.Perm names' ∧ d'.list path = .ok names' := by
            rcases hsame.list_eq path with heq | ⟨_, names', hperm, hok, hok'⟩
            · exact ⟨names, .refl names, heq.trans hlist⟩
            · cases hlist.symm.trans hok
              exact ⟨names', hperm, hok'⟩
          rw [expand_of_listed hdirectory hlist, expand_of_listed hdirectory' hlist',
            filesIn_congr hlisting hsame hperm]

/-- A path that can be expanded is expanded to what it asks for. -/
theorem exists_expansion (hlisted : d.WellListed) (h : d.Listable path) :
    ∃ files, Expansion d path files ∧ expand d path = .ok files := by
  cases hdirectory : d.isDirectory path with
  | false => exact ⟨[path], .self hdirectory, expand_of_not_directory hdirectory⟩
  | true =>
      obtain ⟨names, hlist⟩ := h hdirectory
      obtain ⟨place, hfind⟩ := Disk.find_of_list_eq_ok hlist
      have hlisting := hlisted path place names hfind
      exact ⟨filesIn d path names, .directory hdirectory hlist (pairwise_filesIn hlisting)
        (fun file => mem_filesIn_iff hlisting), expand_of_listed hdirectory hlist⟩

/-- Paths that can all be expanded give their files one after another. -/
theorem collectFiles_of_forall₂ {paths : List Path} {parts : List (List Path)}
    (h : List.Forall₂ (fun path files => expand d path = .ok files) paths parts) :
    collectFiles d paths = .ok parts.flatten :=
  map_eq_ok_iff.mpr ⟨parts, mapM_eq_ok_iff.mpr h, rfl⟩

/-- Where every directory can be listed the collection succeeds, part by part. -/
theorem exists_parts (hlisted : d.WellListed) {paths : List Path}
    (h : ∀ path ∈ paths, d.Listable path) :
    ∃ parts, List.Forall₂ (Expansion d) paths parts ∧ collectFiles d paths = .ok parts.flatten := by
  choose! files hexpansion hfiles using fun path hpath => exists_expansion hlisted (h path hpath)
  refine ⟨paths.map files, ?_, collectFiles_of_forall₂ ?_⟩
  · exact List.forall₂_map_right_iff.mpr (List.forall₂_same.mpr hexpansion)
  · exact List.forall₂_map_right_iff.mpr (List.forall₂_same.mpr hfiles)

/-- The first directory that cannot be listed ends the collection. -/
theorem collectFiles_of_unlisted (hlisted : d.WellListed) {before after : List Path}
    {cause : Disk.Error} (hbefore : ∀ p ∈ before, d.Listable p)
    (hdirectory : d.isDirectory path = true) (hlist : d.list path = .error cause) :
    collectFiles d (before ++ path :: after) = .error (.file path cause) := by
  refine map_eq_error_iff.mpr (mapM_eq_error_iff.mpr ⟨before, path, after, rfl, ?_, ?_⟩)
  · intro p hp
    obtain ⟨files, -, hfiles⟩ := exists_expansion hlisted (hbefore p hp)
    exact ⟨files, hfiles⟩
  · exact expand_of_unlisted hdirectory hlist

/-- **The files of a check do not depend on the order in which directories are listed.** From
a file system, and from the same one with directories listed in any other order, the same
comes out. If all directories among the paths can be listed, these are the files that the
paths ask for, in the order of the paths. Otherwise it is the failure to list the first
directory that cannot be listed. -/
theorem collectFiles_relisted (hlisted : d.WellListed) (hsame : d.Relisted d')
    (paths : List Path) :
    collectFiles d' paths = collectFiles d paths ∧
      ((∀ path ∈ paths, d.Listable path) →
        ∃ parts, List.Forall₂ (Expansion d) paths parts ∧
          collectFiles d paths = .ok parts.flatten) ∧
      ∀ before path after cause, paths = before ++ path :: after →
        (∀ p ∈ before, d.Listable p) → d.isDirectory path = true →
        d.list path = .error cause → collectFiles d paths = .error (.file path cause) := by
  refine ⟨?_, exists_parts hlisted, ?_⟩
  · rw [collectFiles, collectFiles, funext (expand_relisted hlisted hsame)]
  · rintro before path after cause rfl hbefore hdirectory hlist
    exact collectFiles_of_unlisted hlisted hbefore hdirectory hlist

/-- The names in a directory of maps, ascending. -/
def atticNames : List String :=
  [".tsx", "a.TMX", "b.tsx", "notes.txt", "old.tmx"]

/-- A file system with a directory of maps, listed in some order. No file in it can be read,
and one of its names is that of a directory that cannot be listed. -/
def attic (names : List String) : Disk where
  find path :=
    if path = ⟨"maps"⟩ then .ok ⟨path, .directory (.ok names)⟩
    else if path = ⟨"maps/old.tmx"⟩ then .ok ⟨path, .directory (.error .denied)⟩
    else if atticNames.any (fun name => path = ⟨"maps/" ++ name⟩) then
      .ok ⟨path, .file (.error .denied)⟩
    else .error .notFound

theorem isListing_atticNames : Disk.IsListing atticNames where
  nodup := by decide
  isEntryName := by simp [atticNames, Path.isEntryName_iff]

theorem wellListed_attic : (attic atticNames).WellListed := by
  intro path place names hfind
  unfold attic at hfind
  simp only at hfind
  split at hfind
  · cases hfind
    exact isListing_atticNames
  · split at hfind
    · cases hfind
    · split at hfind <;> cases hfind

theorem relisted_attic {names : List String} (hperm : atticNames.Perm names) :
    (attic atticNames).Relisted (attic names) := by
  intro path
  unfold attic
  simp only
  split
  · exact .relisted path hperm
  · exact .refl _

theorem filter_isCollected_attic :
    atticNames.filter (isCollected (attic atticNames) ⟨"maps"⟩) = ["a.TMX", "b.tsx"] := by
  have hhidden : isCollected (attic atticNames) ⟨"maps"⟩ ".tsx" = false := by decide +kernel
  have hmap : isCollected (attic atticNames) ⟨"maps"⟩ "a.TMX" = true :=
    (isCollected_iff (isListing_atticNames.isEntryName _ (by decide))).mpr
      ⟨by decide +kernel, "a", "TMX", rfl, by decide, .inr (by simp [Text.IsCasing])⟩
  have hset : isCollected (attic atticNames) ⟨"maps"⟩ "b.tsx" = true := by decide +kernel
  have hnotes : isCollected (attic atticNames) ⟨"maps"⟩ "notes.txt" = false := by decide +kernel
  have hold : isCollected (attic atticNames) ⟨"maps"⟩ "old.tmx" = false := by decide +kernel
  generalize isCollected (attic atticNames) ⟨"maps"⟩ = collected at *
  simp [atticNames, hhidden, hmap, hset, hnotes, hold]

theorem expand_attic :
    expand (attic atticNames) ⟨"maps"⟩ = .ok [⟨"maps/a.TMX"⟩, ⟨"maps/b.tsx"⟩] := by
  have hdirectory : (attic atticNames).isDirectory ⟨"maps"⟩ = true := by decide +kernel
  have hsorted : sortNames ["a.TMX", "b.tsx"] = ["a.TMX", "b.tsx"] :=
    List.mergeSort_of_pairwise (by decide +kernel)
  rw [expand_of_listed hdirectory rfl, filesIn_eq_map isListing_atticNames,
    filter_isCollected_attic, hsorted]
  decide +kernel

/-- Of five names, two are those of files that can be checked. They are collected in order
from a listing the other way round, too. The directory that cannot be listed fails. -/
theorem attic_files :
    (attic atticNames).WellListed ∧ (attic atticNames).Relisted (attic atticNames.reverse) ∧
      collectFiles (attic atticNames.reverse) [⟨"maps"⟩, ⟨"x.tsx"⟩] =
        .ok [⟨"maps/a.TMX"⟩, ⟨"maps/b.tsx"⟩, ⟨"x.tsx"⟩] ∧
      collectFiles (attic atticNames.reverse) [⟨"x.tsx"⟩, ⟨"maps/old.tmx"⟩] =
        .error (.file ⟨"maps/old.tmx"⟩ .denied) := by
  have hsame := relisted_attic (List.reverse_perm atticNames).symm
  have hother : (attic atticNames).isDirectory ⟨"x.tsx"⟩ = false := by decide +kernel
  have hold : (attic atticNames).isDirectory ⟨"maps/old.tmx"⟩ = true := by decide +kernel
  refine ⟨wellListed_attic, hsame, ?_, ?_⟩
  · obtain ⟨hsameFiles, -, -⟩ :=
      collectFiles_relisted wellListed_attic hsame [⟨"maps"⟩, ⟨"x.tsx"⟩]
    rw [hsameFiles]
    exact collectFiles_of_forall₂
      (.cons expand_attic (.cons (expand_of_not_directory hother) .nil))
  · obtain ⟨hsameFiles, -, hfailure⟩ :=
      collectFiles_relisted wellListed_attic hsame [⟨"x.tsx"⟩, ⟨"maps/old.tmx"⟩]
    rw [hsameFiles]
    refine hfailure [⟨"x.tsx"⟩] ⟨"maps/old.tmx"⟩ [] .denied rfl ?_ hold rfl
    intro p hp
    cases List.mem_singleton.mp hp
    intro hdirectory
    cases hother.symm.trans hdirectory

end CommandLine

end TileAtlas
