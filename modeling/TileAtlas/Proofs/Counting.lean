/-
What a check of several files counts.

A summary counts errors, warnings and files that could not be read, and passes if nothing
of what it is blamed for was counted. All of these are meters: they add up over reports
and files (`summarize_eq`). Over a run, a meter counts what belongs to each file
alone, and each tileset file once, however many paths lead to it. `Accounted` says this
of one step, `Accounted.trans` puts steps together, and `total_checkFiles` says it of a
whole run.
-/

import Mathlib
import TileAtlas.CommandLine.Validate
import TileAtlas.Proofs.Loading
import TileAtlas.Proofs.Report

namespace TileAtlas.CommandLine

open Document

/-! ### Meters -/

/-- What is counted: findings of some severities, and so much for a file that is not read. -/
structure Meter where
  counts : Severity → Bool
  unread : Nat

namespace Meter

def report (m : Meter) (r : Report) : Nat :=
  (Report.severities r.issues).countP m.counts

def result (m : Meter) : Read Report → Nat
  | .ok r => m.report r
  | .error _ => m.unread

def total (m : Meter) (results : List (Path × Read Report)) : Nat :=
  (results.map fun r => m.result r.2).sum

def errors : Meter := ⟨fun s => s == .error, 0⟩

def warnings : Meter := ⟨fun s => !(s == .error), 0⟩

def failedLoads : Meter := ⟨fun _ => false, 1⟩

/-- Counts whatever keeps a check from passing. -/
def blame (denyWarnings : Bool) : Meter := ⟨fun s => s == .error || denyWarnings, 1⟩

@[simp] theorem report_merge (m : Meter) (r s : Report) :
    m.report (r.merge s) = m.report r + m.report s := by
  unfold report Report.merge
  rw [Report.severities_append, List.countP_append]

/-- A report passes exactly if there is nothing in it to blame. -/
theorem report_blame_eq_zero_iff {denyWarnings : Bool} {r : Report} :
    (blame denyWarnings).report r = 0 ↔ r.passes denyWarnings = true := by
  rw [Report.passes_iff, Report.length_errors_eq_countP, Report.length_warnings_eq_countP]
  unfold report blame
  simp only [List.countP_eq_zero]
  cases denyWarnings with
  | false => simp
  | true =>
      simp only [Bool.or_true, forall_const, Bool.not_eq_true', Bool.not_eq_false]
      constructor
      · intro hnone
        exact ⟨fun s hs => absurd trivial (hnone s hs), fun s hs => absurd trivial (hnone s hs)⟩
      · rintro ⟨herrors, hwarnings⟩ s hs
        exact absurd (hwarnings s hs) (herrors s hs)

/-- A meter counts the findings, and each file that is not read. -/
theorem total_eq (m : Meter) (results : List (Path × Read Report)) :
    m.total results =
      m.report (allFindings results) + m.unread * (loadFailures results).length := by
  induction results with
  | nil => rfl
  | cons r results ih =>
      obtain ⟨path, result⟩ := r
      have hcons : m.total ((path, result) :: results) = m.result result + m.total results := rfl
      rw [hcons, ih]
      cases result with
      | error e =>
          have hfindings : allFindings ((path, .error e) :: results) = allFindings results := rfl
          have hfailures : (loadFailures ((path, .error e) :: results)).length =
              (loadFailures results).length + 1 := rfl
          rw [hfindings, hfailures, result, Nat.mul_succ]
          omega
      | ok report =>
          have hfindings : allFindings ((path, .ok report) :: results) =
              report.merge (allFindings results) := rfl
          have hfailures : loadFailures ((path, .ok report) :: results) = loadFailures results :=
            rfl
          rw [hfindings, hfailures, result, report_merge, Nat.add_assoc]

end Meter

/-- **A summary reads its meters.** It passes if there is nothing to blame. -/
theorem summarize_eq (denyWarnings : Bool) (results : List (Path × Read Report)) :
    summarize denyWarnings results =
      { files := results.length,
        errors := Meter.errors.total results,
        warnings := Meter.warnings.total results,
        failedLoads := Meter.failedLoads.total results,
        passed := (Meter.blame denyWarnings).total results == 0 } := by
  have herrors : (allFindings results).errors.length = Meter.errors.total results := by
    rw [Meter.total_eq, Report.length_errors_eq_countP]
    simp [Meter.report, Meter.errors]
  have hwarnings : (allFindings results).warnings.length = Meter.warnings.total results := by
    rw [Meter.total_eq, Report.length_warnings_eq_countP]
    simp [Meter.report, Meter.warnings]
  have hfailed : (loadFailures results).length = Meter.failedLoads.total results := by
    rw [Meter.total_eq]
    simp [Meter.report, Meter.failedLoads]
  have hpassed : ((loadFailures results).length == 0 && (allFindings results).passes denyWarnings) =
      ((Meter.blame denyWarnings).total results == 0) := by
    rw [Bool.eq_iff_iff, Bool.and_eq_true, beq_iff_eq, beq_iff_eq, Meter.total_eq,
      ← Meter.report_blame_eq_zero_iff]
    simp only [Meter.blame]
    omega
  rw [← herrors, ← hwarnings, ← hpassed, ← hfailed]
  rfl

/-! ### Keys -/

/-- What tileset files are told apart by: the steps of the canonical place. -/
def key (d : Disk) (path : Path) : List Path.Component :=
  (d.place path).components

def keysOf (d : Disk) (paths : List Path) : Finset (List Path.Component) :=
  (paths.map (key d)).toFinset

@[simp] theorem keysOf_nil (d : Disk) : keysOf d [] = ∅ := rfl

theorem keysOf_cons (d : Disk) (path : Path) (paths : List Path) :
    keysOf d (path :: paths) = {key d path} ∪ keysOf d paths := by
  unfold keysOf
  rw [List.map_cons, List.toFinset_cons, Finset.insert_eq]

theorem keysOf_append (d : Disk) (paths paths' : List Path) :
    keysOf d (paths ++ paths') = keysOf d paths ∪ keysOf d paths' := by
  unfold keysOf
  rw [List.map_append, List.toFinset_append]

theorem mem_keysOf {d : Disk} {paths : List Path} {k : List Path.Component} :
    k ∈ keysOf d paths ↔ ∃ path ∈ paths, key d path = k := by
  unfold keysOf
  rw [List.mem_toFinset, List.mem_map]

namespace Checked

def keys (checked : Checked) : Finset (List Path.Component) :=
  (checked.map Path.components).toFinset

@[simp] theorem keys_nil : keys [] = ∅ := rfl

theorem keys_cons (place : Path) (checked : Checked) :
    keys (place :: checked) = {place.components} ∪ checked.keys := by
  unfold keys
  rw [List.map_cons, List.toFinset_cons, Finset.insert_eq]

/-- A place counts as checked if its components are among the keys. -/
theorem has_iff {checked : Checked} {place : Path} :
    checked.has place = true ↔ place.components ∈ checked.keys := by
  unfold has keys Path.same
  simp only [List.any_eq_true, beq_iff_eq, List.mem_toFinset, List.mem_map]

theorem has_eq_false_iff {checked : Checked} {place : Path} :
    checked.has place = false ↔ place.components ∉ checked.keys := by
  rw [← has_iff, Bool.not_eq_true]

end Checked

/-! ### Steps -/

/-- A step counts `own`, and of the tilesets it comes to those that were not met before,
each by its weight. Afterwards all of them are met. -/
structure Accounted (weight : List Path.Component → Nat) (checked : Checked)
    (met : Finset (List Path.Component)) (own count : Nat) (after : Checked) : Prop where
  keys : after.keys = checked.keys ∪ met
  count : count = own + ∑ k ∈ met \ checked.keys, weight k

namespace Accounted

variable {weight : List Path.Component → Nat} {checked mid after : Checked}
  {met₁ met₂ : Finset (List Path.Component)} {own₁ own₂ count₁ count₂ : Nat}

/-- A step that comes to no tileset file. -/
theorem of_own (weight : List Path.Component → Nat) (checked : Checked) (own : Nat) :
    Accounted weight checked ∅ own own checked where
  keys := (Finset.union_empty _).symm
  count := by rw [Finset.empty_sdiff, Finset.sum_empty, Nat.add_zero]

/-- A tileset that was met before counts nothing. -/
theorem of_mem (weight : List Path.Component → Nat) {k : List Path.Component}
    (hmem : k ∈ checked.keys) : Accounted weight checked {k} 0 0 checked where
  keys := (Finset.union_eq_left.mpr (Finset.singleton_subset_iff.mpr hmem)).symm
  count := by
    rw [Finset.sdiff_eq_empty_iff_subset.mpr (Finset.singleton_subset_iff.mpr hmem),
      Finset.sum_empty, Nat.add_zero]

/-- A tileset that was not met before counts its weight. -/
theorem of_notMem (weight : List Path.Component → Nat) {place : Path}
    (hnew : place.components ∉ checked.keys) :
    Accounted weight checked {place.components} 0 (weight place.components)
      (place :: checked) where
  keys := by rw [Checked.keys_cons, Finset.union_comm]
  count := by
    rw [Finset.sdiff_eq_self_of_disjoint (Finset.disjoint_singleton_left.mpr hnew),
      Finset.sum_singleton, Nat.zero_add]

/-- **Steps add up.** What the second step counts is new after the first, so together
they count each tileset that was not met before once. -/
theorem trans (hfirst : Accounted weight checked met₁ own₁ count₁ mid)
    (hsecond : Accounted weight mid met₂ own₂ count₂ after) :
    Accounted weight checked (met₁ ∪ met₂) (own₁ + own₂) (count₁ + count₂) after where
  keys := by rw [hsecond.keys, hfirst.keys, Finset.union_assoc]
  count := by
    have hsplit : (met₁ ∪ met₂) \ checked.keys =
        (met₁ \ checked.keys) ∪ (met₂ \ (checked.keys ∪ met₁)) := by
      ext k
      simp only [Finset.mem_sdiff, Finset.mem_union]
      tauto
    have hdisjoint : Disjoint (met₁ \ checked.keys) (met₂ \ (checked.keys ∪ met₁)) := by
      refine Finset.disjoint_left.mpr fun k hk hk' => ?_
      exact (Finset.mem_sdiff.mp hk').2 (Finset.mem_union_right _ (Finset.mem_sdiff.mp hk).1)
    rw [hsplit, Finset.sum_union hdisjoint, hfirst.count, hsecond.count, hfirst.keys]
    omega

end Accounted

/-! ### What a file counts -/

section Files

variable (m : Meter) (d : Disk) (options : Check.Options)

/-- What a tileset file counts when it is checked. -/
def tilesetCount (path : Path) : Nat :=
  m.result ((d.loadTileset path).map fun doc => Check.tileset d doc options)

def embeddedCount (docs : List TilesetDocument) : Nat :=
  ((docs.filter fun doc => doc.path.isNone).map fun doc =>
    m.report (Check.tileset d doc options)).sum

/-- What a file counts apart from the tileset files it leads to. -/
def ownCount (file : Path) : Nat :=
  if file.hasExtension "tmx" then
    match d.loadMapWithTilesets file with
    | .error _ => m.unread
    | .ok loaded =>
      m.report (Check.map file.text loaded) + embeddedCount m d options loaded.tilesets
  else 0

/-- The tileset files that a file leads to: those that a map refers to, or itself. -/
def tilesetPaths (file : Path) : List Path :=
  if file.hasExtension "tmx" then
    match d.loadMapWithTilesets file with
    | .error _ => []
    | .ok loaded => loaded.tilesets.filterMap (·.path)
  else [file]

variable {m d options} {weight : List Path.Component → Nat}

/-- An embedded tileset is checked each time and remembered never. -/
theorem checkDocuments_cons_embedded {doc : TilesetDocument} (hpath : doc.path = none)
    (checked : Checked) (docs : List TilesetDocument) :
    checkDocuments d options checked (doc :: docs) =
      ((Check.tileset d doc options).merge (checkDocuments d options checked docs).1,
        (checkDocuments d options checked docs).2) := by
  simp [checkDocuments, hpath]

/-- An external tileset that was checked before adds nothing. -/
theorem checkDocuments_cons_seen {doc : TilesetDocument} {path : Path} {checked : Checked}
    (hpath : doc.path = some path) (hseen : checked.has (d.place path) = true)
    (docs : List TilesetDocument) :
    checkDocuments d options checked (doc :: docs) = checkDocuments d options checked docs := by
  simp [checkDocuments, hpath, hseen]

/-- An external tileset met for the first time is checked, and its place is remembered. -/
theorem checkDocuments_cons_new {doc : TilesetDocument} {path : Path} {checked : Checked}
    (hpath : doc.path = some path) (hnew : checked.has (d.place path) = false)
    (docs : List TilesetDocument) :
    checkDocuments d options checked (doc :: docs) =
      ((Check.tileset d doc options).merge
          (checkDocuments d options (d.place path :: checked) docs).1,
        (checkDocuments d options (d.place path :: checked) docs).2) := by
  simp [checkDocuments, hpath, hnew]

/-- The documents of a map: embedded ones always count, the others by their file. -/
theorem accounted_checkDocuments {docs : List TilesetDocument}
    (hweight : ∀ doc ∈ docs, ∀ path, doc.path = some path →
      m.report (Check.tileset d doc options) = weight (key d path)) (checked : Checked) :
    Accounted weight checked (keysOf d (docs.filterMap (·.path))) (embeddedCount m d options docs)
      (m.report (checkDocuments d options checked docs).1)
      (checkDocuments d options checked docs).2 := by
  induction docs generalizing checked with
  | nil => exact .of_own weight checked 0
  | cons doc docs ih =>
      have hrest := ih fun doc' hdoc' => hweight doc' (List.mem_cons_of_mem _ hdoc')
      cases hpath : doc.path with
      | none =>
          have hembedded : embeddedCount m d options (doc :: docs) =
              m.report (Check.tileset d doc options) + embeddedCount m d options docs := by
            simp [embeddedCount, hpath]
          have hstep := (Accounted.of_own weight checked
            (m.report (Check.tileset d doc options))).trans (hrest checked)
          rw [Finset.empty_union] at hstep
          rw [List.filterMap_cons_none hpath, hembedded, checkDocuments_cons_embedded hpath,
            Meter.report_merge]
          exact hstep
      | some path =>
          have hembedded : embeddedCount m d options (doc :: docs) =
              0 + embeddedCount m d options docs := by
            simp [embeddedCount, hpath]
          rw [List.filterMap_cons_some hpath, keysOf_cons, hembedded]
          -- A document with a path adds nothing of its own, only the weight of its key.
          cases hseen : checked.has (d.place path) with
          | true =>
              have hstep := (Accounted.of_mem weight (Checked.has_iff.mp hseen)).trans (hrest checked)
              rw [Nat.zero_add (m.report _)] at hstep
              rw [checkDocuments_cons_seen hpath hseen]
              exact hstep
          | false =>
              have hnew := Checked.has_eq_false_iff.mp hseen
              have hstep := (Accounted.of_notMem weight hnew).trans (hrest (d.place path :: checked))
              rw [checkDocuments_cons_new hpath hseen, Meter.report_merge,
                hweight doc List.mem_cons_self path hpath]
              exact hstep

/-- One file: its key is checked now, and its weight is counted unless it was checked before. -/
theorem accounted_checkTilesetFile {path : Path}
    (hweight : tilesetCount m d options path = weight (key d path)) (checked : Checked) :
    Accounted weight checked {key d path} 0
      (m.result (checkTilesetFile d options checked path).1)
      (checkTilesetFile d options checked path).2 := by
  unfold checkTilesetFile
  cases hseen : checked.has (d.place path) with
  | true =>
      simp only [hseen, if_true]
      exact .of_mem weight (Checked.has_iff.mp hseen)
  | false =>
      simp only [hseen, Bool.false_eq_true, if_false]
      have hstep := Accounted.of_notMem weight (Checked.has_eq_false_iff.mp hseen)
      rw [← key, ← hweight] at hstep
      exact hstep

/-- One map: its own findings and those of its embedded tilesets count always, each external
tileset counts once. -/
theorem accounted_checkMapFile {file : Path} {loaded : LoadedMap}
    (hload : d.loadMapWithTilesets file = .ok loaded)
    (hweight : ∀ path ∈ loaded.tilesets.filterMap (·.path),
      tilesetCount m d options path = weight (key d path)) (checked : Checked) :
    Accounted weight checked (keysOf d (loaded.tilesets.filterMap (·.path)))
      (m.report (Check.map file.text loaded) + embeddedCount m d options loaded.tilesets)
      (m.result (checkMapFile d options checked file).1)
      (checkMapFile d options checked file).2 := by
  have hdocs : ∀ doc ∈ loaded.tilesets, ∀ path, doc.path = some path →
      m.report (Check.tileset d doc options) = weight (key d path) := by
    intro doc hdoc path hpath
    rw [← hweight path (List.mem_filterMap.mpr ⟨doc, hdoc, hpath⟩), tilesetCount,
      Disk.loadTileset_of_mem_tilesets hload hdoc hpath]
    rfl
  have hstep := (Accounted.of_own weight checked (m.report (Check.map file.text loaded))).trans
    (accounted_checkDocuments hdocs checked)
  rw [Finset.empty_union, ← Meter.report_merge] at hstep
  unfold checkMapFile
  rw [hload]
  exact hstep

/-- **What one file adds to a run.** Each tileset file it leads to counts if it was not met
before, by a weight that stands for checking it through any of its paths. -/
theorem accounted_checkFile {file : Path}
    (hweight : ∀ path ∈ tilesetPaths d file, tilesetCount m d options path = weight (key d path))
    (checked : Checked) :
    Accounted weight checked (keysOf d (tilesetPaths d file)) (ownCount m d options file)
      (m.result (checkFile d options checked file).1) (checkFile d options checked file).2 := by
  unfold tilesetPaths at hweight ⊢
  unfold checkFile ownCount
  split
  · rename_i hmap
    rw [if_pos hmap] at hweight
    cases hload : d.loadMapWithTilesets file with
    | error e =>
        unfold checkMapFile
        rw [hload]
        exact .of_own weight checked m.unread
    | ok loaded =>
        rw [hload] at hweight
        exact accounted_checkMapFile hload hweight checked
  · rename_i hmap
    rw [if_neg hmap] at hweight
    rw [keysOf_cons, keysOf_nil, Finset.union_empty]
    exact accounted_checkTilesetFile (hweight file List.mem_cons_self) checked

/-- The run lemma: over a list of files each key counts once, wherever it is first met. -/
theorem accounted_checkFiles {files : List Path}
    (hweight : ∀ path ∈ files.flatMap (tilesetPaths d),
      tilesetCount m d options path = weight (key d path)) (checked : Checked) :
    ∃ after, Accounted weight checked (keysOf d (files.flatMap (tilesetPaths d)))
      (files.map (ownCount m d options)).sum (m.total (checkFiles d options checked files))
      after := by
  induction files generalizing checked with
  | nil => exact ⟨checked, .of_own weight checked 0⟩
  | cons file files ih =>
      rw [List.flatMap_cons, List.forall_mem_append] at hweight
      have hfile := accounted_checkFile hweight.1 checked
      obtain ⟨after, hfiles⟩ := ih hweight.2 (checkFile d options checked file).2
      refine ⟨after, ?_⟩
      rw [List.flatMap_cons, keysOf_append]
      exact hfile.trans hfiles

/-- **What a run counts.** Each file counts what belongs to it alone, as often as it is
listed; each tileset file counts once, whichever path comes to it first. -/
theorem total_checkFiles {files : List Path}
    (hweight : ∀ path ∈ files.flatMap (tilesetPaths d),
      tilesetCount m d options path = weight (key d path)) :
    m.total (checkFiles d options [] files) =
      (files.map (ownCount m d options)).sum +
        ∑ k ∈ keysOf d (files.flatMap (tilesetPaths d)), weight k := by
  obtain ⟨after, hrun⟩ := accounted_checkFiles hweight []
  rw [hrun.count, Checked.keys_nil, Finset.sdiff_empty]

/-- A file system with one tileset file, which a link leads to as well. It cannot be read. -/
def lockedDisk : Disk where
  find path :=
    if path = ⟨"t.tsx"⟩ ∨ path = ⟨"link.tsx"⟩ then .ok ⟨⟨"/t.tsx"⟩, .file (.error .denied)⟩
    else .error .notFound

example : Meter.failedLoads.total
    (checkFiles lockedDisk ⟨true, []⟩ [] [⟨"t.tsx"⟩, ⟨"link.tsx"⟩]) = 1 := by
  decide +kernel

/-- Every file gets an entry of its own, also one that was checked before. -/
@[simp] theorem length_checkFiles (checked : Checked) (files : List Path) :
    (checkFiles d options checked files).length = files.length := by
  induction files generalizing checked with
  | nil => rfl
  | cons file files ih => simp [checkFiles, ih]

end Files

end TileAtlas.CommandLine
