/-
The verdict of a check over all its files.

A tileset file is checked through the first path that comes to it; other paths to the
same canonical place are skipped. That is sound if these paths hold the same bytes and
see the same images beside them (`Coherent`): then it does not matter which path comes
first, since each would count the same (`tilesetCount_congr`). So a check passes exactly
if every file loads and every report it is due to make passes, skipped or not, and its
summary does not depend on the order of the paths.
-/

import TileAtlas.CommandLine.Run
import TileAtlas.Proofs.Counting
import TileAtlas.Proofs.Findings

namespace TileAtlas.CommandLine

open Document Fallible LoadedMap

/-! ### Paths to one file -/

/-- **What is asked of a file system.** Among the tileset files that a check comes to,
those with the same canonical place hold the same bytes and see the same images beside
them. A path that leads nowhere is its own place: it must not be spelled like the place
of a file that is read. -/
def Coherent (d : Disk) (files : List Path) : Prop :=
  ∀ p ∈ files.flatMap (tilesetPaths d), ∀ q ∈ files.flatMap (tilesetPaths d),
    (d.place p).same (d.place q) = true → ∀ bytes, d.read p = .ok bytes →
      d.read q = .ok bytes ∧
        ∀ source, d.imageAt? Image.size? (p.directory.join source) =
          d.imageAt? Image.size? (q.directory.join source)

section Paths

variable {m : Meter} {d : Disk} {options : Check.Options} {p q : Path}

/-- A file that cannot be read counts as one that was not loaded. -/
theorem tilesetCount_of_read_eq_error {e : Disk.Error} (hread : d.read p = .error e) :
    tilesetCount m d options p = m.unread := by
  unfold tilesetCount
  rw [Disk.loadTileset_eq, Disk.document, Disk.readText, hread]
  rfl

/-- Paths to the same bytes that see the same images count alike. -/
theorem tilesetCount_of_read_eq_ok {bytes : ByteArray} (hp : d.read p = .ok bytes)
    (hq : d.read q = .ok bytes)
    (himages : ∀ source,
      d.imageAt? Image.size? (p.directory.join source) =
        d.imageAt? Image.size? (q.directory.join source)) :
    tilesetCount m d options p = tilesetCount m d options q := by
  unfold tilesetCount
  rw [Disk.loadTileset_eq, Disk.loadTileset_eq, Disk.document, Disk.document, Disk.readText,
    Disk.readText, hp, hq]
  simp only [Except.bind]
  cases String.fromUTF8? bytes with
  | none => rfl
  | some text =>
      simp only
      cases parseTileset text with
      | error e => rfl
      | ok doc =>
          have hsees : Check.SeesSameImages Image.size? d { doc with path := some p }
            { doc with path := some q } := himages
          exact congrArg (List.countP m.counts)
            (Check.severities_tilesetWith_congr hsees rfl rfl options)

/-- It does not matter which path to a tileset file is checked. -/
theorem tilesetCount_congr {files : List Path} (hcoherent : Coherent d files)
    (hp : p ∈ files.flatMap (tilesetPaths d)) (hq : q ∈ files.flatMap (tilesetPaths d))
    (hkey : key d p = key d q) : tilesetCount m d options p = tilesetCount m d options q := by
  have hplace : (d.place p).same (d.place q) = true := beq_iff_eq.mpr hkey
  cases hread : d.read p with
  | ok bytes =>
      obtain ⟨hread', himages⟩ := hcoherent p hp q hq hplace bytes hread
      exact tilesetCount_of_read_eq_ok hread hread' himages
  | error e =>
      cases hread' : d.read q with
      | ok bytes =>
          -- The premise the other way round: then `p` would be read as well.
          have hplace' : (d.place q).same (d.place p) = true := beq_iff_eq.mpr hkey.symm
          obtain ⟨habsurd, -⟩ := hcoherent q hq p hp hplace' bytes hread'
          cases hread.symm.trans habsurd
      | error e' => rw [tilesetCount_of_read_eq_error hread, tilesetCount_of_read_eq_error hread']

/-- What a tileset file counts is a matter of its key. -/
theorem exists_weight {files : List Path} (hcoherent : Coherent d files) (m : Meter)
    (options : Check.Options) :
    ∃ weight : List Path.Component → Nat, ∀ path ∈ files.flatMap (tilesetPaths d),
      tilesetCount m d options path = weight (key d path) := by
  -- The first path with a key stands for all of them.
  refine ⟨fun k => (((files.flatMap (tilesetPaths d)).find? fun p => key d p == k).map
    (tilesetCount m d options)).getD 0, fun path hpath => ?_⟩
  cases hfind : (files.flatMap (tilesetPaths d)).find? fun p => key d p == key d path with
  | none =>
      have hnone := List.find?_eq_none.mp hfind path hpath
      exact absurd (beq_self_eq_true _) hnone
  | some first =>
      have hfirst := List.find?_some hfind
      simp only [hfind, Option.map_some, Option.getD_some]
      exact tilesetCount_congr hcoherent hpath (List.mem_of_find?_eq_some hfind)
        (beq_iff_eq.mp hfirst).symm

end Paths

/-! ### What a check has to report -/

/-- A file loads as what its extension says it is. -/
def Loads (d : Disk) (file : Path) : Prop :=
  if file.hasExtension "tmx" then ∃ loaded, d.loadMapWithTilesets file = .ok loaded
  else ∃ doc, d.loadTileset file = .ok doc

/-- The reports that are due for a file: on a map, on each of its tilesets, in files of
their own or not, and on a tileset. -/
inductive Due (d : Disk) (options : Check.Options) (file : Path) : Report → Prop where
  | map {loaded : LoadedMap} : file.hasExtension "tmx" = true →
      d.loadMapWithTilesets file = .ok loaded → Due d options file (Check.map file.text loaded)
  | reference {loaded : LoadedMap} {doc : TilesetDocument} : file.hasExtension "tmx" = true →
      d.loadMapWithTilesets file = .ok loaded → doc ∈ loaded.tilesets →
      Due d options file (Check.tileset d doc options)
  | tileset {doc : TilesetDocument} : file.hasExtension "tmx" = false →
      d.loadTileset file = .ok doc → Due d options file (Check.tileset d doc options)

section Blame

variable {d : Disk} {options : Check.Options} {file path : Path} {denyWarnings : Bool}

/-- A tileset file is not to blame if it loads and its report passes. -/
theorem tilesetCount_blame_eq_zero_iff :
    tilesetCount (.blame denyWarnings) d options path = 0 ↔
      ∃ doc, d.loadTileset path = .ok doc ∧
        (Check.tileset d doc options).passes denyWarnings = true := by
  unfold tilesetCount
  cases d.loadTileset path with
  | error e => simp [Except.map, Meter.result, Meter.blame]
  | ok doc => simp [Except.map, Meter.result, Meter.report_blame_eq_zero_iff]

/-- Embedded tilesets are not to blame if the report on each of them passes. -/
theorem embeddedCount_blame_eq_zero_iff {docs : List TilesetDocument} :
    embeddedCount (.blame denyWarnings) d options docs = 0 ↔
      ∀ doc ∈ docs, doc.path = none →
        (Check.tileset d doc options).passes denyWarnings = true := by
  unfold embeddedCount
  rw [List.sum_eq_zero_iff_forall_eq_nat, List.forall_mem_map]
  simp only [List.mem_filter, Option.isNone_iff_eq_none, and_imp, Meter.report_blame_eq_zero_iff]

/-- A map that loads has nothing to blame, by itself and through its tilesets, exactly if
every report due for it passes. -/
theorem blameless_map_iff {loaded : LoadedMap} (hmap : file.hasExtension "tmx" = true)
    (hload : d.loadMapWithTilesets file = .ok loaded) :
    (Meter.blame denyWarnings).report (Check.map file.text loaded) +
          embeddedCount (.blame denyWarnings) d options loaded.tilesets = 0 ∧
        (∀ path ∈ loaded.tilesets.filterMap (·.path),
          tilesetCount (.blame denyWarnings) d options path = 0) ↔
      ∀ r, Due d options file r → r.passes denyWarnings = true := by
  rw [Nat.add_eq_zero_iff, Meter.report_blame_eq_zero_iff, embeddedCount_blame_eq_zero_iff]
  constructor
  · rintro ⟨⟨hown, hembedded⟩, hfiles⟩ r hdue
    cases hdue with
    | map _ hload' =>
        cases hload.symm.trans hload'
        exact hown
    | @reference _ doc _ hload' hdoc =>
        cases hload.symm.trans hload'
        cases hpath : doc.path with
        | none => exact hembedded doc hdoc hpath
        | some path =>
            -- The document is what loading its file gives, so the file's count speaks for it.
            obtain ⟨doc', hdoc', hpasses⟩ := tilesetCount_blame_eq_zero_iff.mp
              (hfiles path (List.mem_filterMap.mpr ⟨doc, hdoc, hpath⟩))
            cases (Disk.loadTileset_of_mem_tilesets hload hdoc hpath).symm.trans hdoc'
            exact hpasses
    | tileset hnot _ => cases hmap.symm.trans hnot
  · intro hdue
    refine ⟨⟨hdue _ (.map hmap hload), fun doc hdoc _ => hdue _ (.reference hmap hload hdoc)⟩, ?_⟩
    intro path hpath
    obtain ⟨doc, hdoc, hpath⟩ := List.mem_filterMap.mp hpath
    exact tilesetCount_blame_eq_zero_iff.mpr
      ⟨doc, Disk.loadTileset_of_mem_tilesets hload hdoc hpath, hdue _ (.reference hmap hload hdoc)⟩

/-- There is nothing to blame in a file exactly if it loads and its due reports pass. -/
theorem blameless_iff :
    ownCount (.blame denyWarnings) d options file = 0 ∧
        (∀ path ∈ tilesetPaths d file, tilesetCount (.blame denyWarnings) d options path = 0) ↔
      Loads d file ∧ ∀ r, Due d options file r → r.passes denyWarnings = true := by
  unfold ownCount tilesetPaths Loads
  cases hmap : file.hasExtension "tmx" with
  | true =>
      simp only [if_true]
      cases hload : d.loadMapWithTilesets file with
      | error e => simp [Meter.blame]
      | ok loaded =>
          simp only [Except.ok.injEq, exists_eq', true_and]
          exact blameless_map_iff hmap hload
  | false =>
      simp only [Bool.false_eq_true, if_false, List.forall_mem_singleton, true_and,
        tilesetCount_blame_eq_zero_iff]
      constructor
      · rintro ⟨doc, hload, hpasses⟩
        refine ⟨⟨doc, hload⟩, fun r hdue => ?_⟩
        cases hdue with
        | map hnot _ => cases hmap.symm.trans hnot
        | reference hnot _ _ => cases hmap.symm.trans hnot
        | tileset _ hload' =>
            cases hload.symm.trans hload'
            exact hpasses
      · rintro ⟨⟨doc, hload⟩, hdue⟩
        exact ⟨doc, hload, hdue _ (.tileset hmap hload)⟩

/-- **Skipping hides no failure.** A run over files counts nothing to blame exactly if
every file loads and all reports that are due pass, also those that were skipped. -/
theorem total_blame_eq_zero_iff {files : List Path} (hcoherent : Coherent d files) :
    (Meter.blame denyWarnings).total (checkFiles d options [] files) = 0 ↔
      ∀ file ∈ files, Loads d file ∧ ∀ r, Due d options file r → r.passes denyWarnings = true := by
  obtain ⟨weight, hweight⟩ := exists_weight hcoherent (.blame denyWarnings) options
  rw [total_checkFiles hweight, Nat.add_eq_zero_iff, List.sum_eq_zero_iff_forall_eq_nat,
    List.forall_mem_map, Finset.sum_eq_zero_iff]
  constructor
  · rintro ⟨hown, hkeys⟩ file hfile
    refine blameless_iff.mp ⟨hown file hfile, fun path hpath => ?_⟩
    have hmet := List.mem_flatMap.mpr ⟨file, hfile, hpath⟩
    rw [hweight path hmet]
    exact hkeys _ (mem_keysOf.mpr ⟨path, hmet, rfl⟩)
  · intro hfiles
    refine ⟨fun file hfile => (blameless_iff.mpr (hfiles file hfile)).1, fun k hk => ?_⟩
    obtain ⟨path, hmet, rfl⟩ := mem_keysOf.mp hk
    obtain ⟨file, hfile, hpath⟩ := List.mem_flatMap.mp hmet
    rw [← hweight path hmet]
    exact (blameless_iff.mpr (hfiles file hfile)).2 path hpath

end Blame

/-! ### Permutations -/

/-- What a run counts does not depend on the order of its files. -/
theorem total_checkFiles_perm {d : Disk} {files files' : List Path} (hcoherent : Coherent d files)
    (hperm : files.Perm files') (m : Meter) (options : Check.Options) :
    m.total (checkFiles d options [] files) = m.total (checkFiles d options [] files') := by
  obtain ⟨weight, hweight⟩ := exists_weight hcoherent m options
  have hmet := hperm.flatMap_right (tilesetPaths d)
  have hweight' : ∀ path ∈ files'.flatMap (tilesetPaths d),
      tilesetCount m d options path = weight (key d path) :=
    fun path hpath => hweight path (hmet.mem_iff.mpr hpath)
  have hkeys : keysOf d (files.flatMap (tilesetPaths d)) =
      keysOf d (files'.flatMap (tilesetPaths d)) := by
    ext k
    simp only [mem_keysOf, hmet.mem_iff]
  rw [total_checkFiles hweight, total_checkFiles hweight', (hperm.map _).sum_eq, hkeys]

/-- The summary of coherent files does not depend on their order. -/
theorem summarize_perm {d : Disk} {files files' : List Path} (hcoherent : Coherent d files)
    (hperm : files.Perm files') (denyWarnings : Bool) (options : Check.Options) :
    summarize denyWarnings (checkFiles d options [] files) =
      summarize denyWarnings (checkFiles d options [] files') := by
  simp only [summarize_eq, length_checkFiles, hperm.length_eq,
    total_checkFiles_perm hcoherent hperm]

/-- The files that are collected do not depend on the order of the paths, but for their order. -/
theorem collectFiles_perm {d : Disk} {paths paths' files : List Path} (hperm : paths.Perm paths')
    (hfiles : collectFiles d paths = .ok files) :
    ∃ files', collectFiles d paths' = .ok files' ∧ files.Perm files' := by
  obtain ⟨groups, hgroups, rfl⟩ := map_eq_ok_iff.mp hfiles
  obtain ⟨groups', hgroups', hperm'⟩ :=
    List.perm_comp_forall₂ hperm.symm (mapM_eq_ok_iff.mp hgroups)
  exact ⟨groups'.flatten, map_eq_ok_iff.mpr ⟨groups', mapM_eq_ok_iff.mpr hgroups', rfl⟩,
    hperm'.symm.flatten⟩

/-! ### Whole runs -/

def checkOptions (config : Config) (args : ValidateArguments) : Check.Options :=
  { config.options with checkImages := config.options.checkImages || args.checkImages }

/-- Whether settings or arguments deny warnings. -/
def deniesWarnings (config : Config) (args : ValidateArguments) : Bool :=
  args.denyWarnings || config.denyWarnings

section Runs

variable {d : Disk} {userDir : Option Path} {args : ValidateArguments} {config : Config}
  {files : List Path} {summary : Summary} {output : String}

/-- A run comes to a summary once its settings are read and its files are known. -/
theorem exists_runValidate_eq_ok (hconfig : Config.load d userDir args.config = .ok config)
    (hfiles : collectFiles d args.paths = .ok files) :
    ∃ output, runValidate d userDir args =
      .ok (summarize (deniesWarnings config args)
        (checkFiles d (checkOptions config args) [] files), output) := by
  unfold runValidate
  rw [hconfig, hfiles]
  exact ⟨_, rfl⟩

/-- A run that gives a summary has loaded its configuration and collected its files. -/
theorem exists_of_runValidate_eq_ok (hrun : runValidate d userDir args = .ok (summary, output)) :
    ∃ config files, Config.load d userDir args.config = .ok config ∧
      collectFiles d args.paths = .ok files := by
  unfold runValidate at hrun
  obtain ⟨config, hconfig, hrun⟩ := bind_eq_ok_iff.mp hrun
  obtain ⟨files, hfiles, -⟩ := bind_eq_ok_iff.mp hrun
  refine ⟨config, files, ?_, hfiles⟩
  cases hload : Config.load d userDir args.config with
  | error e =>
      rw [hload] at hconfig
      cases hconfig
  | ok loaded =>
      rw [hload] at hconfig
      cases hconfig
      rfl

/-- The summary of a run is that of the files it collected. -/
theorem eq_summarize_of_runValidate (hconfig : Config.load d userDir args.config = .ok config)
    (hfiles : collectFiles d args.paths = .ok files)
    (hrun : runValidate d userDir args = .ok (summary, output)) :
    summary = summarize (deniesWarnings config args)
      (checkFiles d (checkOptions config args) [] files) := by
  obtain ⟨output', hrun'⟩ := exists_runValidate_eq_ok hconfig hfiles
  rw [hrun] at hrun'
  cases hrun'
  rfl

/-- **The verdict is right.** A check passes exactly if all its files load, no finding in a
report that is due for one of them is an error, and none is a warning where warnings are
denied. The exit code says so. -/
theorem passed_iff_of_runValidate (hconfig : Config.load d userDir args.config = .ok config)
    (hfiles : collectFiles d args.paths = .ok files) (hcoherent : Coherent d files)
    (hrun : runValidate d userDir args = .ok (summary, output)) :
    (summary.passed = true ↔
        (∀ file ∈ files, Loads d file) ∧
        (∀ file ∈ files, ∀ r, Due d (checkOptions config args) file r →
          ∀ i ∈ r.issues, i.severity ≠ .error) ∧
        (deniesWarnings config args = true →
          ∀ file ∈ files, ∀ r, Due d (checkOptions config args) file r →
            ∀ i ∈ r.issues, i.severity ≠ .warning)) ∧
      (runCommand d userDir (.validate args)).exitCode = if summary.passed then 0 else 1 := by
  have hsummary := eq_summarize_of_runValidate hconfig hfiles hrun
  constructor
  · rw [hsummary, summarize_eq, beq_iff_eq, total_blame_eq_zero_iff hcoherent]
    simp only [Report.passes_iff_severity]
    constructor
    · intro hall
      exact ⟨fun file hfile => (hall file hfile).1,
        fun file hfile r hdue => ((hall file hfile).2 r hdue).1,
        fun hdeny file hfile r hdue => ((hall file hfile).2 r hdue).2 hdeny⟩
    · rintro ⟨hloads, hok, hwarnings⟩ file hfile
      exact ⟨hloads file hfile, fun r hdue =>
        ⟨hok file hfile r hdue, fun hdeny => hwarnings hdeny file hfile r hdue⟩⟩
  · rw [runCommand, hrun]
    rfl

def mixedArguments : ValidateArguments where
  paths := [⟨"d/m.tmx"⟩, ⟨"d//t.tsx"⟩]
  denyWarnings := true
  checkImages := false
  config := none

theorem load_mixedArguments :
    Config.load mixedDisk none mixedArguments.config = .ok .default ∧
      collectFiles mixedDisk mixedArguments.paths = .ok mixedArguments.paths := by
  decide +kernel

theorem load_mixedTileset :
    mixedDisk.loadTileset ⟨"d//t.tsx"⟩ = .ok ⟨some ⟨"d//t.tsx"⟩, mixedTileset 2, []⟩ :=
  Disk.loadTileset_ofTexts lookup_mixedFiles.2.2 parseTileset_mixedTilesetText

theorem loads_mixed : ∀ file ∈ mixedArguments.paths, Loads mixedDisk file := by
  have hmap : Loads mixedDisk ⟨"d/m.tmx"⟩ := by
    rw [Loads, if_pos (by decide +kernel)]
    exact ⟨mixed, load_mixed⟩
  have htileset : Loads mixedDisk ⟨"d//t.tsx"⟩ := by
    rw [Loads, if_neg (by decide +kernel)]
    exact ⟨_, load_mixedTileset⟩
  intro file hfile
  rcases List.mem_pair.mp hfile with rfl | rfl
  · exact hmap
  · exact htileset

theorem flatMap_tilesetPaths_mixed :
    mixedArguments.paths.flatMap (tilesetPaths mixedDisk) = [⟨"d/t.tsx"⟩, ⟨"d//t.tsx"⟩] := by
  have hmap : tilesetPaths mixedDisk ⟨"d/m.tmx"⟩ = [⟨"d/t.tsx"⟩] := by
    rw [tilesetPaths, if_pos (by decide +kernel), load_mixed]
    rfl
  have htileset : tilesetPaths mixedDisk ⟨"d//t.tsx"⟩ = [⟨"d//t.tsx"⟩] :=
    if_neg (by decide +kernel)
  rw [mixedArguments, List.flatMap_cons, List.flatMap_cons, hmap, htileset]
  rfl

theorem coherent_mixed : Coherent mixedDisk mixedArguments.paths := by
  obtain ⟨-, hfirst, hsecond⟩ := lookup_mixedFiles
  have hread : ∀ p ∈ mixedArguments.paths.flatMap (tilesetPaths mixedDisk),
      mixedDisk.read p = .ok mixedTilesetText.toUTF8 ∧ p.directory = ⟨"d"⟩ := by
    rw [flatMap_tilesetPaths_mixed]
    simp only [List.forall_mem_cons, List.not_mem_nil, false_implies, implies_true, and_true]
    refine ⟨⟨?_, by decide +kernel⟩, ?_, by decide +kernel⟩
    · rw [Disk.read, mixedDisk, Disk.find_ofTexts hfirst]
    · rw [Disk.read, mixedDisk, Disk.find_ofTexts hsecond]
  intro p hp q hq _ bytes hbytes
  obtain ⟨hreadp, hdirp⟩ := hread p hp
  obtain ⟨hreadq, hdirq⟩ := hread q hq
  rw [hreadq, ← hreadp, hdirp, hdirq]
  exact ⟨hbytes, fun _ => rfl⟩

theorem issues_of_due_mixed {file : Path} (hfile : file ∈ mixedArguments.paths) {r : Report}
    (hdue : Due mixedDisk (checkOptions .default mixedArguments) file r) : r.issues = [] := by
  rcases List.mem_pair.mp hfile with rfl | rfl
  · cases hdue with
    | map _ hload =>
        cases load_mixed.symm.trans hload
        decide +kernel
    | @reference _ doc _ hload hdoc =>
        cases load_mixed.symm.trans hload
        rcases List.mem_pair.mp hdoc with rfl | rfl
        · decide +kernel
        · decide +kernel
    | tileset hnot _ => exact absurd hnot (by decide +kernel)
  · cases hdue with
    | map hmap _ => exact absurd hmap (by decide +kernel)
    | reference hmap _ _ => exact absurd hmap (by decide +kernel)
    | tileset _ hload =>
        cases load_mixedTileset.symm.trans hload
        decide +kernel

/-- The example passes: its tileset is met twice and checked once. -/
theorem mixed_passed :
    ∃ summary output, runValidate mixedDisk none mixedArguments = .ok (summary, output) ∧
      summary.passed = true ∧
      (runCommand mixedDisk none (.validate mixedArguments)).exitCode = 0 := by
  obtain ⟨hconfig, hfiles⟩ := load_mixedArguments
  obtain ⟨output, hrun⟩ := exists_runValidate_eq_ok hconfig hfiles
  obtain ⟨hpassed, hexit⟩ := passed_iff_of_runValidate hconfig hfiles coherent_mixed hrun
  have hnone : ∀ file ∈ mixedArguments.paths, ∀ r,
      Due mixedDisk (checkOptions .default mixedArguments) file r → ∀ i, i ∉ r.issues := by
    intro file hfile r hdue i
    rw [issues_of_due_mixed hfile hdue]
    exact List.not_mem_nil
  have hclean := hpassed.mpr ⟨loads_mixed,
    fun file hfile r hdue i hi => absurd hi (hnone file hfile r hdue i),
    fun _ file hfile r hdue i hi => absurd hi (hnone file hfile r hdue i)⟩
  rw [hclean] at hexit
  exact ⟨_, output, hrun, hclean, hexit⟩

/-- **The order of the paths does not matter.** Where a list of paths gets a summary, any
permutation of it gets the same. -/
theorem runValidate_perm {paths' : List Path} (hperm : args.paths.Perm paths')
    (hfiles : collectFiles d args.paths = .ok files) (hcoherent : Coherent d files)
    (hrun : runValidate d userDir args = .ok (summary, output)) :
    ∃ output', runValidate d userDir { args with paths := paths' } = .ok (summary, output') := by
  obtain ⟨config, -, hconfig, -⟩ := exists_of_runValidate_eq_ok hrun
  obtain ⟨files', hfiles', hpermFiles⟩ := collectFiles_perm hperm hfiles
  rw [eq_summarize_of_runValidate hconfig hfiles hrun, summarize_perm hcoherent hpermFiles]
  exact exists_runValidate_eq_ok hconfig hfiles'

/-- The other way round, the tileset is checked through its other path. -/
theorem mixed_runValidate_perm :
    ∃ summary output output', runValidate mixedDisk none mixedArguments = .ok (summary, output) ∧
      runValidate mixedDisk none { mixedArguments with paths := [⟨"d//t.tsx"⟩, ⟨"d/m.tmx"⟩] } =
        .ok (summary, output') := by
  obtain ⟨hconfig, hfiles⟩ := load_mixedArguments
  obtain ⟨output, hrun⟩ := exists_runValidate_eq_ok hconfig hfiles
  have hperm : mixedArguments.paths.Perm [⟨"d//t.tsx"⟩, ⟨"d/m.tmx"⟩] := .swap _ _ []
  obtain ⟨output', hrun'⟩ := runValidate_perm hperm hfiles coherent_mixed hrun
  exact ⟨_, output, output', hrun, hrun'⟩

end Runs

end TileAtlas.CommandLine
