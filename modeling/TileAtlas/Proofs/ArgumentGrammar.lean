/-
The grammar of the command line.

The words after a command are cut into pieces: an option that stands alone, an option with
its value, a path. `Verb.Takes` says which pieces a command takes, `Verb.Means` what it makes
of them, and `Verb.Offends` which words do not fit after some pieces.

What one word does is said by `Verb.read_flag`, `Verb.read_setting` and `Verb.read_other`, so
a command reads the pieces that it takes one after the other (`Verb.read_written`) and stops
at a word that does not fit (`Verb.read_of_offends`). All words are pieces up to such a word
or up to the end (`Verb.TakesAll.exists_pieces`), and with that every answer is accounted
for (`Verb.read_eq_iff_answers`).
-/

import TileAtlas.CommandLine.Arguments

namespace TileAtlas.CommandLine

/-! ### Pieces -/

def verboseFlags : List String := ["-v", "--verbose"]

inductive Verb where
  | validate
  | inspect
  | export
deriving DecidableEq, Repr

namespace Verb

def word : Verb → String
  | .validate => "validate"
  | .inspect => "inspect"
  | .export => "export"

def flags : Verb → List String
  | .validate => "--deny-warnings" :: "--check-images" :: verboseFlags
  | .inspect | .export => verboseFlags

def settings : Verb → List String
  | .validate => ["--config"]
  | .inspect => []
  | .export => ["-o", "--output"]

/-- Whether a second path is refused. -/
def takesOnePath : Verb → Bool
  | .validate => false
  | .inspect | .export => true

end Verb

/-- Words that belong together: an option that stands alone, an option with its value, or a
path. -/
inductive Piece where
  | flag (option : String)
  | setting (option value : String)
  | path (word : String)
deriving DecidableEq, Repr

@[simp] def Piece.words : Piece → List String
  | .flag option => [option]
  | .setting option value => [option, value]
  | .path word => [word]

/-- The words of pieces, one piece after the other. -/
def written (pieces : List Piece) : List String :=
  pieces.flatMap Piece.words

@[simp] def Piece.path? : Piece → Option Path
  | .path word => some ⟨word⟩
  | .flag _ | .setting .. => none

@[simp] def Piece.value? : Piece → Option Path
  | .setting _ value => some ⟨value⟩
  | .flag _ | .path _ => none

def pathsOf (pieces : List Piece) : List Path :=
  pieces.filterMap Piece.path?

/-- The value of the last option that has one. -/
def lastValue? (pieces : List Piece) : Option Path :=
  (pieces.filterMap Piece.value?).getLast?

/-- Whether an option that stands alone is among pieces. -/
def isFlagged (option : String) (pieces : List Piece) : Bool :=
  decide (.flag option ∈ pieces)

def isVerboseIn (pieces : List Piece) : Bool :=
  isFlagged "-v" pieces || isFlagged "--verbose" pieces

namespace Verb

/-- A piece that a command takes: the options are its own, and neither values nor paths look
like options. -/
def Takes (verb : Verb) : Piece → Prop
  | .flag option => option ∈ verb.flags
  | .setting option value => option ∈ verb.settings ∧ isOption value = false
  | .path word => isOption word = false

/-- Pieces that a command takes one after the other. -/
structure TakesAll (verb : Verb) (pieces : List Piece) : Prop where
  takes : ∀ p ∈ pieces, verb.Takes p
  onePath : verb.takesOnePath = true → (pathsOf pieces).length ≤ 1

/-- What a command makes of all its pieces. -/
inductive Means : Verb → List Piece → Command → Prop where
  | validate {pieces : List Piece} (hpaths : pathsOf pieces ≠ []) :
      Means .validate pieces (.validate ⟨pathsOf pieces, isFlagged "--deny-warnings" pieces,
        isFlagged "--check-images" pieces, lastValue? pieces⟩)
  | inspect {pieces : List Piece} {path : Path} (hpaths : pathsOf pieces = [path]) :
      Means .inspect pieces (.inspect path)
  | export {pieces : List Piece} {path : Path} (hpaths : pathsOf pieces = [path]) :
      Means .export pieces (.export path (lastValue? pieces))

/-- The first of the remaining words does not fit after some pieces: its value is missing or
looks like an option, it is an option that the command does not have, or it is a path too
many. -/
inductive Offends (verb : Verb) (pieces : List Piece) : List String → ArgumentError → Prop where
  | noValue {option : String} {rest : List String} (hoption : option ∈ verb.settings)
      (hvalue : ∀ value ∈ rest.head?, isOption value = true) :
      Offends verb pieces (option :: rest) (.missingValue option)
  | unknown {word : String} {rest : List String} (hword : isOption word = true)
      (hflag : word ∉ verb.flags) (hsetting : word ∉ verb.settings) :
      Offends verb pieces (word :: rest) (.unknownOption word)
  | surplus {word : String} {rest : List String} (hword : isOption word = false)
      (hone : verb.takesOnePath = true) (hpath : pathsOf pieces ≠ []) :
      Offends verb pieces (word :: rest) (.unexpectedArgument word)

/-- Reading goes on after some pieces, with what they have set so far. -/
def read (verb : Verb) (verbose : Bool) (pieces : List Piece) (words : List String) :
    Except ArgumentError Invocation :=
  match verb with
  | .validate =>
    readValidate ⟨pathsOf pieces, isFlagged "--deny-warnings" pieces,
      isFlagged "--check-images" pieces, lastValue? pieces⟩ (verbose || isVerboseIn pieces) words
  | .inspect => readInspect (pathsOf pieces).head? (verbose || isVerboseIn pieces) words
  | .export =>
    readExport (pathsOf pieces).head? (lastValue? pieces) (verbose || isVerboseIn pieces) words

end Verb

/-! ### Words and pieces -/

theorem isVerbose_iff {word : String} : isVerbose word = true ↔ word ∈ verboseFlags := by
  simp [isVerbose, verboseFlags]

theorem written_append (pieces more : List Piece) :
    written (pieces ++ more) = written pieces ++ written more :=
  List.flatMap_append

theorem written_cons (p : Piece) (pieces : List Piece) :
    written (p :: pieces) = p.words ++ written pieces :=
  List.flatMap_cons

@[simp] theorem pathsOf_append (pieces more : List Piece) :
    pathsOf (pieces ++ more) = pathsOf pieces ++ pathsOf more :=
  List.filterMap_append

@[simp] theorem pathsOf_singleton (p : Piece) : pathsOf [p] = p.path?.toList := by
  cases p <;> rfl

@[simp] theorem lastValue?_append_singleton (pieces : List Piece) (p : Piece) :
    lastValue? (pieces ++ [p]) = p.value?.or (lastValue? pieces) := by
  cases p <;> simp [lastValue?]

@[simp] theorem isFlagged_append_singleton (option : String) (pieces : List Piece) (p : Piece) :
    isFlagged option (pieces ++ [p]) = (isFlagged option pieces || decide (p = .flag option)) := by
  simp [isFlagged, eq_comm]

/-! ### Reading a piece -/

namespace Verb

variable {verb : Verb} {verbose : Bool} {pieces more : List Piece} {p : Piece}
  {words rest : List String} {word option value : String} {e : ArgumentError}

/-- Every option of a verb is spelled like one, so no path is taken for it. -/
theorem isOption_of_mem (verb : Verb) :
    ∀ option ∈ verb.flags ++ verb.settings, isOption option = true := by
  cases verb <;> decide

/-- A word that is not spelled like an option is no option of any verb. -/
theorem notMem_of_isOption_eq_false (hword : isOption word = false) (verb : Verb) :
    word ∉ verb.flags ∧ word ∉ verb.settings := by
  have hnone : word ∉ verb.flags ++ verb.settings := by
    intro hmem
    exact absurd (verb.isOption_of_mem word hmem) (by simp [hword])
  simpa using hnone

/-- An option that stands alone is a piece. -/
theorem read_flag (h : option ∈ verb.flags) (verbose : Bool) (pieces : List Piece)
    (rest : List String) :
    verb.read verbose pieces (option :: rest) =
      verb.read verbose (pieces ++ [.flag option]) rest := by
  cases verb with
  | validate =>
      simp only [flags, verboseFlags, List.mem_cons, List.not_mem_nil, or_false] at h
      rcases h with rfl | rfl | rfl | rfl <;> cases rest <;>
        simp [read, readValidate, isVerboseIn, isVerbose]
  | inspect =>
      simp only [flags, verboseFlags, List.mem_cons, List.not_mem_nil, or_false] at h
      rcases h with rfl | rfl <;> simp [read, readInspect, isVerboseIn, isVerbose]
  | «export» =>
      simp only [flags, verboseFlags, List.mem_cons, List.not_mem_nil, or_false] at h
      rcases h with rfl | rfl <;> cases rest <;> simp [read, readExport, isVerboseIn, isVerbose]

/-- An option that takes a value is a piece together with the next word. -/
theorem read_setting (h : option ∈ verb.settings) (verbose : Bool) (pieces : List Piece)
    (words : List String) :
    verb.read verbose pieces (option :: words) =
      match words with
      | [] => .error (.missingValue option)
      | value :: rest =>
        if isOption value then .error (.missingValue option)
        else verb.read verbose (pieces ++ [.setting option value]) rest := by
  cases verb with
  | validate =>
      obtain rfl : option = "--config" := by simpa [settings] using h
      cases words <;> simp [read, readValidate, isVerboseIn]
  | inspect => simp [settings] at h
  | «export» =>
      have hoption : option = "-o" ∨ option = "--output" := by simpa [settings] using h
      cases words <;> simp [read, readExport, isVerboseIn, hoption]

/-- Any other word is a path, unless it looks like an option or is one path too many. -/
theorem read_other (hflag : word ∉ verb.flags) (hsetting : word ∉ verb.settings) (verbose : Bool)
    (pieces : List Piece) (rest : List String) :
    verb.read verbose pieces (word :: rest) =
      if isOption word then .error (.unknownOption word)
      else if verb.takesOnePath ∧ pathsOf pieces ≠ [] then .error (.unexpectedArgument word)
      else verb.read verbose (pieces ++ [.path word]) rest := by
  cases verb with
  | validate =>
      simp only [flags, verboseFlags, settings, List.mem_cons, List.not_mem_nil, or_false,
        not_or] at hflag hsetting
      cases rest <;>
        simp [read, readValidate, isVerboseIn, isVerbose, takesOnePath, hflag, hsetting]
  | inspect =>
      simp only [flags, verboseFlags, List.mem_cons, List.not_mem_nil, or_false, not_or] at hflag
      cases hpaths : pathsOf pieces <;>
        simp [read, readInspect, isVerboseIn, isVerbose, takesOnePath, hflag, hpaths]
  | «export» =>
      simp only [flags, verboseFlags, settings, List.mem_cons, List.not_mem_nil, or_false,
        not_or] at hflag hsetting
      cases hpaths : pathsOf pieces <;> cases rest <;>
        simp [read, readExport, isVerboseIn, isVerbose, takesOnePath, hflag, hsetting, hpaths]

/-- A word that does not look like an option is a path, unless it is one too many. -/
theorem read_path (hword : isOption word = false) (verbose : Bool) (pieces : List Piece)
    (rest : List String) :
    verb.read verbose pieces (word :: rest) =
      if verb.takesOnePath ∧ pathsOf pieces ≠ [] then .error (.unexpectedArgument word)
      else verb.read verbose (pieces ++ [.path word]) rest := by
  obtain ⟨hflag, hsetting⟩ := notMem_of_isOption_eq_false hword verb
  rw [read_other hflag hsetting, if_neg (by simp [hword])]

/-! ### Runs of pieces -/

theorem takesAll_nil (verb : Verb) : verb.TakesAll [] :=
  ⟨by simp, fun _ => Nat.zero_le _⟩

/-- What a verb takes as a whole it takes up to any point. -/
theorem TakesAll.of_append (h : verb.TakesAll (pieces ++ more)) : verb.TakesAll pieces := by
  refine ⟨fun p hp => h.takes p (List.mem_append_left _ hp), fun hone => ?_⟩
  have hle := h.onePath hone
  rw [pathsOf_append, List.length_append] at hle
  omega

/-- One more piece is taken if it fits and is not one path too many. -/
theorem TakesAll.concat (h : verb.TakesAll pieces) (hp : verb.Takes p)
    (hone : p.path? = none ∨ ¬ (verb.takesOnePath = true ∧ pathsOf pieces ≠ [])) :
    verb.TakesAll (pieces ++ [p]) := by
  refine ⟨?_, ?_⟩
  · intro q hq
    rcases List.mem_append.mp hq with hq | hq
    · exact h.takes q hq
    · exact List.mem_singleton.mp hq ▸ hp
  · intro htakes
    rw [pathsOf_append, pathsOf_singleton]
    rcases hone with hnone | hfirst
    · rw [hnone, Option.toList_none, List.append_nil]
      exact h.onePath htakes
    · have hnil : pathsOf pieces = [] := by simpa [htakes] using hfirst
      cases p <;> simp [hnil]

/-- A second path is not taken where there is just one. -/
theorem TakesAll.first_path (h : verb.TakesAll (pieces ++ [.path word])) :
    ¬ (verb.takesOnePath = true ∧ pathsOf pieces ≠ []) := by
  rintro ⟨hone, hpaths⟩
  have hle := h.onePath hone
  have hpos := List.length_pos_iff.mpr hpaths
  rw [pathsOf_append, List.length_append, pathsOf_singleton] at hle
  simp only [Piece.path?, Option.toList_some, List.length_singleton] at hle
  omega

/-- A command reads a piece that it takes. -/
theorem read_piece (h : verb.TakesAll (pieces ++ [p])) (verbose : Bool) (rest : List String) :
    verb.read verbose pieces (p.words ++ rest) = verb.read verbose (pieces ++ [p]) rest := by
  have htakes : verb.Takes p := h.takes p (by simp)
  cases p with
  | flag option => exact read_flag htakes verbose pieces rest
  | setting option value =>
      obtain ⟨hoption, hvalue⟩ := htakes
      exact (read_setting hoption verbose pieces (value :: rest)).trans (if_neg (by simp [hvalue]))
  | path word =>
      exact (read_path htakes verbose pieces rest).trans (if_neg h.first_path)

/-- A command reads pieces that it takes, one after the other. -/
theorem read_written (h : verb.TakesAll (pieces ++ more)) (verbose : Bool) (rest : List String) :
    verb.read verbose pieces (written more ++ rest) = verb.read verbose (pieces ++ more) rest := by
  induction more generalizing pieces with
  | nil => simp [written]
  | cons p more ih =>
      have hmore : verb.TakesAll ((pieces ++ [p]) ++ more) := by simpa using h
      rw [written_cons, List.append_assoc, read_piece hmore.of_append, ih hmore]
      simp

/-- A command stops at the first word that does not fit. -/
theorem read_of_offends (h : verb.Offends pieces words e) (verbose : Bool) :
    verb.read verbose pieces words = .error e := by
  cases h with
  | @noValue option rest hoption hvalue =>
      rw [read_setting hoption]
      cases rest with
      | nil => rfl
      | cons value rest => exact if_pos (hvalue value rfl)
  | unknown hword hflag hsetting => rw [read_other hflag hsetting, if_pos hword]
  | surplus hword hone hpath => rw [read_path hword, if_pos ⟨hone, hpath⟩]

/-- A word does not fit, or it begins a piece that is taken. -/
theorem offends_or_takes (h : verb.TakesAll pieces) (word : String) (words : List String) :
    (∃ e, verb.Offends pieces (word :: words) e) ∨
      ∃ p rest, word :: words = p.words ++ rest ∧ verb.TakesAll (pieces ++ [p]) := by
  by_cases hflag : word ∈ verb.flags
  · exact .inr ⟨.flag word, words, rfl, h.concat hflag (.inl rfl)⟩
  by_cases hsetting : word ∈ verb.settings
  · cases words with
    | nil => exact .inl ⟨_, .noValue hsetting (by simp)⟩
    | cons value rest =>
        cases hvalue : isOption value with
        | true => exact .inl ⟨_, .noValue hsetting (by simp [hvalue])⟩
        | false =>
            exact .inr ⟨.setting word value, rest, rfl, h.concat ⟨hsetting, hvalue⟩ (.inl rfl)⟩
  cases hword : isOption word with
  | true => exact .inl ⟨_, .unknown hword hflag hsetting⟩
  | false =>
      by_cases hsurplus : verb.takesOnePath = true ∧ pathsOf pieces ≠ []
      · exact .inl ⟨_, .surplus hword hsurplus.1 hsurplus.2⟩
      · exact .inr ⟨.path word, words, rfl, h.concat hword (.inr hsurplus)⟩

/-- **All words are pieces up to the first one that does not fit**, or up to the end. -/
theorem TakesAll.exists_pieces (h : verb.TakesAll pieces) (words : List String) :
    ∃ more rest, words = written more ++ rest ∧ verb.TakesAll (pieces ++ more) ∧
      (rest = [] ∨ ∃ e, verb.Offends (pieces ++ more) rest e) := by
  -- A piece is one word or two, so the induction is on the number of words.
  induction hlength : words.length using Nat.strongRecOn generalizing pieces words with
  | ind n ih =>
      cases words with
      | nil => exact ⟨[], [], rfl, by simpa using h, .inl rfl⟩
      | cons word words =>
          rcases offends_or_takes h word words with ⟨e, he⟩ | ⟨p, rest, hwords, hp⟩
          · exact ⟨[], word :: words, rfl, by simpa using h, .inr ⟨e, by simpa using he⟩⟩
          · have hshorter : rest.length < n := by
              rw [← hlength, hwords]
              cases p <;> simp only [Piece.words, List.length_append, List.length_cons] <;> omega
            obtain ⟨more, rest, rfl, hall, hend⟩ := ih rest.length hshorter hp rest rfl
            rw [List.append_assoc] at hall hend
            exact ⟨p :: more, rest, by rw [hwords, written_cons, List.append_assoc], hall, hend⟩

/-- At the end of the words the pieces are read as what they mean. -/
theorem Means.read_nil {command : Command} (h : verb.Means pieces command) (verbose : Bool) :
    verb.read verbose pieces [] = .ok ⟨verbose || isVerboseIn pieces, command⟩ := by
  cases h with
  | validate hpaths => simp [read, readValidate, hpaths]
  | inspect hpaths => simp [read, readInspect, hpaths]
  | «export» hpaths => simp [read, readExport, hpaths]

/-- Without a path the end of the words is an error, for every verb. -/
theorem read_nil_of_pathsOf_eq_nil (h : pathsOf pieces = []) (verbose : Bool) :
    verb.read verbose pieces [] = .error (.missingPath verb.word) := by
  cases verb <;> simp [read, readValidate, readInspect, readExport, h, word]

/-- Pieces the verb takes, with at least one path among them, have a meaning. -/
theorem TakesAll.exists_means (h : verb.TakesAll pieces) (hpaths : pathsOf pieces ≠ []) :
    ∃ command, verb.Means pieces command := by
  cases verb with
  | validate => exact ⟨_, .validate hpaths⟩
  | inspect =>
      obtain ⟨path, hpath⟩ := List.length_eq_one_iff.mp
        (Nat.le_antisymm (h.onePath rfl) (List.length_pos_iff.mpr hpaths))
      exact ⟨_, .inspect hpath⟩
  | «export» =>
      obtain ⟨path, hpath⟩ := List.length_eq_one_iff.mp
        (Nat.le_antisymm (h.onePath rfl) (List.length_pos_iff.mpr hpaths))
      exact ⟨_, .export hpath⟩

/-! ### What a command answers -/

/-- The answer of a command to its words. Pieces up to the end are a command if there is a
path among them; otherwise the first word that does not fit is the error. -/
inductive Answers (verb : Verb) (verbose : Bool) :
    List String → Except ArgumentError Invocation → Prop where
  | understood {pieces : List Piece} {command : Command} (hall : verb.TakesAll pieces)
      (hmeans : verb.Means pieces command) :
      Answers verb verbose (written pieces) (.ok ⟨verbose || isVerboseIn pieces, command⟩)
  | noPath {pieces : List Piece} (hall : verb.TakesAll pieces) (hpaths : pathsOf pieces = []) :
      Answers verb verbose (written pieces) (.error (.missingPath verb.word))
  | refused {pieces : List Piece} {rest : List String} {e : ArgumentError}
      (hall : verb.TakesAll pieces) (hoffends : verb.Offends pieces rest e) :
      Answers verb verbose (written pieces ++ rest) (.error e)

/-- The reader gives the answer the grammar describes. -/
theorem Answers.read_eq {answer : Except ArgumentError Invocation}
    (h : verb.Answers verbose words answer) : verb.read verbose [] words = answer := by
  cases h with
  | @understood pieces command hall hmeans =>
      rw [← List.append_nil (written pieces), read_written hall]
      exact hmeans.read_nil verbose
  | @noPath pieces hall hpaths =>
      rw [← List.append_nil (written pieces), read_written hall]
      exact read_nil_of_pathsOf_eq_nil hpaths verbose
  | refused hall hoffends =>
      rw [read_written hall]
      exact read_of_offends hoffends verbose

/-- The grammar describes an answer for every list of words. -/
theorem exists_answers (verb : Verb) (verbose : Bool) (words : List String) :
    ∃ answer, verb.Answers verbose words answer := by
  obtain ⟨pieces, rest, rfl, hall, rfl | ⟨e, hoffends⟩⟩ := verb.takesAll_nil.exists_pieces words
  · rw [List.append_nil]
    by_cases hpaths : pathsOf pieces = []
    · exact ⟨_, .noPath hall hpaths⟩
    · obtain ⟨command, hmeans⟩ := hall.exists_means hpaths
      exact ⟨_, .understood hall hmeans⟩
  · exact ⟨_, .refused hall hoffends⟩

/-- A command reads its words as it answers to them. -/
theorem read_eq_iff_answers {answer : Except ArgumentError Invocation} :
    verb.read verbose [] words = answer ↔ verb.Answers verbose words answer := by
  refine ⟨?_, Answers.read_eq⟩
  rintro rfl
  obtain ⟨answer, hanswer⟩ := verb.exists_answers verbose words
  exact hanswer.read_eq ▸ hanswer

end Verb

/-! ### The whole command line -/

/-- Behind the verb the words are read by the verb's own reader. -/
theorem readCommand_verb (verbose : Bool) (verb : Verb) (words : List String) :
    readCommand verbose (verb.word :: words) = verb.read verbose [] words := by
  cases verb <;>
    simp [readCommand, Verb.word, Verb.read, isVerbose, isVerboseIn, isFlagged, pathsOf, lastValue?]

/-- Options before the command only ask for more output. -/
theorem readCommand_append {options : List String} (h : ∀ w ∈ options, w ∈ verboseFlags)
    (verbose : Bool) (words : List String) :
    readCommand verbose (options ++ words) = readCommand (verbose || !options.isEmpty) words := by
  induction options generalizing verbose with
  | nil => simp
  | cons option options ih =>
      obtain ⟨hoption, hoptions⟩ := List.forall_mem_cons.mp h
      rw [List.cons_append, readCommand, if_pos (isVerbose_iff.mpr hoption), ih hoptions]
      simp

/-- **The grammar of the command line.** After options that ask for more output and the word
of a command, the words are understood exactly if they are pieces that the command takes,
with a path among them. The paths are then kept in order, an option that stands alone is set
exactly if it is a piece, the last value counts, and there is more output exactly if it was
asked for before the command or among the pieces. Words are refused with an error exactly if
it is that of the first word that does not fit after the pieces before it, or if all words
are pieces and the error is that there is no path. -/
theorem arguments_grammar (verb : Verb) (options words : List String)
    (hoptions : ∀ option ∈ options, option = "-v" ∨ option = "--verbose") :
    (∀ verbose command,
      readArguments (options ++ verb.word :: words) = .ok ⟨verbose, command⟩ ↔
        ∃ pieces, words = written pieces ∧ verb.TakesAll pieces ∧ verb.Means pieces command ∧
          (verbose = true ↔
            options ≠ [] ∨ .flag "-v" ∈ pieces ∨ .flag "--verbose" ∈ pieces)) ∧
      ∀ e, readArguments (options ++ verb.word :: words) = .error e ↔
        (∃ pieces rest, words = written pieces ++ rest ∧ verb.TakesAll pieces ∧
          verb.Offends pieces rest e) ∨
        e = .missingPath verb.word ∧
          ∃ pieces, words = written pieces ∧ verb.TakesAll pieces ∧ pathsOf pieces = [] := by
  have hread : readArguments (options ++ verb.word :: words) =
      verb.read (!options.isEmpty) [] words := by
    rw [readArguments, readCommand_append (by simpa [verboseFlags] using hoptions),
      readCommand_verb, Bool.false_or]
  have hverbose : ∀ pieces, (!options.isEmpty || isVerboseIn pieces) = true ↔
      options ≠ [] ∨ .flag "-v" ∈ pieces ∨ .flag "--verbose" ∈ pieces := by
    intro pieces
    simp [isVerboseIn, isFlagged]
  simp only [hread, Verb.read_eq_iff_answers]
  refine ⟨?_, ?_⟩
  · intro verbose command
    constructor
    · intro h
      cases h with
      | @understood pieces _ hall hmeans => exact ⟨pieces, rfl, hall, hmeans, hverbose pieces⟩
    · rintro ⟨pieces, rfl, hall, hmeans, hflags⟩
      have heq : verbose = (!options.isEmpty || isVerboseIn pieces) := by
        rw [Bool.eq_iff_iff, hflags, hverbose]
      exact heq ▸ .understood hall hmeans
  · intro e
    constructor
    · intro h
      cases h with
      | @noPath pieces hall hpaths => exact .inr ⟨rfl, pieces, rfl, hall, hpaths⟩
      | @refused pieces rest _ hall hoffends => exact .inl ⟨pieces, rest, rfl, hall, hoffends⟩
    · rintro (⟨pieces, rest, rfl, hall, hoffends⟩ | ⟨rfl, pieces, rfl, hall, hpaths⟩)
      · exact .refused hall hoffends
      · exact .noPath hall hpaths

/-- Of two settings files the last one counts, between two paths. -/
theorem settings_between_paths :
    readArguments ["-v", "validate", "--config", "a.toml", "maps", "--check-images", "--config",
        "b.toml", "x.tsx"] =
      .ok ⟨true, .validate ⟨[⟨"maps"⟩, ⟨"x.tsx"⟩], false, true, some ⟨"b.toml"⟩⟩⟩ := by
  have hoptions : ∀ option ∈ ["-v"], option = "-v" ∨ option = "--verbose" := by simp
  refine ((arguments_grammar .validate ["-v"] _ hoptions).1 _ _).mpr
    ⟨[.setting "--config" "a.toml", .path "maps", .flag "--check-images",
      .setting "--config" "b.toml", .path "x.tsx"], rfl, ⟨?_, by simp [Verb.takesOnePath]⟩,
      .validate (by simp [pathsOf]), by simp⟩
  simp [Verb.Takes, Verb.settings, Verb.flags, isOption]

end TileAtlas.CommandLine
