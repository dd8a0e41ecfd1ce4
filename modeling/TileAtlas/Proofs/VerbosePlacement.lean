/-
More output can be asked for anywhere on the command line.

A word that asks for more output is a piece of its own for every command, and nothing but the
amount of output depends on it (`Verb.Means.insert`, `Verb.Offends.insert`). So it may stand
between any two pieces (`Verb.read_insert_flag`), and behind a word that does not fit it is
not looked at (`Verb.Offends.append`). The one place where it counts as something else is
right after an option that waits for its value.
-/

import TileAtlas.Proofs.ArgumentGrammar

namespace TileAtlas.CommandLine

/-- The same invocation with more output. -/
def Invocation.louder (i : Invocation) : Invocation :=
  { i with verbose := true }

/-! ### Between pieces -/

section Insert

variable {before after : List Piece} {word : String}

theorem pathsOf_insert (before after : List Piece) (word : String) :
    pathsOf (before ++ .flag word :: after) = pathsOf (before ++ after) := by
  rw [pathsOf_append, pathsOf_append]
  rfl

theorem lastValue?_insert (before after : List Piece) (word : String) :
    lastValue? (before ++ .flag word :: after) = lastValue? (before ++ after) := by
  simp [lastValue?]

/-- A flag more does not set another flag. -/
theorem isFlagged_insert {option : String} (h : option ≠ word) (before after : List Piece) :
    isFlagged option (before ++ .flag word :: after) = isFlagged option (before ++ after) := by
  simp [isFlagged, h]

theorem isVerboseIn_insert (hword : word ∈ verboseFlags) (before after : List Piece) :
    isVerboseIn (before ++ .flag word :: after) = true := by
  simp only [verboseFlags, List.mem_cons, List.not_mem_nil, or_false] at hword
  rcases hword with rfl | rfl <;> simp [isVerboseIn, isFlagged]

namespace Verb

variable {verb : Verb} {verbose : Bool} {rest : List String} {e : ArgumentError}
  {command : Command}

theorem mem_flags_of_mem_verboseFlags (hword : word ∈ verboseFlags) (verb : Verb) :
    word ∈ verb.flags := by
  cases verb <;> simp [flags, hword]

/-- Every verb takes a verbosity flag, wherever it stands. -/
theorem TakesAll.insert (hword : word ∈ verboseFlags) (h : verb.TakesAll (before ++ after)) :
    verb.TakesAll (before ++ .flag word :: after) := by
  refine ⟨?_, ?_⟩
  · intro p hp
    rcases List.mem_append.mp hp with hp | hp
    · exact h.takes p (List.mem_append_left _ hp)
    · rcases List.mem_cons.mp hp with rfl | hp
      · exact mem_flags_of_mem_verboseFlags hword verb
      · exact h.takes p (List.mem_append_right _ hp)
  · rw [pathsOf_insert]
    exact h.onePath

/-- A command means the same with more output. -/
theorem Means.insert (hword : word ∈ verboseFlags) (h : verb.Means (before ++ after) command) :
    verb.Means (before ++ .flag word :: after) command := by
  have hpaths := pathsOf_insert before after word
  have hvalue := lastValue?_insert before after word
  have hother : ∀ option ∉ verboseFlags,
      isFlagged option (before ++ .flag word :: after) = isFlagged option (before ++ after) := by
    intro option hoption
    refine isFlagged_insert ?_ before after
    rintro rfl
    exact hoption hword
  cases h with
  | validate h =>
      rw [← hpaths, ← hvalue, ← hother "--deny-warnings" (by decide),
        ← hother "--check-images" (by decide)]
      exact .validate (hpaths ▸ h)
  | inspect h => exact .inspect (hpaths.trans h)
  | «export» h =>
      rw [← hvalue]
      exact .export (hpaths.trans h)

/-- A flag more neither hides the offending word nor makes another one offend. -/
theorem Offends.insert (h : verb.Offends (before ++ after) rest e) (word : String) :
    verb.Offends (before ++ .flag word :: after) rest e := by
  cases h with
  | noValue hoption hvalue => exact .noValue hoption hvalue
  | unknown hword hflag hsetting => exact .unknown hword hflag hsetting
  | surplus hword hone hpath => exact .surplus hword hone (by rwa [pathsOf_insert])

/-- A word that does not fit does not fit, whatever follows, unless it waits for a value. -/
theorem Offends.append (h : verb.Offends before rest e)
    (hrest : ∀ option ∈ verb.settings, rest ≠ [option]) (words : List String) :
    verb.Offends before (rest ++ words) e := by
  cases h with
  | @noValue option rest hoption hvalue =>
      cases rest with
      | nil => exact absurd rfl (hrest option hoption)
      | cons value rest => exact .noValue hoption hvalue
  | unknown hword hflag hsetting => exact .unknown hword hflag hsetting
  | surplus hword hone hpath => exact .surplus hword hone hpath

/-! ### Among the words of a command -/

/-- Being verbose from the start changes nothing but the verbosity. -/
theorem read_true (verb : Verb) (verbose : Bool) (words : List String) :
    verb.read true [] words = (verb.read verbose [] words).map Invocation.louder := by
  obtain ⟨answer, hanswer⟩ := verb.exists_answers verbose words
  rw [hanswer.read_eq]
  cases hanswer with
  | understood hall hmeans => exact (Answers.understood hall hmeans).read_eq
  | noPath hall hpaths => exact (Answers.noPath hall hpaths).read_eq
  | refused hall hoffends => exact (Answers.refused hall hoffends).read_eq

/-- Between two pieces, a word for more output does nothing else. -/
theorem read_insert_flag (hword : word ∈ verboseFlags) (hbefore : verb.TakesAll before)
    (words : List String) :
    verb.read verbose [] (written before ++ word :: words) =
      (verb.read verbose [] (written before ++ words)).map Invocation.louder := by
  obtain ⟨after, rest, rfl, hall, hend⟩ := hbefore.exists_pieces words
  have hinsert := hall.insert hword
  have hwithout : written before ++ (written after ++ rest) = written (before ++ after) ++ rest := by
    rw [written_append, List.append_assoc]
  have hwith : written before ++ word :: (written after ++ rest) =
      written (before ++ .flag word :: after) ++ rest := by
    simp [written_append, written_cons]
  rw [hwithout, hwith]
  rcases hend with rfl | ⟨e, hoffends⟩
  · rw [List.append_nil, List.append_nil]
    by_cases hpaths : pathsOf (before ++ after) = []
    · rw [(Answers.noPath hall hpaths).read_eq,
        (Answers.noPath hinsert ((pathsOf_insert ..).trans hpaths)).read_eq]
      rfl
    · obtain ⟨command, hmeans⟩ := hall.exists_means hpaths
      rw [(Answers.understood hall hmeans).read_eq,
        (Answers.understood hinsert (hmeans.insert hword)).read_eq, isVerboseIn_insert hword,
        Bool.or_true]
      rfl
  · rw [(Answers.refused hall hoffends).read_eq,
      (Answers.refused hinsert (hoffends.insert word)).read_eq]
    rfl

/-- Anywhere among the words of a command but right after an option that waits for its value,
a word for more output does nothing else. -/
theorem read_insert (hword : word ∈ verboseFlags) {front : List String}
    (hfront : ∀ pieces, ∀ option ∈ verb.settings, verb.TakesAll pieces →
      front ≠ written pieces ++ [option]) (words : List String) :
    verb.read verbose [] (front ++ word :: words) =
      (verb.read verbose [] (front ++ words)).map Invocation.louder := by
  obtain ⟨pieces, rest, rfl, hall, rfl | ⟨e, hoffends⟩⟩ := verb.takesAll_nil.exists_pieces front
  · rw [List.append_nil]
    exact read_insert_flag hword hall words
  · rw [List.nil_append] at hall hoffends
    have hrest : ∀ option ∈ verb.settings, rest ≠ [option] := by
      rintro option hoption rfl
      exact hfront pieces option hoption hall rfl
    rw [List.append_assoc, List.append_assoc,
      (Answers.refused hall (hoffends.append hrest (word :: words))).read_eq,
      (Answers.refused hall (hoffends.append hrest words)).read_eq]
    rfl

end Verb

end Insert

/-! ### On the whole command line -/

/-- What the first word does: it asks for more output, it is a whole command by itself, it is
a command that takes arguments, or it is refused, whatever follows. -/
theorem readCommand_cases (word : String) :
    word ∈ verboseFlags ∨
      (∃ command, (command = .help ∨ command = .version) ∧
        ∀ verbose words, readCommand verbose (word :: words) = .ok ⟨verbose, command⟩) ∨
      (∃ verb : Verb, word = verb.word) ∨
      ∃ e, ∀ verbose words, readCommand verbose (word :: words) = .error e := by
  by_cases hverbose : isVerbose word = true
  · exact .inl (isVerbose_iff.mp hverbose)
  refine .inr ?_
  by_cases hhelp : word = "-h" ∨ word = "--help" ∨ word = "help"
  · exact .inl ⟨.help, .inl rfl, by simp [readCommand, hverbose, hhelp]⟩
  by_cases hversion : word = "-V" ∨ word = "--version"
  · exact .inl ⟨.version, .inr rfl, by simp [readCommand, hverbose, hhelp, hversion]⟩
  refine .inr ?_
  by_cases hverb : ∃ verb : Verb, word = verb.word
  · exact .inl hverb
  have hnot : ∀ verb : Verb, word ≠ verb.word := not_exists.mp hverb
  have hvalidate := hnot .validate
  have hinspect := hnot .inspect
  have hexport := hnot .export
  simp only [Verb.word] at hvalidate hinspect hexport
  refine .inr ?_
  by_cases hoption : isOption word = true
  · exact ⟨.unknownOption word, by
      simp [readCommand, hverbose, hhelp, hversion, hvalidate, hinspect, hexport, hoption]⟩
  · exact ⟨.unknownCommand word, by
      simp [readCommand, hverbose, hhelp, hversion, hvalidate, hinspect, hexport, hoption]⟩

theorem readCommand_cons_of_mem {word : String} (h : word ∈ verboseFlags) (verbose : Bool)
    (words : List String) : readCommand verbose (word :: words) = readCommand true words := by
  rw [readCommand, if_pos (isVerbose_iff.mpr h)]

/-- Being verbose before the verb changes nothing but the verbosity. -/
theorem readCommand_true (verbose : Bool) (words : List String) :
    readCommand true words = (readCommand verbose words).map Invocation.louder := by
  induction words generalizing verbose with
  | nil => rfl
  | cons word words ih =>
      rcases readCommand_cases word with hword | ⟨command, -, hcommand⟩ | ⟨verb, rfl⟩ | ⟨e, he⟩
      · rw [readCommand_cons_of_mem hword, readCommand_cons_of_mem hword]
        exact ih true
      · rw [hcommand, hcommand]
        rfl
      · rw [readCommand_verb, readCommand_verb]
        exact verb.read_true verbose words
      · rw [he, he]
        rfl

/-- Words after which a value is due: options that ask for more output, a command, pieces that
it takes, and an option that takes a value. -/
def AwaitsValue (words : List String) : Prop :=
  ∃ (options : List String) (verb : Verb) (pieces : List Piece) (option : String),
    words = options ++ verb.word :: (written pieces ++ [option]) ∧
      (∀ w ∈ options, w ∈ verboseFlags) ∧ verb.TakesAll pieces ∧ option ∈ verb.settings

/-- A verbosity flag in front leaves an option waiting for its value. -/
theorem AwaitsValue.cons {word : String} {words : List String} (hword : word ∈ verboseFlags)
    (h : AwaitsValue words) : AwaitsValue (word :: words) := by
  obtain ⟨options, verb, pieces, option, rfl, hoptions, hall, hoption⟩ := h
  exact ⟨word :: options, verb, pieces, option, rfl, List.forall_mem_cons.mpr ⟨hword, hoptions⟩,
    hall, hoption⟩

/-- The last of such words is an option. -/
theorem AwaitsValue.isOption_getLast? {words : List String} (h : AwaitsValue words) :
    words.getLast?.any isOption = true := by
  obtain ⟨options, verb, pieces, option, rfl, -, -, hoption⟩ := h
  have hlast : (options ++ verb.word :: (written pieces ++ [option])).getLast? = some option := by
    rw [← List.cons_append, ← List.append_assoc, List.getLast?_concat]
  rw [hlast]
  exact verb.isOption_of_mem option (List.mem_append_right _ hoption)

/-- Anywhere but in the place of an option's value, a verbosity flag changes only the verbosity. -/
theorem readCommand_insert {word : String} (hword : word ∈ verboseFlags)
    {front words : List String} (hfront : ¬ AwaitsValue front) {verbose : Bool}
    (hcommand : ∀ i, readCommand verbose (front ++ words) = .ok i →
      i.command ≠ .help ∧ i.command ≠ .version) :
    readCommand verbose (front ++ word :: words) =
      (readCommand verbose (front ++ words)).map Invocation.louder := by
  induction front generalizing verbose with
  | nil =>
      rw [List.nil_append, List.nil_append, readCommand_cons_of_mem hword]
      exact readCommand_true verbose words
  | cons first front ih =>
      simp only [List.cons_append] at hcommand ⊢
      rcases readCommand_cases first with hfirst | ⟨command, hname, halone⟩ | ⟨verb, rfl⟩ | ⟨e, he⟩
      · rw [readCommand_cons_of_mem hfirst] at hcommand ⊢
        rw [readCommand_cons_of_mem hfirst]
        exact ih (fun h => hfront (h.cons hfirst)) hcommand
      · obtain ⟨hhelp, hversion⟩ := hcommand _ (halone verbose (front ++ words))
        exact absurd hname (not_or.mpr ⟨hhelp, hversion⟩)
      · rw [readCommand_verb, readCommand_verb]
        refine Verb.read_insert hword ?_ words
        rintro pieces option hoption hall rfl
        exact hfront ⟨[], verb, pieces, option, rfl, by simp, hall, hoption⟩
      · rw [he, he]
        rfl

/-- **More output can be asked for anywhere.** Where the words of a command line are refused
or make a command that takes arguments, a word for more output may be put in at any place but
right after an option that waits for its value: the error stays the same, and so does the
command, now with more output. -/
theorem verbose_anywhere (word : String) (front words : List String)
    (hword : word = "-v" ∨ word = "--verbose") (hfront : ¬ AwaitsValue front)
    (hcommand : ∀ i, readArguments (front ++ words) = .ok i →
      i.command ≠ .help ∧ i.command ≠ .version) :
    (∀ e, readArguments (front ++ words) = .error e →
        readArguments (front ++ word :: words) = .error e) ∧
      ∀ i, readArguments (front ++ words) = .ok i →
        readArguments (front ++ word :: words) = .ok { i with verbose := true } := by
  have hinsert := readCommand_insert (by simpa [verboseFlags] using hword) hfront hcommand
  unfold readArguments
  refine ⟨?_, ?_⟩
  · intro e he
    rw [hinsert, he]
    rfl
  · intro i hi
    rw [hinsert, hi]
    rfl

/-- Right after a value, and before the path. -/
theorem verbose_after_value :
    ¬ AwaitsValue ["export", "-o", "a.json"] ∧
      readArguments ["export", "-o", "a.json", "--verbose", "a.tsx"] =
        .ok ⟨true, .export ⟨"a.tsx"⟩ (some ⟨"a.json"⟩)⟩ := by
  have hfront : ¬ AwaitsValue ["export", "-o", "a.json"] := by
    intro h
    exact absurd h.isOption_getLast? (by decide)
  have hread : readArguments ["export", "-o", "a.json", "a.tsx"] =
      .ok ⟨false, .export ⟨"a.tsx"⟩ (some ⟨"a.json"⟩)⟩ := rfl
  refine ⟨hfront, (verbose_anywhere "--verbose" _ ["a.tsx"] (.inr rfl) hfront ?_).2 _ hread⟩
  intro i hi
  cases hread.symm.trans hi
  exact ⟨by simp, by simp⟩

end TileAtlas.CommandLine
