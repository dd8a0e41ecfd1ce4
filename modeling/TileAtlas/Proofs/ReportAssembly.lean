/-
Reports that are put together step by step.

A report starts empty. A step records one finding, or appends another report that was put
together the same way, so steps nest to any depth (`Report.Step`). However they nest, the
report holds the findings that were added, in their order: what one step adds is said once
(`Report.Step.issues_apply`), and the whole run follows by going through the steps
(`Report.issues_run`). Any finding could be pushed, whatever its severity; the steps push
none but those that are as serious as their kinds (`Report.Step.graded_apply`,
`Report.graded_run`).

Errors and warnings part the findings of a report (`Report.parted`), and the verdict reads
the two counts only (`Report.result_eq_ok_iff`, `Report.result_eq_error_iff`). Counts add up
when reports are merged, so a merged report passes if both of its parts do.
-/

import TileAtlas.Proofs.Report

namespace TileAtlas.Report

/-! ### Steps -/

/-- A step in putting a report together. A report that is merged is given by its own steps. -/
inductive Step where
  | add (kind : IssueKind) (location message : String)
  | merge (steps : List Step)

mutual

def Step.apply : Report → Step → Report
  | r, .add kind location message => r.add kind location message
  | r, .merge steps => r.merge (run .empty steps)

def run : Report → List Step → Report
  | r, [] => r
  | r, step :: steps => run (step.apply r) steps

end

def built (steps : List Step) : Report :=
  run .empty steps

mutual

/-- The findings that a step adds, in the order of the steps that add them. -/
def Step.added : Step → List Issue
  | .add kind location message => [⟨kind.severity, kind, location, message⟩]
  | .merge steps => addedBy steps

def addedBy : List Step → List Issue
  | [] => []
  | step :: steps => step.added ++ addedBy steps

end

mutual

/-- A step leaves the findings as they are and puts its own behind them. -/
theorem Step.issues_apply :
    ∀ (step : Step) (r : Report), (step.apply r).issues = r.issues ++ step.added
  | .add kind location message, r => by
      rw [Step.apply, Step.added]
      rfl
  | .merge steps, r => by
      rw [Step.apply, Step.added, merge, issues_run steps .empty]
      rfl

/-- The run lemma: the findings are those the steps added, in the order of the steps. -/
theorem issues_run :
    ∀ (steps : List Step) (r : Report), (run r steps).issues = r.issues ++ addedBy steps
  | [], r => by
      rw [run, addedBy, List.append_nil]
  | step :: steps, r => by
      rw [run, addedBy, issues_run steps, step.issues_apply, List.append_assoc]

end

/-- A report holds what was added to it. -/
theorem issues_built (steps : List Step) : (built steps).issues = addedBy steps :=
  issues_run steps .empty

/-! ### Severities -/

variable {r s : Report} {denyWarnings : Bool}

/-- Pushing keeps the grading just when the finding pushed is graded: the report does not
regrade. -/
theorem graded_push_iff {i : Issue} :
    Graded (r.push i).issues ↔ Graded r.issues ∧ i.severity = i.kind.severity := by
  unfold push
  rw [graded_append]
  exact and_congr_right fun _ => List.forall_mem_singleton

mutual

/-- A step keeps all findings as serious as their kinds. -/
theorem Step.graded_apply :
    ∀ (step : Step) {r : Report}, Graded r.issues → Graded (step.apply r).issues
  | .add kind location message, r, h => by
      rw [Step.apply, add]
      exact graded_push_iff.mpr ⟨h, rfl⟩
  | .merge steps, r, h => by
      rw [Step.apply]
      exact graded_append.mpr ⟨h, graded_run steps graded_nil⟩

/-- The run lemma: any run of additions and merges keeps a report graded. -/
theorem graded_run :
    ∀ (steps : List Step) {r : Report}, Graded r.issues → Graded (run r steps).issues
  | [], r, h => by
      rw [run]
      exact h
  | step :: steps, r, h => by
      rw [run]
      exact graded_run steps (step.graded_apply h)

end

/-- In a report that was put together by steps, findings are as serious as their kinds. -/
theorem graded_built (steps : List Step) : Graded (built steps).issues :=
  graded_run steps graded_nil

/-! ### Errors and warnings -/

/-- Findings parted into errors and warnings: none is lost, none is in both lists, and both
lists keep the order. -/
structure Parted (issues errors warnings : List Issue) : Prop where
  perm : (errors ++ warnings).Perm issues
  apart : ∀ i ∈ errors, i ∉ warnings
  errors_sublist : errors.Sublist issues
  warnings_sublist : warnings.Sublist issues
  severity_of_mem_errors : ∀ i ∈ errors, i.severity = .error
  severity_of_mem_warnings : ∀ i ∈ warnings, i.severity = .warning

/-- The errors listed have the severity of errors. -/
theorem severity_of_mem_errors {i : Issue} (h : i ∈ r.errors) : i.severity = .error :=
  beq_iff_eq.mp (List.mem_filter.mp h).2

theorem severity_of_mem_warnings {i : Issue} (h : i ∈ r.warnings) : i.severity = .warning := by
  have hnot : i.isError = false := by simpa using (List.mem_filter.mp h).2
  have hne : i.severity ≠ .error := beq_eq_false_iff_ne.mp hnot
  cases hseverity : i.severity with
  | warning => rfl
  | error => exact absurd hseverity hne

/-- Errors and warnings part the findings, each list in the order of the report. -/
theorem parted (r : Report) : Parted r.issues r.errors r.warnings where
  perm := List.filter_append_perm _ r.issues
  apart := by
    intro i herror hwarning
    cases (severity_of_mem_errors herror).symm.trans (severity_of_mem_warnings hwarning)
  errors_sublist := List.filter_sublist
  warnings_sublist := List.filter_sublist
  severity_of_mem_errors _ := severity_of_mem_errors
  severity_of_mem_warnings _ := severity_of_mem_warnings

theorem length_errors_add_length_warnings (r : Report) :
    r.errors.length + r.warnings.length = r.issues.length := by
  rw [← List.length_append]
  exact r.parted.perm.length_eq

/-! ### Verdicts -/

/-- The result is a success by the two counts alone. -/
theorem result_eq_ok_iff :
    r.result denyWarnings = .ok () ↔
      r.errors.length = 0 ∧ (denyWarnings = true → r.warnings.length = 0) := by
  rw [← passes_iff, passes]
  cases r.result denyWarnings <;> simp [Except.isOk, Except.toBool]

/-- A failure gives the counts: both of them if there is an error, and otherwise that of the
warnings, which only count where they are denied. -/
theorem result_eq_error_iff {failure : Failure} :
    r.result denyWarnings = .error failure ↔
      0 < r.errors.length ∧ failure = .errors r.errors.length r.warnings.length ∨
        r.errors.length = 0 ∧ denyWarnings = true ∧ 0 < r.warnings.length ∧
          failure = .warnings r.warnings.length := by
  unfold result
  simp only
  split
  · rename_i herrors
    have hne : r.errors.length ≠ 0 := Nat.pos_iff_ne_zero.mp herrors
    simp only [herrors, hne, true_and, false_and, or_false, Except.error.injEq]
    exact eq_comm
  · rename_i herrors
    have hzero : r.errors.length = 0 := Nat.eq_zero_of_not_pos herrors
    simp only [hzero, Nat.lt_irrefl, false_and, true_and, false_or]
    split
    · rename_i hwarnings
      simp only [hwarnings.1, hwarnings.2, true_and, Except.error.injEq]
      exact eq_comm
    · rename_i hwarnings
      simp only [reduceCtorEq, false_iff]
      exact fun h => hwarnings ⟨h.1, h.2.1⟩

/-- Being fine is succeeding where warnings are let pass. -/
theorem isOk_iff_result : r.isOk = true ↔ r.result false = .ok () := by
  rw [result_eq_ok_iff, isOk, List.isEmpty_iff, List.length_eq_zero_iff]
  simp

/-- A report without errors and warnings has no findings, since there are no others. -/
theorem isClean_iff_result : r.isClean = true ↔ r.result true = .ok () := by
  have hcount := r.length_errors_add_length_warnings
  rw [result_eq_ok_iff, isClean, List.isEmpty_iff, ← List.length_eq_zero_iff]
  simp only [forall_const]
  omega

/-- A merged report passes if both of its parts do. -/
theorem result_merge_iff :
    (r.merge s).result denyWarnings = .ok () ↔
      r.result denyWarnings = .ok () ∧ s.result denyWarnings = .ok () := by
  simp only [result_eq_ok_iff, errors_merge, warnings_merge, List.length_append,
    Nat.add_eq_zero_iff]
  constructor
  · rintro ⟨⟨hr, hs⟩, hwarnings⟩
    exact ⟨⟨hr, fun hdeny => (hwarnings hdeny).1⟩, hs, fun hdeny => (hwarnings hdeny).2⟩
  · rintro ⟨⟨hr, hrwarnings⟩, hs, hswarnings⟩
    exact ⟨⟨hr, hs⟩, fun hdeny => ⟨hrwarnings hdeny, hswarnings hdeny⟩⟩

/-- **What a report says, however it was put together.** Its findings are those that were
added, in order, each as serious as its kind. Errors and warnings part them. There are no
errors exactly if the report passes with warnings allowed, and no findings exactly if it
passes with warnings denied; where it fails, the failure gives the counts. Merged with
another report it passes exactly if both pass, and the counts add up. -/
theorem built_report_laws (steps : List Step) :
    (∀ i ∈ (built steps).issues, i.severity = i.kind.severity) ∧
      (built steps).issues = addedBy steps ∧
      Parted (built steps).issues (built steps).errors (built steps).warnings ∧
      ((built steps).isOk = true ↔ (built steps).result false = .ok ()) ∧
      ((built steps).isClean = true ↔ (built steps).result true = .ok ()) ∧
      (∀ deny failure, (built steps).result deny = .error failure ↔
        0 < (built steps).errors.length ∧
            failure = .errors (built steps).errors.length (built steps).warnings.length ∨
          (built steps).errors.length = 0 ∧ deny = true ∧ 0 < (built steps).warnings.length ∧
            failure = .warnings (built steps).warnings.length) ∧
      ∀ others deny,
        (((built steps).merge (built others)).result deny = .ok () ↔
          (built steps).result deny = .ok () ∧ (built others).result deny = .ok ()) ∧
        ((built steps).merge (built others)).errors.length =
          (built steps).errors.length + (built others).errors.length ∧
        ((built steps).merge (built others)).warnings.length =
          (built steps).warnings.length + (built others).warnings.length := by
  refine ⟨graded_built steps, issues_built steps, parted _, isOk_iff_result, isClean_iff_result,
    fun _ _ => result_eq_error_iff, ?_⟩
  intro others deny
  refine ⟨result_merge_iff, ?_, ?_⟩
  · rw [errors_merge, List.length_append]
  · rw [warnings_merge, List.length_append]

example : (built [.add .unnamedColor "a.tsx" "color 1 has no name",
    .merge [.merge [.add .unknownColor "b.tsx" "color 4 is not declared"],
      .add .unusedColor "b.tsx" "color 2 is never used"]]).result true =
    .error (.errors 1 2) := rfl

end TileAtlas.Report
