/-
What a report's verdict and counts depend on.

A verdict reads a report only through the severities of its findings
(`passes_iff_severity`). Where findings are as serious as their kinds (`Graded`), those are
fixed by the kinds, so reports with the same kinds in the same order pass alike and count
alike, whatever their findings say and wherever they point.
-/

import TileAtlas.Report

namespace TileAtlas.Report

/-! ### Verdicts -/

/-- A report is fine if none of its findings is an error. -/
theorem isOk_iff {r : Report} : r.isOk = true ↔ ∀ i ∈ r.issues, i.isError = false := by
  unfold isOk errors
  rw [List.isEmpty_iff, List.filter_eq_nil_iff]
  simp only [Bool.not_eq_true]

/-- Findings that can only be errors are harmless only if there are none. -/
theorem eq_nil_iff_of_isError {issues : List Issue} (herrors : ∀ i ∈ issues, i.isError = true) :
    (∀ i ∈ issues, i.isError = false) ↔ issues = [] := by
  constructor
  · intro hnone
    apply List.eq_nil_iff_forall_not_mem.mpr
    intro i hi
    exact absurd (hnone i hi) (by rw [herrors i hi]; decide)
  · rintro rfl i hi
    cases hi

/-- A report passes if it has no error, and no warning where warnings are denied. -/
theorem passes_iff {r : Report} {denyWarnings : Bool} :
    r.passes denyWarnings = true ↔
      r.errors.length = 0 ∧ (denyWarnings = true → r.warnings.length = 0) := by
  unfold passes result
  simp only
  split
  · rename_i herrors
    simp only [Except.isOk, Except.toBool, Bool.false_eq_true, false_iff]
    exact fun h => absurd h.1 (Nat.pos_iff_ne_zero.mp herrors)
  · rename_i herrors
    have hzero : r.errors.length = 0 := Nat.eq_zero_of_not_pos herrors
    split
    · rename_i hwarnings
      simp only [Except.isOk, Except.toBool, Bool.false_eq_true, false_iff]
      exact fun h => absurd (h.2 hwarnings.1) (Nat.pos_iff_ne_zero.mp hwarnings.2)
    · rename_i hwarnings
      simp only [Except.isOk, Except.toBool, true_iff]
      exact ⟨hzero, fun hdeny => Nat.eq_zero_of_not_pos fun hpos => hwarnings ⟨hdeny, hpos⟩⟩

/-- No errors are listed just when no finding has that severity. -/
theorem errors_eq_nil_iff {r : Report} :
    r.errors = [] ↔ ∀ i ∈ r.issues, i.severity ≠ .error := by
  unfold errors Issue.isError
  simp only [List.filter_eq_nil_iff, beq_iff_eq, ne_eq]

/-- No warnings are listed just when no finding has that severity. -/
theorem warnings_eq_nil_iff {r : Report} :
    r.warnings = [] ↔ ∀ i ∈ r.issues, i.severity ≠ .warning := by
  unfold warnings Issue.isError
  rw [List.filter_eq_nil_iff]
  refine forall₂_congr fun i _ => ?_
  cases i.severity <;> simp

/-- A verdict is a matter of severities: no finding may be an error, nor a warning where
warnings are denied. -/
theorem passes_iff_severity {r : Report} {denyWarnings : Bool} :
    r.passes denyWarnings = true ↔
      (∀ i ∈ r.issues, i.severity ≠ .error) ∧
        (denyWarnings = true → ∀ i ∈ r.issues, i.severity ≠ .warning) := by
  rw [passes_iff, List.length_eq_zero_iff, List.length_eq_zero_iff, errors_eq_nil_iff,
    warnings_eq_nil_iff]

/-! ### Severities -/

def severities (issues : List Issue) : List Severity :=
  issues.map (·.severity)

@[simp] theorem severities_append (is js : List Issue) :
    severities (is ++ js) = severities is ++ severities js :=
  List.map_append

/-- The number of errors, by the stored severities. -/
theorem length_errors_eq_countP (r : Report) :
    r.errors.length = (severities r.issues).countP (· == .error) := by
  unfold errors severities
  rw [List.countP_map, List.countP_eq_length_filter]
  rfl

theorem length_warnings_eq_countP (r : Report) :
    r.warnings.length = (severities r.issues).countP fun s => !(s == .error) := by
  unfold warnings severities
  rw [List.countP_map, List.countP_eq_length_filter]
  rfl

/-! ### Kinds -/

def kinds (issues : List Issue) : List IssueKind :=
  issues.map (·.kind)

@[simp] theorem kinds_nil : kinds [] = [] := rfl

@[simp] theorem kinds_cons (i : Issue) (is : List Issue) : kinds (i :: is) = i.kind :: kinds is :=
  rfl

@[simp] theorem kinds_append (is js : List Issue) : kinds (is ++ js) = kinds is ++ kinds js :=
  List.map_append

/-! ### Graded findings -/

/-- Findings that are as serious as their kinds. -/
def Graded (issues : List Issue) : Prop :=
  ∀ i ∈ issues, i.severity = i.kind.severity

@[simp] theorem graded_nil : Graded [] := by
  intro i hi
  cases hi

/-- A finding is graded when it is made: nothing else fixes its severity. -/
@[simp] theorem graded_singleton_new {kind : IssueKind} {location message : String} :
    Graded [.new kind location message] := by
  intro i hi
  cases List.mem_singleton.mp hi
  rfl

/-- Findings put together are graded if both parts are. -/
@[simp] theorem graded_append {is js : List Issue} :
    Graded (is ++ js) ↔ Graded is ∧ Graded js :=
  List.forall_mem_append

/-- What is chosen by a test is graded if either choice is. -/
theorem Graded.ite {p : Prop} [Decidable p] {is js : List Issue} (his : Graded is)
    (hjs : Graded js) : Graded (if p then is else js) := by
  split
  · exact his
  · exact hjs

theorem Graded.flatMap {α : Type} {f : α → List Issue} {as : List α}
    (h : ∀ a ∈ as, Graded (f a)) : Graded (as.flatMap f) := by
  intro i hi
  obtain ⟨a, ha, hmem⟩ := List.mem_flatMap.mp hi
  exact h a ha i hmem

/-- Whether a graded finding is an error is a matter of its kind. -/
theorem Graded.isError_eq {issues : List Issue} (h : Graded issues) {i : Issue}
    (hi : i ∈ issues) : i.isError = (i.kind.severity == .error) := by
  rw [Issue.isError, h i hi]

/-- The severities of graded findings are a matter of their kinds. -/
theorem Graded.severities_eq {issues : List Issue} (h : Graded issues) :
    severities issues = (kinds issues).map IssueKind.severity := by
  unfold severities kinds
  rw [List.map_map]
  exact List.map_congr_left h

end TileAtlas.Report
