/-
Findings, and the report that collects them.

A finding is made as serious as its kind, and keeps its severity beside it. A report fails
on any error, and on a warning too when warnings are denied.
-/

namespace TileAtlas

inductive Severity where
  | warning
  | error
deriving DecidableEq, Repr

namespace Severity

def name : Severity → String
  | .warning => "warning"
  | .error => "error"

def rank : Severity → Nat
  | .warning => 0
  | .error => 1

instance : Ord Severity := ⟨fun a b => compare a.rank b.rank⟩

end Severity

inductive IssueKind where
  | tileOutOfRange
  | unknownColor
  | colorTileOutOfRange
  | setTileOutOfRange
  | duplicateWangTile
  | inactivePosition
  | emptyWangId
  | unusedColor
  | unnamedColor
  | duplicateWangSet
  | invalidProbability
  | invalidTileSize
  | missingColumns
  | imageTooSmall
  | tileCountExceedsGrid
  | imageMissing
  | imageUnreadable
  | imageSizeMismatch
  | invalidFirstGid
  | unresolvedGid
  | gidOutOfRange
  | tileSizeMismatch
deriving DecidableEq, Repr

/-- What cannot be right is an error; what is only odd is a warning. -/
def IssueKind.severity : IssueKind → Severity
  | .inactivePosition | .emptyWangId | .unusedColor | .unnamedColor | .duplicateWangSet
  | .imageMissing | .tileSizeMismatch => .warning
  | _ => .error

/-- A finding. Nothing keeps its severity from being another than its kind's: that findings
are made by `Issue.new` is a matter of those who make them. -/
structure Issue where
  severity : Severity
  kind : IssueKind
  location : String
  message : String
deriving DecidableEq, Repr

namespace Issue

/-- A finding as serious as its kind. -/
def new (kind : IssueKind) (location message : String) : Issue where
  severity := kind.severity
  kind := kind
  location := location
  message := message

@[simp] theorem severity_new (kind : IssueKind) (location message : String) :
    (new kind location message).severity = kind.severity := rfl

@[simp] theorem kind_new (kind : IssueKind) (location message : String) :
    (new kind location message).kind = kind := rfl

def isError (i : Issue) : Bool := i.severity == .error

def text (i : Issue) : String :=
  i.severity.name ++ ": " ++ i.location ++ ": " ++ i.message

end Issue

/-- Why a report does not pass. -/
inductive Failure where
  | errors (errors warnings : Nat)
  | warnings (count : Nat)
deriving DecidableEq, Repr

def Failure.message : Failure → String
  | .errors e w => s!"validation failed with {e} error(s) and {w} warning(s)"
  | .warnings n => s!"validation found {n} warning(s) and warnings are denied"

structure Report where
  issues : List Issue
deriving DecidableEq, Repr

namespace Report

def empty : Report := ⟨[]⟩

def push (r : Report) (i : Issue) : Report :=
  ⟨r.issues ++ [i]⟩

def add (r : Report) (kind : IssueKind) (location message : String) : Report :=
  r.push (.new kind location message)

def merge (r s : Report) : Report :=
  ⟨r.issues ++ s.issues⟩

def errors (r : Report) : List Issue :=
  r.issues.filter (·.isError)

def warnings (r : Report) : List Issue :=
  r.issues.filter (fun i => !i.isError)

/-- Merging puts the errors of the second report after those of the first. -/
@[simp] theorem errors_merge (r s : Report) : (r.merge s).errors = r.errors ++ s.errors :=
  List.filter_append _ _

@[simp] theorem warnings_merge (r s : Report) :
    (r.merge s).warnings = r.warnings ++ s.warnings :=
  List.filter_append _ _

def ofKind (r : Report) (kind : IssueKind) : List Issue :=
  r.issues.filter (fun i => i.kind == kind)

def has (r : Report) (kind : IssueKind) : Bool :=
  r.issues.any (fun i => i.kind == kind)

/-- No errors; warnings are allowed. -/
def isOk (r : Report) : Bool :=
  r.errors.isEmpty

def isClean (r : Report) : Bool :=
  r.issues.isEmpty

/-- Whether the report passes, with warnings denied or not. -/
def result (r : Report) (denyWarnings : Bool) : Except Failure Unit :=
  let e := r.errors.length
  let w := r.warnings.length
  if 0 < e then .error (.errors e w)
  else if denyWarnings ∧ 0 < w then .error (.warnings w)
  else .ok ()

def passes (r : Report) (denyWarnings : Bool) : Bool :=
  (r.result denyWarnings).isOk

end Report

end TileAtlas
