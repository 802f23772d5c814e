import DataQuality.Dataset.Scan
import DataQuality.Engine.Run
import DataQuality.Report.Timestamp

/-!
# Reports

A report puts together what a run has found and, as far as they are wanted, the profile of the
dataset, the findings of a quick scan, the rules that were applied, and the dataset itself. It is
written in one of several forms; what they show is chosen by `DataQuality.ReportSettings`.
-/

namespace DataQuality

/-- What a report **shows**. -/
structure ReportSettings where
  /-- Whether rows are shown. -/
  rows : Bool
  /-- Whether rows that passed are shown too. -/
  passingRows : Bool
  /-- How many rows are shown at most; without a limit all are. -/
  maxRows : Option Nat
  /-- Whether the profile is shown. -/
  profile : Bool
  /-- Whether the findings of the quick scan are shown. -/
  quickScan : Bool
  /-- Whether the text is coloured. -/
  colors : Bool
  /-- Whether the time of the report is shown. -/
  timestamps : Bool
  deriving DecidableEq

namespace ReportSettings

/-- The usual choice: rows that need attention, fifty of them at most. -/
def default : ReportSettings := ⟨true, false, some 50, true, true, true, true⟩

/-- The summary alone. -/
def minimal : ReportSettings := ⟨false, false, some 0, false, false, false, false⟩

/-- Everything. -/
def detailed : ReportSettings := ⟨true, true, none, true, true, true, true⟩

end ReportSettings

/-- A **report** on a run. -/
structure Report where
  /-- The name of the input. -/
  source : Option String
  /-- When the report was made. -/
  generatedAt : Timestamp
  /-- What the run has found. -/
  execution : Execution
  /-- The profile of the dataset. -/
  profile : Option DataProfile
  /-- The findings of a quick scan. -/
  quickScan : Option QuickScan
  /-- The rules that were applied. -/
  rules : Option (List Rule)
  /-- The dataset. -/
  dataset : Option Dataset

namespace Report

/-- A report on the outcome of a run alone. -/
def ofExecution (generatedAt : Timestamp) (execution : Execution) : Report :=
  ⟨none, generatedAt, execution, none, none, none, none⟩

/-- A report on a run with a profile, with the profile and the rules. -/
def ofProfiled (generatedAt : Timestamp) (p : ProfiledExecution) : Report :=
  { ofExecution generatedAt p.execution with
    profile := some p.profile
    rules := some p.rulesApplied.rules }

/-- Whether a verdict may be shown: the row failed, or it repeats an earlier one, or rows that
passed are shown too. -/
def isEligible (settings : ReportSettings) (v : RowVerdict) : Bool :=
  settings.passingRows || !v.passed || v.isDuplicate

/-- The verdicts that may be shown, in row order. -/
def eligible (settings : ReportSettings) (e : Execution) : List RowVerdict :=
  e.results.filter (isEligible settings)

/-- The verdicts that **are shown**: the first ones that may be, up to the limit. -/
def selected (settings : ReportSettings) (e : Execution) : List RowVerdict :=
  match settings.maxRows with
  | none => eligible settings e
  | some n => (eligible settings e).take n

end Report

end DataQuality
