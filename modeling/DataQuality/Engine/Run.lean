import DataQuality.Dataset.Profile
import DataQuality.Engine.GroupCheck
import DataQuality.Engine.RowCheck
import DataQuality.Rule.Catalog

/-!
# Runs

A run judges a dataset by a list of rules. The aggregate rules come first, each on its own; then
every row gets a verdict from the row rules; then repeated rows are marked, which makes no row
fail; and the summary is taken from the verdicts. A run never fails, and no rule can influence
another one.

`DataQuality.execute` gives the outcome of a run, and `DataQuality.executionEvents` the events
that it leaves behind, in order.
-/

namespace DataQuality

/-! ### Totals -/

/-- The failures of the aggregate rules among some rules, in rule order. -/
def globalErrors (tolerance : Float) (d : Dataset) (rules : List Rule) : List String :=
  rules.flatMap fun rule =>
    match rule.body with
    | .row _ => []
    | .aggregate body => body.failures d tolerance

/-- The events of the aggregate rules among some rules, in rule order. -/
def globalEvents (settings : Settings) (d : Dataset) (rules : List Rule) : List Event :=
  rules.flatMap fun rule =>
    match rule.body with
    | .row _ => []
    | .aggregate body => body.events d settings rule.id

/-! ### Rows -/

/-- The verdicts on some rows, the first of them at the given place. -/
def rowVerdicts (policy : MissingPolicy) (checks : List RowCheck) (place : Nat) :
    List Row → List RowVerdict
  | [] => []
  | row :: rows => .ofRow policy checks place row :: rowVerdicts policy checks (place + 1) rows

/-- The events of some rows, the first of them at the given place. -/
def rowsEvents (settings : Settings) (checks : List RowCheck) (place : Nat) :
    List Row → List Event
  | [] => []
  | row :: rows =>
    rowEvents settings checks place row ++ rowsEvents settings checks (place + 1) rows

/-- Verdicts with the marks of repeated rows. -/
def markDuplicates (verdicts : List RowVerdict) (references : List (Option Nat)) :
    List RowVerdict :=
  verdicts.zipWith RowVerdict.mark references

/-- The **verdicts on all rows** of a dataset. -/
def verdicts (settings : Settings) (d : Dataset) (rules : List Rule) : List RowVerdict :=
  let judged := rowVerdicts settings.missing (RowCheck.ofRules d rules) 1 d.rows
  if settings.flagDuplicates then markDuplicates judged (duplicateReferences d.rows) else judged

/-! ### Runs -/

/-- The **outcome** of a run. -/
def execute (settings : Settings) (d : Dataset) (rules : List Rule) : Execution :=
  let results := verdicts settings d rules
  ⟨results, .ofVerdicts results, globalErrors settings.tolerance d rules⟩

/-- The event at the end of a run. -/
def completionEvent (checks : List RowCheck) (e : Execution) : Event :=
  .runCompleted e.summary.total checks.length e.summary.passed e.summary.failed
    e.globalErrors.length

/-- The **events** of a run, in order. -/
def executionEvents (settings : Settings) (d : Dataset) (rules : List Rule) : List Event :=
  let checks := RowCheck.ofRules d rules
  globalEvents settings d rules ++
    checks.flatMap (RowCheck.warnings d settings.missing) ++
    rowsEvents settings checks 1 d.rows ++
    [completionEvent checks (execute settings d rules)]

/-! ### Runs with a profile -/

/-- The outcome of a run together with a profile of the dataset. -/
structure ProfiledExecution where
  /-- The outcome. -/
  execution : Execution
  /-- The profile. -/
  profile : DataProfile
  /-- The rules that were applied. -/
  rulesApplied : RuleSet

/-- The rules that a run with a profile applies: the built-in ones when there are no others. -/
def rulesToApply (rules : RuleSet) : RuleSet :=
  if rules.isEmpty then Catalog.standardRules else rules

/-- The outcome of a **run with a profile**. -/
def executeWithProfile (settings : Settings) (d : Dataset) (rules : RuleSet) :
    ProfiledExecution where
  execution := execute settings d (rulesToApply rules).rules
  profile := .ofDataset d
  rulesApplied := rulesToApply rules

/-- The events of a run with a profile. The profiler has log settings of its own, the usual ones. -/
def profiledEvents (settings : Settings) (d : Dataset) (rules : RuleSet) : List Event :=
  (if rules.isEmpty && settings.log.dataOperations then [.catalogApplied] else []) ++
    (DataProfile.ofDataset d).events .default ++
    executionEvents settings d (rulesToApply rules).rules

end DataQuality
