import DataQuality.Number.Layout
import DataQuality.Settings
import DataQuality.Text.Blank

/-!
# Events

A run is a pure function; what it would write to a log is part of its result, as a list of events.
An event, `DataQuality.Event`, says what happened. Its level, its message and its named fields,
all of them texts, are read off it.
-/

namespace DataQuality

/-! ### Cutting long texts -/

/-- The mark behind a text that has been cut. -/
def truncationMark : String := "...(truncated)"

/-- A text **cut** to a number of characters, with a mark where it was cut. -/
def truncate (limit : Nat) (s : String) : String :=
  if s.toList.length ≤ limit then s else String.ofList (s.toList.take limit) ++ truncationMark

/-! ### Levels -/

/-- How urgent an event is. -/
inductive EventLevel where
  /-- A failure. -/
  | error
  /-- Something that the author of a rule should know. -/
  | warn
  /-- A milestone. -/
  | info
  /-- A detail. -/
  | debug
  /-- A detail of a detail. -/
  | trace
  deriving DecidableEq, Inhabited

/-- The name of a level. -/
def EventLevel.name : EventLevel → String
  | .error => "ERROR"
  | .warn => "WARN"
  | .info => "INFO"
  | .debug => "DEBUG"
  | .trace => "TRACE"

/-- The name of a level in filter directives. -/
def EventLevel.directive : EventLevel → String
  | .error => "error"
  | .warn => "warn"
  | .info => "info"
  | .debug => "debug"
  | .trace => "trace"

/-- The level with the given name. -/
def EventLevel.ofName? : String → Option EventLevel
  | "ERROR" => some .error
  | "WARN" => some .warn
  | "INFO" => some .info
  | "DEBUG" => some .debug
  | "TRACE" => some .trace
  | _ => none

/-! ### Events -/

/-- **What happened.** -/
inductive Event where
  /-- An aggregate rule has an operator that is not recognized. -/
  | unknownAggregate (rule : UInt64) (operator : String)
  /-- An aggregate rule has a target that the dataset does not declare. -/
  | targetAbsent (rule : UInt64) (column : String)
  /-- An aggregate rule is grouped by a column that the dataset does not declare. -/
  | groupAbsent (rule : UInt64) (column : String)
  /-- A group had no value for the target of a rule. -/
  | groupSkipped (rule : UInt64) (group : String)
  /-- The total of a group was judged. -/
  | groupJudged (rule : UInt64) (group : String) (target : Float) (reference : Option Float)
      (passed : Bool)
  /-- A row rule has an operator that is not recognized. -/
  | unknownOperator (rule : UInt64) (operator : String)
  /-- A row rule needs a column that the dataset does not declare. -/
  | columnAbsent (rule : UInt64) (column : String) (policy : MissingPolicy)
  /-- A row rule was passed over, since the row lacks a column. -/
  | rowSkipped (row : Nat) (rule : UInt64) (column : String)
  /-- A row was judged. -/
  | rowJudged (row : Nat) (rule : UInt64) (passed : Bool) (value : String)
  /-- A run came to its end. -/
  | runCompleted (rows rowRules passed failed globalErrors : Nat)
  /-- The built-in rules stand in for an empty rule set. -/
  | catalogApplied
  /-- A dataset was profiled. -/
  | profiled (columns rows duplicates : Nat)
  /-- A dataset was scanned. -/
  | scanned (columns nulls duplicates : Nat)
  /-- A row of a rule table was passed over. -/
  | tableRowSkipped (rule : UInt64) (name error : String)
  /-- A rule table was imported. -/
  | tableImported (rules : Nat)
  /-- A delimited file was opened as a table. -/
  | delimitedRegistered (table path : String)
  /-- A file of JSON lines was opened as a table. -/
  | linesRegistered (table path : String)
  /-- Record batches were turned into rows. -/
  | batchesConverted (rows : Nat)

namespace Event

/-- The level of an event. -/
def level : Event → EventLevel
  | unknownAggregate .. | targetAbsent .. | groupAbsent .. => .warn
  | unknownOperator .. | columnAbsent .. | tableRowSkipped .. => .warn
  | runCompleted .. | catalogApplied | profiled .. => .info
  | delimitedRegistered .. | linesRegistered .. => .info
  | groupSkipped .. | groupJudged .. | rowSkipped .. | rowJudged .. => .debug
  | scanned .. | tableImported .. | batchesConverted .. => .debug

/-- The message of an event. -/
def message : Event → String
  | unknownAggregate .. => "Unknown aggregate operator, rule always passes"
  | targetAbsent .. => "Aggregate rule targets a column absent from the dataset"
  | groupAbsent .. => "Group-by column absent from the dataset, evaluating globally"
  | groupSkipped .. => "Skipped: no values"
  | groupJudged .. => "Evaluated aggregate rule"
  | unknownOperator .. => "Unknown operator, rule always passes"
  | columnAbsent .. => "Rule references a column absent from the dataset"
  | rowSkipped .. => "Skipped: column absent"
  | rowJudged .. => "Evaluated row rule"
  | runCompleted .. => "Rule execution completed"
  | catalogApplied => "No rules supplied, applying the built-in catalog"
  | profiled .. => "Profiled dataset"
  | scanned .. => "Quick scan finished"
  | tableRowSkipped .. => "Skipping rule table row"
  | tableImported .. => "Imported rule table"
  | delimitedRegistered .. => "Registering CSV data source"
  | linesRegistered .. => "Registering NDJSON data source"
  | batchesConverted .. => "Converted record batches"

/-- The text of a truth value in an event. -/
def flagText (b : Bool) : String := if b then "true" else "false"

/-- The text of an optional float in an event. -/
def referenceText : Option Float → String
  | none => "None"
  | some x => "Some(" ++ Number.trace x ++ ")"

/-- The named fields of an event, in order. -/
def fields : Event → List (String × String)
  | unknownAggregate rule operator => [("rule_id", toString rule.toNat), ("operator", operator)]
  | targetAbsent rule column => [("rule_id", toString rule.toNat), ("column", column)]
  | groupAbsent rule column => [("rule_id", toString rule.toNat), ("group_by", column)]
  | groupSkipped rule group => [("rule_id", toString rule.toNat), ("group", group)]
  | groupJudged rule group target reference passed =>
    [("rule_id", toString rule.toNat), ("group", group), ("target", Number.plain target),
      ("compare", referenceText reference), ("passed", flagText passed)]
  | unknownOperator rule operator => [("rule_id", toString rule.toNat), ("operator", operator)]
  | columnAbsent rule column policy =>
    [("rule_id", toString rule.toNat), ("column", column), ("policy", policy.name)]
  | rowSkipped row rule column =>
    [("row", toString row), ("rule_id", toString rule.toNat), ("column", column)]
  | rowJudged row rule passed value =>
    [("row", toString row), ("rule_id", toString rule.toNat), ("passed", flagText passed),
      ("value", value)]
  | runCompleted rows rowRules passed failed globalErrors =>
    [("rows", toString rows), ("row_rules", toString rowRules), ("passed", toString passed),
      ("failed", toString failed), ("global_errors", toString globalErrors)]
  | catalogApplied => []
  | profiled columns rows duplicates =>
    [("columns", toString columns), ("rows", toString rows), ("duplicates", toString duplicates)]
  | scanned columns nulls duplicates =>
    [("columns", toString columns), ("nulls", toString nulls), ("duplicates", toString duplicates)]
  | tableRowSkipped rule name error =>
    [("rule_id", toString rule.toNat), ("rule", name), ("error", error)]
  | tableImported rules => [("imported", toString rules)]
  | delimitedRegistered table path => [("table.name", table), ("source.path", path)]
  | linesRegistered table path => [("table.name", table), ("source.path", path)]
  | batchesConverted rows => [("rows", toString rows)]

end Event

/-! ### Filters -/

/-- Which events a **subscriber** gets: those of the library from one level on, all others from
another one; explicit directives replace both. -/
structure Subscriber where
  /-- The level for everything else. -/
  globalLevel : EventLevel
  /-- The level for the library. -/
  engineLevel : EventLevel
  /-- Directives that replace the two levels. -/
  directives : Option String

/-- Warnings in general, milestones of the library. -/
def Subscriber.default : Subscriber := ⟨.warn, .info, none⟩

/-- The filter directives of a subscriber. -/
def Subscriber.filterDirectives (s : Subscriber) : String :=
  s.directives.getD (s.globalLevel.directive ++ ",dqm_guard=" ++ s.engineLevel.directive)

end DataQuality
