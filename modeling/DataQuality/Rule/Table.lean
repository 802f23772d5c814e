import DataQuality.Event
import DataQuality.Rule.Set

/-!
# Rule tables

Rules can be kept in a sheet, one rule a row. `DataQuality.RuleTable.convert` makes a rule of a
row; a row with an unknown level, without a target, or with an unknown aggregation is malformed.

An import numbers the rows from `DataQuality.RuleTable.firstId` on, malformed ones included, so
that the identity of a rule tells its row. A lenient import passes over malformed rows, with a
warning for each; a strict one is refused at the first of them.

An aggregate rule of a table that has a grouping column takes one representative row a group.
-/

namespace DataQuality.RuleTable

/-! ### Columns of the table -/

/-- The name of the rule. -/
def nameColumn : String := "QC_Check_Name"
/-- The level of the rule. -/
def levelColumn : String := "Level"
/-- The target of the rule. -/
def targetColumn : String := "Target_Column"
/-- The operator of the rule, or the comparator of an aggregate rule. -/
def conditionColumn : String := "Condition"
/-- What the target is compared with. -/
def compareColumn : String := "Compare_Against"
/-- Whether the target is compared with columns. -/
def isColumnColumn : String := "Is_Compare_Column"
/-- The aggregation of an aggregate rule. -/
def aggregationColumn : String := "Aggregation"
/-- The grouping column of an aggregate rule. -/
def groupColumn : String := "Group_By"
/-- Whether only distinct numbers count. -/
def distinctColumn : String := "Distinct"

/-- The identity of the rule in the first row. -/
def firstId : Nat := 500

/-! ### Fields -/

/-- The **text of a field**, without blank characters around it; there is none when nothing is
left. -/
def text? (row : Row) (column : String) : Option String :=
  match row.get? column with
  | none => none
  | some cell => if cell.trimmed = "" then none else some cell.trimmed

/-- The text of a field, empty when there is none. -/
def textOrEmpty (row : Row) (column : String) : String := (text? row column).getD ""

/-- Whether a field says yes. -/
def flag (row : Row) (column : String) : Bool :=
  match text? row column with
  | none => false
  | some s => Text.sameLetters s "true" || Text.sameLetters s "yes"

/-- The level of a rule: on rows, if nothing else is said. -/
def level? (row : Row) : Option RuleLevel :=
  let name := Text.lowercase ((text? row levelColumn).getD "row")
  if name = "row" then some .row
  else if name = "agg" ∨ name = "aggregate" then some .aggregate
  else none

/-- The name of the rule in the row at the given index. -/
def ruleName (index : Nat) (row : Row) : String :=
  (text? row nameColumn).getD ("Rule " ++ toString (index + 1))

/-- The identity of the rule in the row at the given index. -/
def ruleId (index : Nat) : UInt64 := UInt64.ofNat (firstId + index)

/-! ### Rules -/

/-- The row rule of a table row with the given target. -/
def rowRule (row : Row) (target : String) : RowRule :=
  { RowRule.literal target (.parse (textOrEmpty row conditionColumn))
      (textOrEmpty row compareColumn) with
    operandIsColumn := flag row isColumnColumn }

/-- The operator of an aggregate rule: a comparator under the aggregation of the row. -/
def aggregateOperator (kind : AggregationKind) (condition : String) : AggregateOperator :=
  match Comparator.parse? condition with
  | some comparator => .compare kind comparator
  | none => .unknown condition

/-- The aggregate rule of a table row with the given target and aggregation. -/
def aggregateRule (row : Row) (target : String) (kind : AggregationKind) : AggregateRule where
  column := target
  operator := aggregateOperator kind (textOrEmpty row conditionColumn)
  operand := textOrEmpty row compareColumn
  operandIsColumn := flag row isColumnColumn
  referenceKind := some kind
  groupBy := text? row groupColumn
  distinct := flag row distinctColumn
  groupMode := if (text? row groupColumn).isSome then .representative else .perGroup

/-- The aggregation that a row names, the sum if it names none. -/
def aggregationName (row : Row) : String := (text? row aggregationColumn).getD "Sum"

/-- The body of the rule in a row, or what is wrong with the row. -/
def body (row : Row) : Except String RuleBody :=
  match level? row with
  | none => .error ("unrecognised level '" ++ textOrEmpty row levelColumn ++ "'")
  | some level =>
    match text? row targetColumn with
    | none => .error "empty target column"
    | some target =>
      match level with
      | .row => .ok (.row (rowRule row target))
      | .aggregate =>
        match AggregationKind.parse? (aggregationName row) with
        | none => .error ("unrecognised aggregation '" ++ aggregationName row ++ "'")
        | some kind => .ok (.aggregate (aggregateRule row target kind))

/-- The **rule in a row** of a table, at the given index. -/
def convert (index : Nat) (row : Row) : Except Error Rule :=
  match body row with
  | .ok body => .ok ⟨ruleId index, some (ruleName index row), none, body⟩
  | .error text => .error (.invalidRule (ruleName index row) text)

/-! ### Import -/

/-- How malformed rows are treated. -/
inductive ImportMode where
  /-- They are passed over. -/
  | lenient
  /-- They are refused. -/
  | strict
  deriving DecidableEq

/-- The import of further rows into a rule set, the first of them at the given index. -/
def importFrom (mode : ImportMode) (s : RuleSet) (index : Nat) : List Row → Except Error RuleSet
  | [] => .ok s
  | row :: rows =>
    match convert index row with
    | .ok rule =>
      match s.add rule with
      | .ok s => importFrom mode s (index + 1) rows
      | .error e => .error e
    | .error e =>
      match mode with
      | .lenient => importFrom mode s (index + 1) rows
      | .strict => .error e

/-- The **rule set of a table**. -/
def importRows (mode : ImportMode) (rows : List Row) : Except Error RuleSet :=
  importFrom mode .empty 0 rows

/-- The warnings about malformed rows, the first row standing at the given index. -/
def warningsFrom (index : Nat) : List Row → List Event
  | [] => []
  | row :: rows =>
    match convert index row with
    | .ok _ => warningsFrom (index + 1) rows
    | .error e =>
      .tableRowSkipped (ruleId index) (ruleName index row) e.message ::
        warningsFrom (index + 1) rows

/-- The **events** that an import leaves. A strict import that is refused leaves none. -/
def importEvents (mode : ImportMode) (rows : List Row) : List Event :=
  match importRows mode rows with
  | .error _ => []
  | .ok s => warningsFrom 0 rows ++ [.tableImported s.size]

end DataQuality.RuleTable
