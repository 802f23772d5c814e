import DataQuality.Dataset.Basic
import DataQuality.Event
import DataQuality.Rule.Basic
import DataQuality.Verdict

/-!
# Row checks

A row check is a row rule made ready for a dataset: the type by which it compares and the columns
that it needs are settled once, and the rows are judged one by one. What a check finds on a row is
an outcome, `DataQuality.RowOutcome`: either a column is missing, or a value was judged.
Evaluations, failures and events are all read off the outcomes, which is why they cannot disagree.
-/

namespace DataQuality

/-- What a row check **finds on a row**. -/
inductive RowOutcome where
  /-- The row lacks a column that the rule needs. -/
  | missing (column : String)
  /-- The value of the target was judged. -/
  | judged (value : Cell) (passed : Bool)
  deriving DecidableEq

/-- A row rule **made ready** for a dataset. -/
structure RowCheck where
  /-- The rule. -/
  rule : Rule
  /-- Its body. -/
  body : RowRule
  /-- How values are compared. -/
  type : ColumnType
  /-- The columns that a row needs to have. -/
  required : List String

namespace RowCheck

/-! ### Preparation -/

/-- The target columns that a row needs to have. Where the first number other than zero is looked
for among several columns, an absent cell is read as zero. -/
def requiredTargets (body : RowRule) : List String :=
  match body.targetMode, columnNames body.column with
  | .firstNonZero, _ :: _ :: _ => []
  | _, names => names

/-- The operand columns that a row needs to have: a single one. In a sum of several columns an
absent cell is read as zero. -/
def requiredOperands (body : RowRule) : List String :=
  if body.operandIsColumn then
    match columnNames body.operand with
    | [name] => [name]
    | _ => []
  else []

/-- The type by which values are compared: the one that the rule sets, else that of a single target
column; several columns are compared as numbers. -/
def comparedType (d : Dataset) (body : RowRule) : ColumnType :=
  match body.valueType with
  | some type => type
  | none =>
    match columnNames body.column with
    | [] => .text
    | [name] =>
      match d.column? name with
      | some column => column.type
      | none => .text
    | _ => .number

/-- The check of a row rule. -/
def ofRowRule (d : Dataset) (rule : Rule) (body : RowRule) : RowCheck :=
  ⟨rule, body, comparedType d body, requiredTargets body ++ requiredOperands body⟩

/-- The check of a rule on rows; a rule on totals has none. -/
def ofRule? (d : Dataset) (rule : Rule) : Option RowCheck :=
  match rule.body with
  | .row body => some (ofRowRule d rule body)
  | .aggregate _ => none

/-- The checks of the row rules among some rules, in rule order. -/
def ofRules (d : Dataset) (rules : List Rule) : List RowCheck := rules.filterMap (ofRule? d)

/-! ### Judging a row -/

/-- A value as the rule reads it: an empty cell may count as zero. -/
def read (c : RowCheck) (value : Cell) : Cell :=
  if c.body.emptyAsZero && value.isEmptyText then .number 0 else value

/-- The value of the target in a row. -/
def target (c : RowCheck) (row : Row) : Cell :=
  c.read <|
    match c.body.targetMode with
    | .sum => Operand.ofColumns row c.body.column
    | .firstNonZero => Operand.firstNonZero row c.body.column

/-- The value that the target is compared with in a row. -/
def operand (c : RowCheck) (row : Row) : Cell :=
  c.read (Operand.resolve row c.body.operandIsColumn c.body.operand)

/-- The first column that the rule needs and the row lacks. -/
def missing? (c : RowCheck) (row : Row) : Option String :=
  c.required.find? fun name => !row.contains name

/-- Whether a value passes unseen. -/
def passesUnseen (c : RowCheck) (value : Cell) : Bool :=
  c.body.skipIfZero && (value.isBlank || value.isZero)

/-- Whether the value of the target passes. -/
def passes (c : RowCheck) (row : Row) (value : Cell) : Bool :=
  c.passesUnseen value || c.body.operator.evaluate c.type value (c.operand row)

/-- What the check **finds on a row**. -/
def outcome (c : RowCheck) (row : Row) : RowOutcome :=
  match c.missing? row with
  | some column => .missing column
  | none => .judged (c.target row) (c.passes row (c.target row))

/-! ### Reading an outcome -/

/-- The evaluation that an outcome counts as; a rule that is passed over leaves none. -/
def evaluation? (c : RowCheck) (policy : MissingPolicy) : RowOutcome → Option Evaluation
  | .missing _ =>
    match policy with
    | .skip => none
    | .fail => some ⟨c.rule.id, c.rule.description, false, .null⟩
  | .judged value passed => some ⟨c.rule.id, c.rule.description, passed, value⟩

/-- The failure with the given message. -/
def failure (c : RowCheck) (message : String) : Failure :=
  ⟨c.body.column, c.rule.displayName, message⟩

/-- The failure that an outcome counts as, if it counts as one. -/
def failure? (c : RowCheck) (policy : MissingPolicy) : RowOutcome → Option Failure
  | .missing column =>
    match policy with
    | .skip => none
    | .fail => some (c.failure ("Column '" ++ column ++ "' not found"))
  | .judged _ passed => if passed then none else some (c.failure c.rule.failureMessage)

/-- The event of an outcome on the row at the given place. A row that fails for a missing column
leaves no event. -/
def event? (c : RowCheck) (settings : Settings) (place : Nat) : RowOutcome → Option Event
  | .missing column =>
    match settings.missing with
    | .skip => some (.rowSkipped place c.rule.id column)
    | .fail => none
  | .judged value passed =>
    some (.rowJudged place c.rule.id passed (truncate settings.log.maxFieldLength value.display))

/-- The warnings that a check gives before any row is judged. -/
def warnings (d : Dataset) (policy : MissingPolicy) (c : RowCheck) : List Event :=
  (if c.body.operator.isKnown then [] else [.unknownOperator c.rule.id c.body.operator.id]) ++
    match c.required.find? fun name => !d.hasColumn name with
    | some column => [.columnAbsent c.rule.id column policy]
    | none => []

end RowCheck

/-! ### Verdicts on rows -/

/-- Whether an outcome lets a row pass. -/
def RowOutcome.passes (policy : MissingPolicy) : RowOutcome → Bool
  | .missing _ => policy == .skip
  | .judged _ passed => passed

/-- The **verdict** of some checks on the row at the given place. -/
def RowVerdict.ofRow (policy : MissingPolicy) (checks : List RowCheck) (place : Nat) (row : Row) :
    RowVerdict where
  rowIndex := place
  passed := checks.all fun c => (c.outcome row).passes policy
  failures := checks.filterMap fun c => c.failure? policy (c.outcome row)
  evaluations := checks.filterMap fun c => c.evaluation? policy (c.outcome row)
  isDuplicate := false
  duplicateOf := none

/-- The events that some checks leave on the row at the given place. -/
def rowEvents (settings : Settings) (checks : List RowCheck) (place : Nat) (row : Row) :
    List Event :=
  if settings.log.ruleDetails then
    checks.filterMap fun c => c.event? settings place (c.outcome row)
  else []

end DataQuality
