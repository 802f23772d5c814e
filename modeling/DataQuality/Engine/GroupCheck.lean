import DataQuality.Dataset.Basic
import DataQuality.Event
import DataQuality.Rule.Basic

/-!
# Group checks

An aggregate rule judges totals. The rows are first divided into parts, each with a label: the
groups that a declared column forms, or the whole dataset as one part. Then every part gets one
verdict, an outcome of type `DataQuality.GroupOutcome`. A part in which the target has no number
is passed over.

In representative mode there is one part, and totals are taken over the first row of each group.
-/

namespace DataQuality

/-! ### Parts -/

/-- Rows that get **one verdict** together. -/
structure Part where
  /-- The label of the part in messages. -/
  label : String
  /-- Its rows. -/
  rows : List Row

/-- The label of the whole dataset. -/
def globalLabel : String := "Global"

/-- The label of a group. -/
def groupLabel (column key : String) : String := column ++ "=" ++ key

/-- Rows that share a key. -/
structure Group where
  /-- The key. -/
  key : String
  /-- The rows. -/
  rows : List Row

/-- Groups with one more row: at the end of the group of its key, or in a new last group. -/
def addToGroups (key : String) (row : Row) : List Group → List Group
  | [] => [⟨key, [row]⟩]
  | g :: gs =>
    if g.key = key then ⟨g.key, g.rows ++ [row]⟩ :: gs else g :: addToGroups key row gs

/-- The **groups** that a column forms, in the order of the first row of each. -/
def groupsOf (column : String) (rows : List Row) : List Group :=
  rows.foldl (fun gs row => addToGroups (row.key column) row gs) []

/-- The whole dataset as one part. -/
def wholePart (d : Dataset) : List Part := [⟨globalLabel, d.rows⟩]

namespace AggregateRule

/-- The column that the rule forms groups by, one verdict each. -/
def groupColumn? (r : AggregateRule) : Option String :=
  match r.groupMode with
  | .perGroup => r.groupBy
  | .representative => none

/-- The column of which the rule takes one representative row a group. -/
def representativeColumn? (r : AggregateRule) : Option String :=
  match r.groupMode with
  | .perGroup => none
  | .representative => r.groupBy

/-- The **parts** that the rule judges: the groups of its grouping column, if that is declared,
and the whole dataset otherwise. -/
def parts (r : AggregateRule) (d : Dataset) : List Part :=
  match r.groupColumn? with
  | none => wholePart d
  | some column =>
    if d.hasColumn column then
      (groupsOf column d.rows).map fun g => ⟨groupLabel column g.key, g.rows⟩
    else wholePart d

end AggregateRule

/-! ### Outcomes -/

/-- The **outcome** of an aggregate rule on a part. -/
inductive GroupOutcome where
  /-- The target has no number in the part. -/
  | skipped (label : String)
  /-- The total was compared with the reference, if that has a value. -/
  | judged (label : String) (target : Float) (reference : Option Float) (passed : Bool)

namespace AggregateRule

/-- The target of the rule over some rows; there is none when no number took part. -/
def target? (r : AggregateRule) (kind : AggregationKind) (rows : List Row) : Option Float :=
  let a := Aggregate.ofRows kind r.representativeColumn? r.distinct r.column rows
  if a.isEmpty then none else a.value

/-- What the target is compared with: a literal number, or the aggregate of the operand columns
over the same rows. -/
def referenceValue? (r : AggregateRule) (kind : AggregationKind) (rows : List Row) : Option Float :=
  if r.operandIsColumn then
    (Aggregate.ofRows (r.reference?.getD kind) r.representativeColumn? r.distinct r.operand
      rows).value
  else Number.parse? r.operand

/-- The outcome on a part. Without a reference the part fails. -/
def outcome (r : AggregateRule) (kind : AggregationKind) (comparator : Comparator)
    (tolerance : Float) (part : Part) : GroupOutcome :=
  match r.target? kind part.rows with
  | none => .skipped part.label
  | some target =>
    let reference := r.referenceValue? kind part.rows
    .judged part.label target reference <|
      match reference with
      | some value => comparator.holdsWithin tolerance target value
      | none => false

/-- The **outcomes** of a rule, part by part; a rule whose operator is not recognized has none. -/
def outcomes (r : AggregateRule) (d : Dataset) (tolerance : Float) : List GroupOutcome :=
  match r.operator with
  | .unknown _ => []
  | .compare kind comparator => (r.parts d).map (r.outcome kind comparator tolerance)

/-! ### Failures -/

/-- Whether a message says that only distinct numbers count. -/
def showsDistinct (r : AggregateRule) : Bool := r.distinct && r.representativeColumn?.isNone

/-- The message of a part that failed. -/
def failureMessage (r : AggregateRule) (kind : AggregationKind) (comparator : Comparator)
    (label : String) (target : Float) (reference : Option Float) : String :=
  "FAIL [" ++ label ++ "]: " ++ kind.tag ++ "(" ++ r.column ++
    (if r.showsDistinct then " [DISTINCT]" else "") ++ ") is " ++ Number.fixed 2 target ++
    ", expected " ++ comparator.id ++ " " ++ r.referenceLabel ++ " (" ++
    (match reference with
      | some value => Number.fixed 2 value
      | none => "n/a") ++ ")"

/-- The message that an outcome leaves, if it is a failure. -/
def failure? (r : AggregateRule) : GroupOutcome → Option String
  | .skipped _ => none
  | .judged label target reference passed =>
    match r.operator with
    | .unknown _ => none
    | .compare kind comparator =>
      if passed then none else some (r.failureMessage kind comparator label target reference)

/-- The **failure messages** of a rule on a dataset. -/
def failures (r : AggregateRule) (d : Dataset) (tolerance : Float) : List String :=
  (r.outcomes d tolerance).filterMap r.failure?

/-! ### Events -/

/-- The event that an outcome leaves. -/
def event (id : UInt64) : GroupOutcome → Event
  | .skipped label => .groupSkipped id label
  | .judged label target reference passed => .groupJudged id label target reference passed

/-- The warnings that a rule gives on a dataset: an operator that is not recognized, or else the
first target column and the grouping column that are not declared. -/
def warnings (r : AggregateRule) (d : Dataset) (id : UInt64) : List Event :=
  match r.operator with
  | .unknown name => [.unknownAggregate id name]
  | .compare _ _ =>
    (match (columnNames r.column).find? fun name => !d.hasColumn name with
      | some column => [.targetAbsent id column]
      | none => []) ++
      match r.groupColumn? with
      | some column => if d.hasColumn column then [] else [.groupAbsent id column]
      | none => []

/-- The **events** that a rule leaves on a dataset. -/
def events (r : AggregateRule) (d : Dataset) (settings : Settings) (id : UInt64) : List Event :=
  r.warnings d id ++
    if settings.log.ruleDetails then (r.outcomes d settings.tolerance).map (event id) else []

end AggregateRule

end DataQuality
