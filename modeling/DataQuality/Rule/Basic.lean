import DataQuality.Rule.Aggregation

/-!
# Rules

A rule is data: an identity, an optional name and failure message, and a body that says what is
checked. The body is of one of two levels. A row rule judges every row by itself; an aggregate rule
judges totals, over the whole dataset or over each of its groups.

Every rule has a description, such as `area gte Col(crop)`, which serves as its name and as its
failure message where none is given.
-/

namespace DataQuality

/-! ### Row rules -/

/-- How several target columns become **one value**. -/
inductive TargetMode where
  /-- Their sum. -/
  | sum
  /-- The first number other than zero among them. -/
  | firstNonZero
  deriving DecidableEq, Inhabited

/-- A rule on **every row**. -/
structure RowRule where
  /-- The target: a specification of columns. -/
  column : String
  /-- What is required of the target. -/
  operator : Operator
  /-- What the target is compared with: a literal, or a specification of columns. -/
  operand : String
  /-- Whether the operand is a specification of columns. -/
  operandIsColumn : Bool
  /-- How values are compared; as the target column says, when this is left open. -/
  valueType : Option ColumnType
  /-- Whether a target that is zero or blank passes unseen. -/
  skipIfZero : Bool
  /-- Whether an empty cell is read as zero, on both sides. -/
  emptyAsZero : Bool
  /-- How several target columns become one value. -/
  targetMode : TargetMode
  deriving DecidableEq, Inhabited

/-- A row rule against a literal, with all options off. -/
def RowRule.literal (column : String) (operator : Operator) (operand : String) : RowRule :=
  ⟨column, operator, operand, false, none, false, false, .sum⟩

/-- The description of a row rule. Blank characters at its end are left out. -/
def RowRule.description (r : RowRule) : String :=
  let target := if r.operandIsColumn then "Col(" ++ r.operand ++ ")" else r.operand
  Text.trimEnd (r.column ++ " " ++ r.operator.id ++ " " ++ target)

/-! ### Aggregate rules -/

/-- An **operator of an aggregate rule**: a kind of aggregation with a comparison. -/
inductive AggregateOperator where
  /-- A kind and a comparison. -/
  | compare (kind : AggregationKind) (comparator : Comparator)
  /-- Anything else, by its name. -/
  | unknown (name : String)
  deriving DecidableEq, Inhabited

namespace AggregateOperator

/-- The operator with a normalized identifier: a kind and a comparator around the first
underscore. -/
def ofNormalized? (id : String) : Option AggregateOperator := do
  let (kind, comparator) ← Text.splitOnce? '_' id
  let kind ← AggregationKind.parse? kind
  let comparator ← Comparator.parse? comparator
  pure (.compare kind comparator)

/-- The **aggregate operator that a text names**; a text that names none is kept, without blank
characters around it. -/
def parse (raw : String) : AggregateOperator :=
  (ofNormalized? (normalizeId raw)).getD (.unknown (Text.trim raw))

/-- The identifier of an aggregate operator. -/
def id : AggregateOperator → String
  | .compare kind comparator => kind.id ++ "_" ++ comparator.id
  | .unknown name => name

/-- The kind of an aggregate operator that is recognized. -/
def kind? : AggregateOperator → Option AggregationKind
  | .compare kind _ => some kind
  | .unknown _ => none

/-- Whether an aggregate operator is recognized. -/
def isKnown (op : AggregateOperator) : Bool := op.kind?.isSome

end AggregateOperator

/-- How a grouping column is used. -/
inductive GroupMode where
  /-- One verdict for each group, over the rows of the group. -/
  | perGroup
  /-- One verdict, over the first row of each group. -/
  | representative
  deriving DecidableEq, Inhabited

/-- A rule on **totals**. -/
structure AggregateRule where
  /-- The target: a specification of columns. -/
  column : String
  /-- What is required of the total. -/
  operator : AggregateOperator
  /-- What the total is compared with: a literal, or a specification of columns. -/
  operand : String
  /-- Whether the operand is a specification of columns. -/
  operandIsColumn : Bool
  /-- The aggregation of operand columns; that of the operator, when this is left open. -/
  referenceKind : Option AggregationKind
  /-- The grouping column. -/
  groupBy : Option String
  /-- Whether only distinct numbers of a column count. -/
  distinct : Bool
  /-- How the grouping column is used. -/
  groupMode : GroupMode
  deriving DecidableEq, Inhabited

namespace AggregateRule

/-- The aggregation that operand columns are reduced by, if one is known. -/
def reference? (r : AggregateRule) : Option AggregationKind := r.referenceKind.or r.operator.kind?

/-- The label of what the total is compared with. -/
def referenceLabel (r : AggregateRule) : String :=
  if r.operandIsColumn then
    match r.reference? with
    | some kind => kind.tag ++ "(" ++ r.operand ++ ")"
    | none => "Col(" ++ r.operand ++ ")"
  else r.operand

/-- The description of an aggregate rule. -/
def description (r : AggregateRule) : String :=
  r.column ++ " " ++ r.operator.id ++ " " ++ r.referenceLabel

end AggregateRule

/-! ### Rules of either level -/

/-- The **body** of a rule, with its level. -/
inductive RuleBody where
  /-- A rule on every row. -/
  | row (rule : RowRule)
  /-- A rule on totals. -/
  | aggregate (rule : AggregateRule)
  deriving DecidableEq, Inhabited

/-- A **rule**. -/
structure Rule where
  /-- The identity of the rule within a rule set. -/
  id : UInt64
  /-- The name of the rule. -/
  name : Option String
  /-- What is reported when the rule fails. -/
  message : Option String
  /-- What the rule checks. -/
  body : RuleBody
  deriving DecidableEq, Inhabited

namespace Rule

/-- Whether the rule is on totals. -/
def isAggregate (r : Rule) : Bool :=
  match r.body with
  | .row _ => false
  | .aggregate _ => true

/-- The target of the rule. -/
def column (r : Rule) : String :=
  match r.body with
  | .row body => body.column
  | .aggregate body => body.column

/-- The description of the rule. -/
def description (r : Rule) : String :=
  match r.body with
  | .row body => body.description
  | .aggregate body => body.description

/-- The name of the rule, or else its description. -/
def displayName (r : Rule) : String := r.name.getD r.description

/-- The failure message of the rule, or else its description. -/
def failureMessage (r : Rule) : String := r.message.getD r.description

end Rule

end DataQuality
