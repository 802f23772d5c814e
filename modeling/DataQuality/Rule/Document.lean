import DataQuality.Json.Printer
import DataQuality.Json.Reader
import DataQuality.Rule.Basic

/-!
# Rules as JSON

A rule is saved as one flat JSON object: its identity, its name and message when it has them, its
level, and the fields of its body. Fields of the body that are at their usual value may be left out.

Reading is strict about what it knows and silent about the rest. A known field must not be
repeated and must be of its kind, and the required ones must be there; which fields of the body
are known depends on the level. Unknown fields are passed over. An operator is read by name, so
that every spelling of it reads as the same operator, and is written by its identifier.
-/

namespace DataQuality

/-! ### Names of the options -/

/-- The name of a target mode. -/
def TargetMode.id : TargetMode → String
  | .sum => "sum"
  | .firstNonZero => "first_non_zero"

/-- The target mode with the given name. -/
def TargetMode.ofId? (id : String) : Option TargetMode :=
  if id = "sum" then some .sum else if id = "first_non_zero" then some .firstNonZero else none

/-- The name of a group mode. -/
def GroupMode.id : GroupMode → String
  | .perGroup => "per_group"
  | .representative => "representative"

/-- The group mode with the given name. -/
def GroupMode.ofId? (id : String) : Option GroupMode :=
  if id = "per_group" then some .perGroup
  else if id = "representative" then some .representative
  else none

/-! ### Writing -/

/-- A truth value that is left out when it is off. -/
def flagField (key : String) (value : Bool) : List (String × Json) :=
  if value then [(key, .bool true)] else []

/-- The fields of a row rule. -/
def RowRule.fields (r : RowRule) : List (String × Json) :=
  [("column", .string r.column), ("operator", .string r.operator.id),
    ("operand", .string r.operand), ("operand_is_column", .bool r.operandIsColumn)] ++
    Json.optionalField "value_type" (r.valueType.map fun t => .string t.id) ++
    flagField "skip_if_zero" r.skipIfZero ++
    flagField "empty_as_zero" r.emptyAsZero ++
    (if r.targetMode = .sum then [] else [("target_mode", .string r.targetMode.id)])

/-- The fields of an aggregate rule. -/
def AggregateRule.fields (r : AggregateRule) : List (String × Json) :=
  [("column", .string r.column), ("operator", .string r.operator.id),
    ("operand", .string r.operand), ("operand_is_column", .bool r.operandIsColumn)] ++
    Json.optionalField "ref_agg" (r.referenceKind.map fun k => .string k.id) ++
    Json.optionalField "group_by" (r.groupBy.map .string) ++
    [("distinct_per_group", .bool r.distinct), ("group_mode", .string r.groupMode.id)]

/-- The level of a rule and the fields of its body. -/
def RuleBody.fields : RuleBody → List (String × Json)
  | .row r => ("level", .string "row") :: r.fields
  | .aggregate r => ("level", .string "aggregate") :: r.fields

/-- A rule as a JSON object. -/
def Rule.toJson (r : Rule) : Json :=
  .object <|
    [("id", .ofNat r.id.toNat)] ++
      Json.optionalField "name" (r.name.map .string) ++
      Json.optionalField "message" (r.message.map .string) ++
      r.body.fields

/-! ### Reading fields -/

namespace FieldReader

/-- The value of a field that must not be repeated: a failure when it is, nothing when it is
absent. -/
def single? (fields : List (String × Json)) (key : String) : Option (Option Json) :=
  match fields.filter (·.1 == key) with
  | [] => some none
  | [(_, v)] => some (some v)
  | _ :: _ :: _ => none

/-- A field that has to be there. -/
def required? (fields : List (String × Json)) (key : String) (read : Json → Option α) : Option α :=
  match single? fields key with
  | some (some v) => read v
  | _ => none

/-- A field that has a usual value when it is absent. -/
def defaulted? (fields : List (String × Json)) (key : String) (usual : α) (read : Json → Option α) :
    Option α :=
  match single? fields key with
  | some (some v) => read v
  | some none => some usual
  | none => none

/-- A text. -/
def text? : Json → Option String
  | .string s => some s
  | _ => none

/-- A truth value. -/
def flag? : Json → Option Bool
  | .bool b => some b
  | _ => none

/-- A value or null. -/
def nullable? (read : Json → Option α) : Json → Option (Option α)
  | .null => some none
  | v => (read v).map some

/-- One of some names. It may also be given as the only key of an object, with nothing behind it. -/
def choice? (ofId? : String → Option α) : Json → Option α
  | .string s => ofId? s
  | .object [(s, .null)] => ofId? s
  | .object [(s, .object [])] => ofId? s
  | _ => none

/-- An identity. -/
def word? : Json → Option UInt64
  | .number l => Json.word? l
  | _ => none

end FieldReader

open FieldReader

/-! ### Reading rules -/

/-- A row rule from the fields of its object. -/
def RowRule.ofFields? (fields : List (String × Json)) : Option RowRule := do
  let column ← required? fields "column" text?
  let operator ← required? fields "operator" text?
  let operand ← defaulted? fields "operand" "" text?
  let operandIsColumn ← defaulted? fields "operand_is_column" false flag?
  let valueType ← defaulted? fields "value_type" none (nullable? (choice? ColumnType.ofId?))
  let skipIfZero ← defaulted? fields "skip_if_zero" false flag?
  let emptyAsZero ← defaulted? fields "empty_as_zero" false flag?
  let targetMode ← defaulted? fields "target_mode" .sum (choice? TargetMode.ofId?)
  pure ⟨column, .parse operator, operand, operandIsColumn, valueType, skipIfZero, emptyAsZero,
    targetMode⟩

/-- An aggregate rule from the fields of its object. -/
def AggregateRule.ofFields? (fields : List (String × Json)) : Option AggregateRule := do
  let column ← required? fields "column" text?
  let operator ← required? fields "operator" text?
  let operand ← defaulted? fields "operand" "" text?
  let operandIsColumn ← defaulted? fields "operand_is_column" false flag?
  let referenceKind ← defaulted? fields "ref_agg" none (nullable? (choice? AggregationKind.ofId?))
  let groupBy ← defaulted? fields "group_by" none (nullable? text?)
  let distinct ← defaulted? fields "distinct_per_group" false flag?
  let groupMode ← defaulted? fields "group_mode" .perGroup (choice? GroupMode.ofId?)
  pure ⟨column, .parse operator, operand, operandIsColumn, referenceKind, groupBy, distinct,
    groupMode⟩

/-- The level of a rule. -/
inductive RuleLevel where
  /-- On every row. -/
  | row
  /-- On totals. -/
  | aggregate
  deriving DecidableEq

/-- A level, by its name or by its place in the list of levels. -/
def RuleLevel.ofJson? : Json → Option RuleLevel
  | .string "row" => some .row
  | .string "aggregate" => some .aggregate
  | .number l =>
    match Json.word? l with
    | some 0 => some .row
    | some 1 => some .aggregate
    | _ => none
  | _ => none

/-- The body of a rule from the fields of its object. -/
def RuleBody.ofFields? (fields : List (String × Json)) : Option RuleBody := do
  match ← required? fields "level" RuleLevel.ofJson? with
  | .row => (RowRule.ofFields? fields).map .row
  | .aggregate => (AggregateRule.ofFields? fields).map .aggregate

/-- The rule that a JSON value is, if it is one. -/
def Rule.ofJson? : Json → Option Rule
  | .object fields => do
    let id ← required? fields "id" FieldReader.word?
    let name ← defaulted? fields "name" none (nullable? text?)
    let message ← defaulted? fields "message" none (nullable? text?)
    let body ← RuleBody.ofFields? fields
    pure ⟨id, name, message, body⟩
  | _ => none

end DataQuality
