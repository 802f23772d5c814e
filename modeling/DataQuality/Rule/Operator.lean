import DataQuality.Dataset.Column
import DataQuality.Rule.Comparator
import DataQuality.Text.Search

/-!
# Operators of row rules

An operator judges a value against an operand. Comparisons go by number or by text, as the type of
the column says; the other operators do not look at it. A blank value fails every operator except
the two that ask for blankness and the consistency check. An operator that is not recognized keeps
its name and passes always.
-/

namespace DataQuality

/-- An **operator** of a row rule. -/
inductive Operator where
  /-- A comparison, by number or by text. -/
  | compare (comparator : Comparator)
  /-- The operand occurs in the value. -/
  | contains
  /-- The operand does not occur in the value. -/
  | notContains
  /-- The value begins with the operand. -/
  | startsWith
  /-- The value is blank. -/
  | isBlank
  /-- The value is not blank. -/
  | notBlank
  /-- The value lies between the two bounds in the operand, both included. -/
  | between
  /-- The value is a number other than zero exactly when the operand is present. -/
  | consistency
  /-- Anything else, by its name. -/
  | unknown (name : String)
  deriving DecidableEq, Inhabited

namespace Operator

/-! ### Names -/

/-- The operators that are no comparisons, by their identifiers. -/
def named : List (String × Operator) :=
  [("contains", .contains), ("not_contains", .notContains), ("starts_with", .startsWith),
    ("is_blank", .isBlank), ("not_blank", .notBlank), ("between", .between),
    ("consistency", .consistency)]

/-- The **operator that a text names**; a text that names none is kept, without blank characters
around it. -/
def parse (raw : String) : Operator :=
  match Comparator.parse? raw with
  | some c => .compare c
  | none =>
    match named.lookup (normalizeId raw) with
    | some op => op
    | none => .unknown (Text.trim raw)

/-- The identifier of an operator. -/
def id : Operator → String
  | .compare c => c.id
  | .contains => "contains"
  | .notContains => "not_contains"
  | .startsWith => "starts_with"
  | .isBlank => "is_blank"
  | .notBlank => "not_blank"
  | .between => "between"
  | .consistency => "consistency"
  | .unknown name => name

/-- Whether an operator is recognized. -/
def isKnown : Operator → Bool
  | .unknown _ => false
  | _ => true

/-- Whether an operator looks at the value alone. -/
def isUnary : Operator → Bool
  | .isBlank => true
  | .notBlank => true
  | _ => false

/-! ### Meaning -/

/-- Whether a companion value is **absent** for the consistency check: blank, or the text `nan`. -/
def isAbsent (companion : Cell) : Bool :=
  companion.isBlank || Text.sameLetters companion.trimmed "nan"

/-- The **consistency check**: an indicator other than zero needs a companion, and an indicator
that is zero, or no number, must not have one. -/
def consistent (indicator companion : Cell) : Bool :=
  if indicator.numberOrZero != 0 then !isAbsent companion else isAbsent companion

/-- The **range check**: the value and both bounds are numbers, and the value lies between them. The
bounds stand on the two sides of the first comma. -/
def inRange (value bounds : Cell) : Bool :=
  match Text.splitOnce? ',' bounds.display with
  | none => false
  | some (low, high) =>
    match value.number?, Number.parse? low, Number.parse? high with
    | some n, some low, some high => low ≤ n && n ≤ high
    | _, _, _ => false

/-- A comparison of two cells, by number or by text. Cells that are no numbers fail every
comparison by number; texts are compared in lower case. -/
def compareCells (c : Comparator) (type : ColumnType) (value operand : Cell) : Bool :=
  match type with
  | .number =>
    match value.number?, operand.number? with
    | some a, some b => c.holds a b
    | _, _ => false
  | .text => c.holdsOf (Text.order value.folded operand.folded)

/-- The **verdict of an operator** on a value and an operand. -/
def evaluate (op : Operator) (type : ColumnType) (value operand : Cell) : Bool :=
  match op with
  | .isBlank => value.isBlank
  | .notBlank => !value.isBlank
  | .consistency => consistent value operand
  | .unknown _ => true
  | .contains => !value.isBlank && Text.contains value.folded operand.folded
  | .notContains => !value.isBlank && !Text.contains value.folded operand.folded
  | .startsWith => !value.isBlank && Text.startsWith value.folded operand.folded
  | .between => !value.isBlank && inRange value operand
  | .compare c => !value.isBlank && compareCells c type value operand

end Operator

end DataQuality
