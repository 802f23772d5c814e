import DataQuality.Rule.Operator

/-!
# Operands

A rule names its target, and what the target is compared with, by a text. Such a text is either a
literal or a specification of columns: one column, or several with commas between them.

The sum of no numbers, with which every sum starts, is negative zero: adding it changes no number,
so that a sum of negative zeros keeps its sign.
-/

namespace DataQuality

/-- The **columns that a specification lists**: the pieces between its commas, without blank
characters around them; empty pieces do not count. -/
def columnNames (spec : String) : List String :=
  ((Text.split ',' spec).map Text.trim).filter fun name => name != ""

/-- The **sum** of numbers, added from the left. -/
def sum (xs : List Float) : Float := xs.foldl (· + ·) (-0.0)

namespace Operand

/-- The number in a column of a row, zero when there is none. -/
def numberAt (row : Row) (name : String) : Float := (row.cell name).numberOrZero

/-- The value of a **specification of columns** in a row: the cell of a single column, the sum of
the numbers of several ones. A specification that lists no column is taken as a name. -/
def ofColumns (row : Row) (spec : String) : Cell :=
  match columnNames spec with
  | [] => row.cell spec
  | [name] => row.cell name
  | names => .number (sum (names.map (numberAt row)))

/-- The value of a **literal**: a number if it is one, the canonical marker if it says “not
available” in full, and the text otherwise. -/
def ofLiteral (text : String) : Cell :=
  match Number.parse? text with
  | some n => .number n
  | none =>
    if Text.sameLetters (Text.trim text) notAvailable then .text notAvailable else .text text

/-- The value of an operand in a row. -/
def resolve (row : Row) (isColumn : Bool) (operand : String) : Cell :=
  if isColumn then ofColumns row operand else ofLiteral operand

/-- The **first number other than zero** in the listed columns of a row, in the order of the list;
zero when there is none. -/
def firstNonZero (row : Row) (spec : String) : Cell :=
  .number ((((columnNames spec).map (numberAt row)).find? (· != 0)).getD 0)

end Operand

end DataQuality
