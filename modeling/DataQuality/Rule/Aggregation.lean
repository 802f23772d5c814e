import DataQuality.Rule.Operand

/-!
# Aggregation

An aggregation reduces the numbers of one or several columns, over some rows, to one number. Cells
without a number are left out; they do not count as zero. Several columns are reduced one by one,
and the results combined.

With a grouping column the rows are first brought down to one representative for each group, the
first row of the group. Totals that are repeated on every row of an entity are added up in this
way without counting an entity twice.
-/

namespace DataQuality

/-- A **kind of aggregation**. -/
inductive AggregationKind where
  /-- The sum. -/
  | sum
  /-- The arithmetic mean. -/
  | avg
  /-- The least number. -/
  | min
  /-- The greatest number. -/
  | max
  /-- How many numbers there are. -/
  | count
  deriving DecidableEq, Inhabited

namespace AggregationKind

/-- The kind with a name in lower case. -/
def ofName? (name : String) : Option AggregationKind :=
  if name = "sum" then some .sum
  else if name = "avg" ∨ name = "average" ∨ name = "mean" then some .avg
  else if name = "min" then some .min
  else if name = "max" then some .max
  else if name = "count" then some .count
  else none

/-- The kind that a text names, blank characters around it and the case of its letters aside. -/
def parse? (raw : String) : Option AggregationKind := ofName? (Text.lowercase (Text.trim raw))

/-- The identifier of a kind. -/
def id : AggregationKind → String
  | .sum => "sum"
  | .avg => "avg"
  | .min => "min"
  | .max => "max"
  | .count => "count"

/-- The kind with the given identifier. -/
def ofId? (id : String) : Option AggregationKind :=
  if id = "sum" then some .sum
  else if id = "avg" then some .avg
  else if id = "min" then some .min
  else if id = "max" then some .max
  else if id = "count" then some .count
  else none

/-- The identifier in capitals, as it stands in messages. -/
def tag : AggregationKind → String
  | .sum => "SUM"
  | .avg => "AVG"
  | .min => "MIN"
  | .max => "MAX"
  | .count => "COUNT"

/-- The label of a kind. -/
def label : AggregationKind → String
  | .sum => "Sum"
  | .avg => "Average"
  | .min => "Min"
  | .max => "Max"
  | .count => "Count"

end AggregationKind

/-! ### Extremes -/

/-- The lesser of two floats, the second one when they are equal; what is not a number gives way. -/
def lesser (a b : Float) : Float := if a.isNaN then b else if b ≤ a then b else a

/-- The greater of two floats, the second one when they are equal; what is not a number gives way. -/
def greater (a b : Float) : Float := if a.isNaN then b else if a ≤ b then b else a

/-- The least of some numbers, infinity when there are none. -/
def least (xs : List Float) : Float := xs.foldl lesser Number.infinity

/-- The greatest of some numbers, negative infinity when there are none. -/
def greatest (xs : List Float) : Float := xs.foldl greater (-Number.infinity)

/-- The mean of some numbers. -/
def mean (xs : List Float) : Float := sum xs / Float.ofNat xs.length

namespace AggregationKind

/-- The reduction of the numbers of **one column**. -/
def reduce (kind : AggregationKind) (xs : List Float) : Float :=
  match kind with
  | .sum => DataQuality.sum xs
  | .avg => mean xs
  | .min => least xs
  | .max => greatest xs
  | .count => Float.ofNat xs.length

/-- The combination of the results of **two columns**. -/
def combine (kind : AggregationKind) (a b : Float) : Float :=
  match kind with
  | .sum => a + b
  | .avg => a + b
  | .count => a + b
  | .min => lesser a b
  | .max => greater a b

/-- The result when there is no number at all. -/
def ofNothing : AggregationKind → Option Float
  | .sum => some 0
  | .count => some 0
  | .avg => none
  | .min => none
  | .max => none

end AggregationKind

/-! ### Representatives -/

/-- The rows whose key is not among the ones already seen: the **first row of each** further
group. -/
def firstOfEach (group : String) : List String → List Row → List Row
  | _, [] => []
  | seen, row :: rows =>
    if row.key group ∈ seen then firstOfEach group seen rows
    else row :: firstOfEach group (row.key group :: seen) rows

/-- The **representatives** of the groups that a column forms. Grouping applies when the first row
has a field of that name; otherwise every row represents itself. -/
def representatives (group : String) (rows : List Row) : List Row :=
  match rows with
  | [] => []
  | first :: _ => if first.contains group then firstOfEach group [] rows else rows

/-! ### Aggregates -/

/-- The numbers in a column of some rows, in row order. -/
def columnNumbers (rows : List Row) (name : String) : List Float :=
  rows.filterMap fun row => (row.get? name).bind (·.number?)

/-- The numbers that are not equal to an earlier one; a zero has no sign in this comparison. -/
def distinctNumbers : List UInt64 → List Float → List Float
  | _, [] => []
  | seen, x :: xs =>
    let bits := (x + 0.0).toBits
    if bits ∈ seen then distinctNumbers seen xs else x :: distinctNumbers (bits :: seen) xs

/-- The result of an **aggregation**, and how many numbers took part in it. -/
structure Aggregate where
  /-- The result; there is none when the kind needs a number and there was none. -/
  value : Option Float
  /-- How many numbers took part, over all columns. -/
  count : Nat

namespace Aggregate

/-- Whether no number took part. -/
def isEmpty (a : Aggregate) : Bool := a.count == 0

/-- The numbers of a column that take part: all of them, or the distinct ones. -/
def taken (distinct : Bool) (rows : List Row) (name : String) : List Float :=
  let xs := columnNumbers rows name
  if distinct then distinctNumbers [] xs else xs

/-- An aggregate with the numbers of one more column. A column without numbers changes nothing. -/
def addColumn (kind : AggregationKind) (a : Aggregate) (xs : List Float) : Aggregate :=
  if xs.isEmpty then a
  else
    let reduced := kind.reduce xs
    ⟨some (match a.value with
      | some value => kind.combine value reduced
      | none => reduced), a.count + xs.length⟩

/-- The aggregate of the given lists of numbers, one for each column. -/
def ofColumns (kind : AggregationKind) (columns : List (List Float)) : Aggregate :=
  let a := columns.foldl (addColumn kind) ⟨none, 0⟩
  ⟨a.value.or kind.ofNothing, a.count⟩

/-- The **aggregate** of the listed columns over some rows. With a grouping column the
representatives of its groups are taken; the values are then one for each entity already, and
`distinct` does not apply. -/
def ofRows (kind : AggregationKind) (group : Option String) (distinct : Bool) (spec : String)
    (rows : List Row) : Aggregate :=
  match group with
  | some g => ofColumns kind ((columnNames spec).map (taken false (representatives g rows)))
  | none => ofColumns kind ((columnNames spec).map (taken distinct rows))

end Aggregate

end DataQuality
