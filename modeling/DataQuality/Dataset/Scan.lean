import DataQuality.Dataset.Profile
import DataQuality.Rule.Aggregation

/-!
# Quick scans

A quick scan gives a first impression of a dataset: repeated rows, and for each declared column
how many cells are blank, how many different values there are, which kind of value prevails, the
range of the numbers and the lengths of the texts. The findings are plain numbers; what to make of
them is left to the reader.
-/

namespace DataQuality

/-- The range of the numbers in a column. -/
structure NumericRange where
  /-- The least number. -/
  min : Float
  /-- The greatest number. -/
  max : Float
  /-- Their mean. -/
  avg : Float

/-- The lengths of the texts in a column, in characters. -/
structure LengthRange where
  /-- The least length. -/
  minLength : Nat
  /-- The greatest length. -/
  maxLength : Nat

/-- The **findings on a column**. -/
structure ColumnMetrics where
  /-- The header. -/
  name : String
  /-- How many different values the cells have that are not blank. -/
  uniqueCount : Nat
  /-- Their share in the cells that are not blank. -/
  uniquenessRatio : Float
  /-- How many cells are blank. -/
  nullCount : Nat
  /-- Their share in all cells. -/
  nullRate : Float
  /-- The kind of value that prevails. -/
  inferredType : ColumnType
  /-- Whether every row has a value of its own. -/
  isPrimaryKeyCandidate : Bool
  /-- The range of the numbers, if there are any. -/
  numeric : Option NumericRange
  /-- The lengths of the texts, if there are any. -/
  text : Option LengthRange

/-- The **findings of a quick scan**. -/
structure QuickScan where
  /-- The places of the rows that repeat an earlier one. -/
  duplicateRowIndices : List Nat
  /-- The findings on the declared columns, in their order. -/
  columns : List ColumnMetrics
  /-- How many rows there are. -/
  totalRows : Nat
  /-- How many columns there are. -/
  totalColumns : Nat
  /-- How many cells are blank, over all columns. -/
  nullCount : Nat

/-- The range of some numbers. -/
def NumericRange.ofNumbers? (xs : List Float) : Option NumericRange :=
  if xs.isEmpty then none else some ⟨least xs, greatest xs, mean xs⟩

/-- The range of some lengths. -/
def LengthRange.ofLengths? : List Nat → Option LengthRange
  | [] => none
  | n :: ns => some ⟨ns.foldl Nat.min n, ns.foldl Nat.max n⟩

/-- The length of the displayed text of a cell, in characters. -/
def Cell.displayLength (c : Cell) : Nat := c.display.toList.length

namespace ColumnMetrics

/-- The findings on some cells under a header. -/
def ofCells (name : String) (cells : List Cell) : ColumnMetrics :=
  let filled := cells.filter fun c => !c.isBlank
  let numbers := filled.filterMap (·.number?)
  let lengths := (filled.filter fun c => c.number?.isNone).map (·.displayLength)
  let unique := countDistinct (filled.map (·.distinctKey))
  let nulls := cells.countP (·.isBlank)
  { name
    uniqueCount := unique
    uniquenessRatio := ratio unique (numbers.length + lengths.length)
    nullCount := nulls
    nullRate := ratio nulls cells.length
    inferredType := if lengths.length < numbers.length then .number else .text
    isPrimaryKeyCandidate := unique == cells.length && nulls == 0
    numeric := NumericRange.ofNumbers? numbers
    text := LengthRange.ofLengths? lengths }

end ColumnMetrics

namespace QuickScan

/-- The **quick scan** of a dataset. -/
def ofDataset (d : Dataset) : QuickScan :=
  let columns := d.names.map fun name => ColumnMetrics.ofCells name (d.cells name)
  { duplicateRowIndices := duplicateIndices d.rows
    columns
    totalRows := d.size
    totalColumns := columns.length
    nullCount := (columns.map (·.nullCount)).foldl (· + ·) 0 }

/-- The headers of the columns in which every row has a value of its own. -/
def primaryKeyCandidates (s : QuickScan) : List String :=
  (s.columns.filter (·.isPrimaryKeyCandidate)).map (·.name)

/-- The events that a scan leaves. -/
def events (s : QuickScan) : List Event :=
  [.scanned s.totalColumns s.nullCount s.duplicateRowIndices.length]

end QuickScan

end DataQuality
