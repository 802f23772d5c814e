import DataQuality.Dataset.Basic
import DataQuality.Event
import DataQuality.Row.Duplicates

/-!
# Data profiles

The profile of a dataset counts, for each declared column, the cells that are blank, those that
hold an error literal of a spreadsheet, those that are zero, and the distinct values among the
cells that are not blank, told apart by their displayed texts. Nothing is sampled. For the dataset
as a whole it counts the rows that repeat an earlier one.
-/

namespace DataQuality

/-- How many different elements a list has. -/
def countDistinct [DecidableEq α] (xs : List α) : Nat := (addNew [] xs).length

/-- The **profile of a column**. -/
structure ColumnProfile where
  /-- The header. -/
  name : String
  /-- How many cells are blank. -/
  blankCount : Nat
  /-- How many cells hold an error literal. -/
  errorMarkerCount : Nat
  /-- How many cells that are not blank are zero. -/
  zeroCount : Nat
  /-- How many different values the other cells have. -/
  uniqueValueCount : Nat
  deriving DecidableEq

/-- The **profile of a dataset**. -/
structure DataProfile where
  /-- The profiles of the declared columns, in their order. -/
  columns : List ColumnProfile
  /-- How many rows there are. -/
  totalRows : Nat
  /-- How many of them repeat an earlier one. -/
  duplicateRowCount : Nat
  deriving DecidableEq

/-- The profile of some cells under a header. -/
def ColumnProfile.ofCells (name : String) (cells : List Cell) : ColumnProfile :=
  let filled := cells.filter fun c => !c.isProfileBlank
  { name
    blankCount := cells.countP (·.isProfileBlank)
    errorMarkerCount := filled.countP (·.isErrorMarker)
    zeroCount := filled.countP (·.isZero)
    uniqueValueCount := countDistinct (filled.map (·.trimmed)) }

/-- The cells of a column; a row without a field of that name has a null cell there. -/
def Dataset.cells (d : Dataset) (name : String) : List Cell := d.rows.map (·.cell name)

namespace DataProfile

/-- The **profile** of a dataset. -/
def ofDataset (d : Dataset) : DataProfile where
  columns := d.names.map fun name => .ofCells name (d.cells name)
  totalRows := d.size
  duplicateRowCount := (duplicateIndices d.rows).length

/-- The events that profiling leaves. -/
def events (log : LogSettings) (p : DataProfile) : List Event :=
  if log.dataOperations then [.profiled p.columns.length p.totalRows p.duplicateRowCount] else []

end DataProfile

end DataQuality
