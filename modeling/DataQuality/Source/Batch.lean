import DataQuality.Dataset.Basic
import DataQuality.Event
import DataQuality.Source.Stored

/-!
# Record batches

A record batch is a block of records stored column by column, each column with values of one type.
A table comes as a list of batches. The headers are those of the first batch; the columns of later
batches belong to them by their places, whatever their own names are. Numbers of every type become
floats.
-/

namespace DataQuality

/-- The **values of a column**, all of one type. A value may be absent. -/
inductive ColumnData where
  /-- Whole numbers. -/
  | integers (values : List (Option Int))
  /-- Floats, and numbers of other types by the floats that they are cast to. -/
  | floats (values : List (Option Float))
  /-- Floats of single precision, given by the floats that they are rounded from. -/
  | singles (values : List (Option Float))
  /-- Truth values. -/
  | flags (values : List (Option Bool))
  /-- Texts, and values of all other types by the texts that they are displayed as. -/
  | texts (values : List (Option String))

/-- The cell of a value that may be absent. -/
def Cell.ofOption (cell : α → Cell) : Option α → Cell
  | none => .null
  | some a => cell a

/-- The cells of a column. -/
def ColumnData.cells : ColumnData → List Cell
  | .integers values => values.map (.ofOption integerCell)
  | .floats values => values.map (.ofOption .number)
  | .singles values => values.map (.ofOption fun x => .number (Number.narrow x))
  | .flags values => values.map (.ofOption .bool)
  | .texts values => values.map (.ofOption .text)

/-- A column with its header. -/
structure NamedColumn where
  /-- The header. -/
  name : String
  /-- The values. -/
  data : ColumnData

/-- A **record batch**: columns of one length. The length is stored with them, since a batch
without columns has records, too. -/
structure Batch where
  /-- A batch with its length. -/
  sized ::
  /-- The columns. -/
  columns : List NamedColumn
  /-- The number of records. -/
  size : Nat

namespace Batch

/-- The batch with the given columns, as long as the first of them. -/
def mk (columns : List NamedColumn) : Batch :=
  sized columns (columns.head?.elim 0 (·.data.cells.length))

/-- The headers of a batch. -/
def names (b : Batch) : List String := b.columns.map (·.name)

/-- The record at a place, under the given headers. -/
def record (names : List String) (cells : List (List Cell)) (place : Nat) : Row :=
  .ofFields (names.zipWith (fun name column => (name, column.getD place .null)) cells)

/-- The records of a batch as rows under the given headers. -/
def rows (names : List String) (b : Batch) : List Row :=
  (List.range b.size).map (record names (b.columns.map (·.data.cells)))

end Batch

/-- The headers of a table: those of its first batch. -/
def batchNames : List Batch → List String
  | [] => []
  | first :: _ => first.names

/-- The **dataset of a table**. -/
def Dataset.ofBatches (inference : Inference) (batches : List Batch) : Dataset :=
  .ofTable inference (batchNames batches) (batches.flatMap (Batch.rows (batchNames batches)))

/-- The events that the conversion of a table leaves. A table without batches leaves none. -/
def conversionEvents (batches : List Batch) : List Event :=
  if batches.isEmpty then [] else [.batchesConverted ((batches.map (·.size)).foldl (· + ·) 0)]

end DataQuality
