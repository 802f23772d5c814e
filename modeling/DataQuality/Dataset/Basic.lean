import DataQuality.Dataset.Column

/-!
# Datasets

A dataset is a list of rows together with the columns that it declares. The columns are either
given, or found from the rows: then they are the field names in the order in which they first
appear, each with its inferred type. Nothing forces a row to have a field for every column.
-/

namespace DataQuality

/-- A **dataset**: declared columns and rows. -/
structure Dataset where
  /-- The declared columns. -/
  columns : List Column
  /-- The rows. -/
  rows : List Row
  deriving Inhabited

/-- A list with the elements of a second one added that it does not hold yet, in their order. -/
def addNew [DecidableEq α] (seen : List α) : List α → List α
  | [] => seen
  | a :: as => if a ∈ seen then addNew seen as else addNew (seen ++ [a]) as

/-- The field names of the given rows, in the **order of first appearance**. -/
def firstNames (rows : List Row) : List String := rows.foldl (fun seen r => addNew seen r.names) []

namespace Dataset

/-- The dataset with the given rows and the given headers, for which only the types are inferred. -/
def ofTable (inference : Inference) (names : List String) (rows : List Row) : Dataset where
  columns := names.map fun name => ⟨name, inference.infer rows name⟩
  rows := rows

/-- The dataset with the given rows and the columns found in them. -/
def ofRows (inference : Inference) (rows : List Row) : Dataset :=
  ofTable inference (firstNames rows) rows

/-- The dataset without columns and rows. -/
def empty : Dataset := ⟨[], []⟩

/-- The headers, in order. -/
def names (d : Dataset) : List String := d.columns.map (·.name)

/-- The first declared column with the given header. -/
def column? (d : Dataset) (name : String) : Option Column := d.columns.find? (·.name == name)

/-- Whether a column with the given header is declared. -/
def hasColumn (d : Dataset) (name : String) : Bool := (d.column? name).isSome

/-- The number of rows. -/
def size (d : Dataset) : Nat := d.rows.length

/-- Whether there are no rows. -/
def isEmpty (d : Dataset) : Bool := d.rows.isEmpty

end Dataset

end DataQuality
