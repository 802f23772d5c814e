import DataQuality.Proofs.Row.Insertion
import DataQuality.Source.Batch

/-!
# Tables and the datasets that their rows make

A dataset finds its columns in two ways. A table that comes in record batches brings the headers of
its first batch; rows alone bring the names that they have, in the order of first appearance. The
two meet as soon as there is one row (`DataQuality.Dataset.holdsBatches_ofBatches`): every record
has a field for every header, in the order of the headers, so that the first row names all columns
and no later row can add one (`DataQuality.firstNames_of_forall_names_eq`). Without rows they do not
meet, since a table then still has its headers.

What the cell of a record is, is told by the type of its column and not by the conversion
(`DataQuality.ColumnData.Holds`).
-/

namespace DataQuality

/-! ### Rows that all have the same names -/

/-- **One row names the columns of all**, when the others have the same names. -/
theorem firstNames_of_forall_names_eq {rows : List Row} {names : List String} (hne : rows ≠ [])
    (h : ∀ row ∈ rows, row.names = names) : firstNames rows = names := by
  obtain ⟨row, rest, rfl⟩ := List.exists_cons_of_ne_nil hne
  have hfirst : row.names = names := h row List.mem_cons_self
  have hrest : writtenNames rest ⊆ names := by
    intro name hname
    obtain ⟨other, hother, hmem⟩ := List.mem_flatMap.mp hname
    rwa [h other (List.mem_cons_of_mem row hother)] at hmem
  have hwritten : writtenNames (row :: rest) = names ++ writtenNames rest := by
    rw [writtenNames, List.flatMap_cons, hfirst]
    rfl
  have hnodup : ([] ++ names).Nodup := hfirst ▸ row.nodup
  rw [firstNames_eq, hwritten, addNew_append, addNew_of_nodup hnodup]
  exact addNew_of_subset hrest

/-! ### Records -/

/-- The cell that a column **holds at a place**: a number, a truth value or a text, by the type of
the column, and the null cell for a value that is absent. -/
inductive ColumnData.Holds : ColumnData → Nat → Cell → Prop where
  | noInteger {values : List (Option Int)} {place : Nat} (h : values[place]? = some none) :
      Holds (.integers values) place .null
  | integer {values : List (Option Int)} {place : Nat} {n : Int}
      (h : values[place]? = some (some n)) :
      Holds (.integers values) place (.number (Float.ofInt n))
  | noFloat {values : List (Option Float)} {place : Nat} (h : values[place]? = some none) :
      Holds (.floats values) place .null
  | float {values : List (Option Float)} {place : Nat} {x : Float}
      (h : values[place]? = some (some x)) : Holds (.floats values) place (.number x)
  | noSingle {values : List (Option Float)} {place : Nat} (h : values[place]? = some none) :
      Holds (.singles values) place .null
  | single {values : List (Option Float)} {place : Nat} {x : Float}
      (h : values[place]? = some (some x)) :
      Holds (.singles values) place (.number (Number.narrow x))
  | noFlag {values : List (Option Bool)} {place : Nat} (h : values[place]? = some none) :
      Holds (.flags values) place .null
  | flag {values : List (Option Bool)} {place : Nat} {b : Bool}
      (h : values[place]? = some (some b)) : Holds (.flags values) place (.bool b)
  | noText {values : List (Option String)} {place : Nat} (h : values[place]? = some none) :
      Holds (.texts values) place .null
  | text {values : List (Option String)} {place : Nat} {s : String}
      (h : values[place]? = some (some s)) : Holds (.texts values) place (.text s)

/-- The cells of a column are what it holds. -/
theorem ColumnData.holds_of_cells_eq {data : ColumnData} {place : Nat} {cell : Cell}
    (h : data.cells[place]? = some cell) : data.Holds place cell := by
  cases data <;> rw [cells, List.getElem?_map, Option.map_eq_some_iff] at h <;>
    obtain ⟨value, hvalue, rfl⟩ := h <;> cases value
  · exact .noInteger hvalue
  · exact .integer hvalue
  · exact .noFloat hvalue
  · exact .float hvalue
  · exact .noSingle hvalue
  · exact .single hvalue
  · exact .noFlag hvalue
  · exact .flag hvalue
  · exact .noText hvalue
  · exact .text hvalue

/-- A column has a cell to show at each of its places. -/
theorem ColumnData.holds_getD {data : ColumnData} {place : Nat} (h : place < data.cells.length) :
    data.Holds place (data.cells.getD place .null) := by
  refine holds_of_cells_eq ?_
  rw [List.getD_eq_getElem?_getD, List.getElem?_eq_getElem h]
  rfl

/-- The row of a **record**: one field a column, in their order, with what the column holds. -/
def Batch.IsRecord (b : Batch) (place : Nat) (row : Row) : Prop :=
  List.Forall₂ (fun column field => field.1 = column.name ∧ column.data.Holds place field.2)
    b.columns row.fields

/-- The rows of a batch are **its records**, each in its place and none besides. -/
structure Batch.AreRecords (b : Batch) (rows : List Row) : Prop where
  /-- There are as many rows as records. -/
  length_eq : rows.length = b.size
  /-- They stand in the order of the records. -/
  isRecord : ∀ place row, rows[place]? = some row → b.IsRecord place row

/-- The batches of **one table**: they share their headers, which are distinct, and the columns of
each are as long as the batch. -/
structure IsTable (batches : List Batch) : Prop where
  /-- No header is used twice. -/
  nodup_names : (batchNames batches).Nodup
  /-- All batches have the headers of the first. -/
  names_eq : ∀ b ∈ batches, b.names = batchNames batches
  /-- Every column has a value or a gap for each record. -/
  length_cells : ∀ b ∈ batches, ∀ column ∈ b.columns, column.data.cells.length = b.size

namespace Batch

variable {b : Batch}

/-- The fields of a record under the headers of its batch. -/
theorem fields_record (h : b.names.Nodup) (place : Nat) :
    (record b.names (b.columns.map (·.data.cells)) place).fields =
      b.columns.map fun column => (column.name, column.data.cells.getD place .null) := by
  have hzip : b.names.zipWith (fun name column => (name, column.getD place .null))
      (b.columns.map (·.data.cells)) =
        b.columns.map fun column => (column.name, column.data.cells.getD place .null) := by
    rw [names, List.zipWith_map, List.zipWith_self]
  rw [record, hzip]
  refine Row.fields_ofFields ?_
  rw [fieldNames, List.map_map]
  exact h

/-- The rows of a batch have its headers. -/
theorem names_of_mem_rows (h : b.names.Nodup) {row : Row} (hrow : row ∈ rows b.names b) :
    row.names = b.names := by
  obtain ⟨place, -, rfl⟩ := List.mem_map.mp hrow
  rw [Row.names, fields_record h, fieldNames, List.map_map]
  rfl

/-- **The rows of a batch are its records.** -/
theorem areRecords_rows (h : b.names.Nodup)
    (hlength : ∀ column ∈ b.columns, column.data.cells.length = b.size) :
    b.AreRecords (rows b.names b) where
  length_eq := by rw [rows, List.length_map, List.length_range]
  isRecord place row hrow := by
    rw [rows, List.getElem?_map, Option.map_eq_some_iff] at hrow
    obtain ⟨k, hk, rfl⟩ := hrow
    obtain ⟨hlt, rfl⟩ := List.getElem?_eq_some_iff.mp hk
    rw [List.length_range] at hlt
    rw [IsRecord, fields_record h, List.forall₂_map_right_iff, List.forall₂_same]
    intro column hcolumn
    have hplace : place < column.data.cells.length := by rwa [hlength column hcolumn]
    rw [List.getElem_range]
    exact ⟨rfl, ColumnData.holds_getD hplace⟩

end Batch

/-- A dataset that **holds the records of some batches**, and that its own rows make again. -/
structure Dataset.HoldsBatches (inference : Inference) (batches : List Batch) (d : Dataset) :
    Prop where
  /-- The rows bring all the columns with them, in order and with their types. -/
  eq_ofRows : d = .ofRows inference d.rows
  /-- The rows are the records of the batches, one batch behind the other. -/
  rows_eq : ∃ blocks, d.rows = blocks.flatten ∧ List.Forall₂ Batch.AreRecords batches blocks

/-- **A table with a record is the dataset that its rows make**, in however many batches it comes
and wherever empty ones stand between them. -/
theorem Dataset.holdsBatches_ofBatches (inference : Inference) {batches : List Batch}
    (htable : IsTable batches) (hrecord : ∃ b ∈ batches, 0 < b.size) :
    (Dataset.ofBatches inference batches).HoldsBatches inference batches := by
  have hnodup : ∀ b ∈ batches, b.names.Nodup := fun b hb =>
    htable.names_eq b hb ▸ htable.nodup_names
  have hblock : ∀ b ∈ batches, b.AreRecords (b.rows (batchNames batches)) := fun b hb =>
    htable.names_eq b hb ▸ Batch.areRecords_rows (hnodup b hb) (htable.length_cells b hb)
  have hnames : ∀ row ∈ batches.flatMap (Batch.rows (batchNames batches)),
      row.names = batchNames batches := by
    intro row hrow
    obtain ⟨b, hb, hrow⟩ := List.mem_flatMap.mp hrow
    rw [← htable.names_eq b hb] at hrow ⊢
    exact Batch.names_of_mem_rows (hnodup b hb) hrow
  have hne : batches.flatMap (Batch.rows (batchNames batches)) ≠ [] := by
    obtain ⟨b, hb, hsize⟩ := hrecord
    rw [← (hblock b hb).length_eq] at hsize
    exact List.ne_nil_of_mem (List.mem_flatMap.mpr ⟨b, hb, List.getElem_mem hsize⟩)
  refine ⟨?_, batches.map (Batch.rows (batchNames batches)), List.flatMap_def, ?_⟩
  · rw [ofRows, ofBatches]
    exact congrArg (ofTable inference · _) (firstNames_of_forall_names_eq hne hnames).symm
  · rw [List.forall₂_map_right_iff, List.forall₂_same]
    exact hblock

/-- A table in three batches, with gaps in all columns and no record in the second batch. -/
def gappyBatches : List Batch :=
  [.sized [⟨"code", .integers [some 7, none]⟩, ⟨"open", .flags [none, some true]⟩,
    ⟨"name", .texts [none, some "b"]⟩] 2,
   .sized [⟨"code", .integers []⟩, ⟨"open", .flags []⟩, ⟨"name", .texts []⟩] 0,
   .sized [⟨"code", .integers [some 8]⟩, ⟨"open", .flags [some false]⟩, ⟨"name", .texts [none]⟩] 1]

/-- The rows of such a table make it again. -/
theorem Dataset.holdsBatches_ofBatches_gappyBatches :
    IsTable gappyBatches ∧ (∃ b ∈ gappyBatches, 0 < b.size) ∧
      (Dataset.ofBatches .default gappyBatches).HoldsBatches .default gappyBatches := by
  have htable : IsTable gappyBatches := ⟨by decide, by decide, by decide⟩
  have hrecord : ∃ b ∈ gappyBatches, 0 < b.size := by decide
  exact ⟨htable, hrecord, holdsBatches_ofBatches .default htable hrecord⟩

end DataQuality
