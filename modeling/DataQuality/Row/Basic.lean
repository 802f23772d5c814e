import DataQuality.Cell

/-!
# Rows

A row is an ordered map from field names to cells. The fields keep the order in which they were
first written, since duplicates are found by comparing rows field by field in that order. Writing
a name a second time replaces its cell where it stands, so that names never repeat; this invariant
is part of the type.
-/

namespace DataQuality

/-- The name and the cell of a **field**. -/
abbrev Field := String × Cell

/-- The names of a list of fields. -/
def fieldNames (fields : List Field) : List String := fields.map Prod.fst

/-- A list of fields with one cell written: in place when the name is there, at the end otherwise.
-/
def writeField (name : String) (cell : Cell) : List Field → List Field
  | [] => [(name, cell)]
  | (n, c) :: rest => if n = name then (n, cell) :: rest else (n, c) :: writeField name cell rest

/-- The names after a write are the names before it, followed by the new one. -/
theorem fieldNames_writeField (name : String) (cell : Cell) (fields : List Field) :
    fieldNames (writeField name cell fields) =
      if name ∈ fieldNames fields then fieldNames fields else fieldNames fields ++ [name] := by
  induction fields with
  | nil => simp [fieldNames, writeField]
  | cons f rest ih =>
    obtain ⟨n, c⟩ := f
    simp only [fieldNames] at ih
    by_cases h : n = name
    · subst h
      simp [fieldNames, writeField]
    · simp only [fieldNames, writeField, h, if_false, List.map_cons, ih, List.mem_cons]
      have h' : ¬ name = n := fun e => h e.symm
      by_cases hm : name ∈ rest.map Prod.fst <;> simp [hm, h']

/-- A **row**: fields with distinct names. -/
structure Row where
  /-- The fields, in the order in which they were first written. -/
  fields : List Field
  /-- No name occurs twice. -/
  nodup : (fieldNames fields).Nodup

namespace Row

/-- The row without fields. -/
def empty : Row := ⟨[], List.nodup_nil⟩

instance : Inhabited Row := ⟨empty⟩

/-- The names of the fields. -/
def names (r : Row) : List String := fieldNames r.fields

/-- A row with one cell **written**: in place when the row has a field of that name, as a new last
field otherwise. -/
def insert (r : Row) (name : String) (cell : Cell) : Row where
  fields := writeField name cell r.fields
  nodup := by
    rw [fieldNames_writeField]
    split
    · exact r.nodup
    · next h =>
      rw [List.nodup_append]
      refine ⟨r.nodup, by simp, ?_⟩
      intro a ha b hb
      rw [List.mem_singleton] at hb
      rintro rfl
      exact h (hb ▸ ha)

/-- The row that arises by writing the given fields one after another. -/
def ofFields (fields : List Field) : Row := fields.foldl (fun r f => r.insert f.1 f.2) empty

/-- The cell of the field with the given name. -/
def get? (r : Row) (name : String) : Option Cell := (r.fields.find? (·.1 == name)).map Prod.snd

/-- The cell of the field with the given name, the null cell when there is none. -/
def cell (r : Row) (name : String) : Cell := (r.get? name).getD .null

/-- Whether the row has a field of the given name. -/
def contains (r : Row) (name : String) : Bool := (r.get? name).isSome

/-- The number of fields. -/
def size (r : Row) : Nat := r.fields.length

/-- Whether the row has no fields. -/
def isEmpty (r : Row) : Bool := r.fields.isEmpty

/-- The displayed text of a field, empty when there is none: the **key** of the row when rows are
grouped by that field. -/
def key (r : Row) (name : String) : String := (r.cell name).display

/-! ### Comparison -/

/-- Whether two lists of fields have the same names in the same order and cells that are alike. -/
def fieldsAlike : List Field → List Field → Bool
  | [], [] => true
  | (n, c) :: fs, (m, d) :: gs => n == m && c.alike d && fieldsAlike fs gs
  | _, _ => false

/-- Whether two rows have the same names in the same order and cells that are alike. -/
def alike (r s : Row) : Bool := fieldsAlike r.fields s.fields

end Row

end DataQuality
