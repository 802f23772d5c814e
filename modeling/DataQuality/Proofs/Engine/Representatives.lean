import DataQuality.Proofs.Engine.Groups

/-!
# One row for each key

Representatives are taken row by row, with a list of the keys that have been seen. This file says
what has been taken in the end (`DataQuality.representsKeys_representatives`): some of the rows in
their order, and, where grouping applies, exactly one row for each key, the first row that carries
it. Taking representatives a second time changes nothing, and rows that come later change nothing
about those that were taken before.

The keys that have been seen are only ever asked for whether a key is among them
(`DataQuality.firstOfEach_congr`), so that the order in which they were noted is of no account. The
induction follows the rows from the front, for **all lists of seen keys at once**.

Grouping applies when the first row has the column. Further down a row without it carries the empty
key, and so does one with a null cell or an empty text there: a key is a displayed text, and tells
nothing else of a cell.
-/

namespace DataQuality

section FirstOfEach

variable (column : String)

/-- Only whether a key has been seen counts. -/
theorem firstOfEach_congr {seen seen' : List String} (h : ∀ key, key ∈ seen ↔ key ∈ seen')
    (rows : List Row) : firstOfEach column seen rows = firstOfEach column seen' rows := by
  rw [firstOfEach_eq, firstOfEach_eq]
  simp only [h]

/-- **The rows taken with a key** are the first row that carries it, unless the key has been
seen. -/
theorem filter_key_firstOfEach (seen : List String) (rows : List Row) (key : String) :
    (firstOfEach column seen rows).filter (fun row => row.key column == key) =
      if key ∈ seen then [] else (rows.find? fun row => row.key column == key).toList := by
  induction rows generalizing seen with
  | nil => exact (ite_self []).symm
  | cons row rows ih =>
    rw [firstOfEach, List.find?_cons]
    by_cases hkey : row.key column = key
    · subst hkey
      by_cases hseen : row.key column ∈ seen
      · rw [if_pos hseen, ih, if_pos hseen, if_pos hseen]
      · -- the row is taken, and from here on its key has been seen
        rw [if_neg hseen, if_neg hseen, List.filter_cons_of_pos (by simp), ih,
          if_pos List.mem_cons_self, beq_self_eq_true]
        rfl
    · have hne : (row.key column == key) = false := beq_false_of_ne hkey
      rw [hne]
      split
      · exact ih seen
      · -- a row with another key is taken, and makes no difference for this one
        rw [List.filter_cons_of_neg (by simp [hne]), ih]
        simp only [List.mem_cons, Ne.symm hkey, false_or]

/-- **Later rows are taken behind the others**, as if the keys of these had been seen. -/
theorem firstOfEach_append (seen : List String) (rows more : List Row) :
    firstOfEach column seen (rows ++ more) =
      firstOfEach column seen rows ++
        firstOfEach column (rows.map (·.key column) ++ seen) more := by
  induction rows generalizing seen with
  | nil => rfl
  | cons row rows ih =>
    rw [List.cons_append, firstOfEach, firstOfEach]
    by_cases hseen : row.key column ∈ seen
    · rw [if_pos hseen, if_pos hseen, ih]
      refine congrArg (firstOfEach column seen rows ++ ·) (firstOfEach_congr column ?_ more)
      intro key
      rw [List.map_cons, List.cons_append, List.mem_cons, iff_or_self]
      rintro rfl
      exact List.mem_append_right _ hseen
    · rw [if_neg hseen, if_neg hseen, ih, List.cons_append]
      refine congrArg (row :: firstOfEach column (row.key column :: seen) rows ++ ·)
        (firstOfEach_congr column ?_ more)
      intro key
      simp only [List.map_cons, List.cons_append, List.mem_append, List.mem_cons]
      tauto

/-- A row that is taken carries a key that has not been seen. -/
theorem notMem_of_mem_firstOfEach {seen : List String} {rows : List Row} {row : Row}
    (h : row ∈ firstOfEach column seen rows) : row.key column ∉ seen := by
  rw [firstOfEach_eq] at h
  exact of_decide_eq_true (List.mem_filter.mp ((firstRows_sublist column _).mem h)).2

end FirstOfEach

/-! ### Representatives -/

/-- Rows that a column **leads**: the first of them has it, so that grouping applies. -/
def LedBy (column : String) (rows : List Row) : Prop :=
  ∃ first ∈ rows.head?, first.contains column = true

section Representatives

variable {column : String}

theorem representatives_of_ledBy {rows : List Row} (h : LedBy column rows) :
    representatives column rows = firstOfEach column [] rows := by
  obtain ⟨first, hfirst, hcontains⟩ := h
  obtain ⟨rest, rfl⟩ := List.head?_eq_some_iff.mp hfirst
  rw [representatives, if_pos hcontains]

/-- Where grouping does not apply, every row represents itself. -/
theorem representatives_of_not_ledBy {rows : List Row} (h : ¬LedBy column rows) :
    representatives column rows = rows := by
  cases rows with
  | nil => rfl
  | cons first rest =>
    rw [representatives, if_neg]
    intro hcontains
    exact h ⟨first, rfl, hcontains⟩

theorem LedBy.append {rows : List Row} (h : LedBy column rows) (more : List Row) :
    LedBy column (rows ++ more) := by
  obtain ⟨first, hfirst, hcontains⟩ := h
  exact ⟨first, by rw [List.head?_append, hfirst]; rfl, hcontains⟩

/-- **Representatives represent themselves.** -/
theorem representatives_representatives (rows : List Row) :
    representatives column (representatives column rows) = representatives column rows := by
  by_cases h : LedBy column rows
  · have hnodup : ((firstRows column rows).map (·.key column)).Nodup := by
      rw [map_key_firstRows]
      exact nodup_keysOf column rows
    rw [representatives_of_ledBy h, firstOfEach_nil_eq, representatives_of_oneForEach (.inr hnodup),
      firstRows_of_nodup column hnodup]
  · rw [representatives_of_not_ledBy h, representatives_of_not_ledBy h]

theorem representatives_sublist (rows : List Row) : (representatives column rows).Sublist rows := by
  by_cases h : LedBy column rows
  · rw [representatives_of_ledBy h]
    exact firstOfEach_sublist column [] rows
  · rw [representatives_of_not_ledBy h]

end Representatives

/-- Some of the rows **represent the keys** that all of them carry in a column. -/
structure RepresentsKeys (column : String) (rows chosen : List Row) : Prop where
  /-- The key of a row is the displayed text of its cell, and empty if it has none. -/
  key_eq : ∀ row : Row, row.key column = (row.get? column).elim "" Cell.display
  /-- They are some of the rows, in their order. -/
  sublist : chosen.Sublist rows
  /-- They represent themselves. -/
  idempotent : representatives column chosen = chosen
  /-- Where grouping applies, the one row with a key is the first that carries it. -/
  filter_key : LedBy column rows → ∀ key,
    chosen.filter (fun row => row.key column == key) =
      (rows.find? fun row => row.key column == key).toList
  /-- So no two of them carry the same key. -/
  nodup_keys : LedBy column rows → (chosen.map (·.key column)).Nodup
  /-- And every key is carried by one of them. -/
  mem_keys_iff : LedBy column rows → ∀ key,
    key ∈ chosen.map (·.key column) ↔ key ∈ rows.map (·.key column)
  /-- Further rows add rows behind them, and only with keys that are new. -/
  append : LedBy column rows → ∀ more, ∃ added,
    representatives column (rows ++ more) = chosen ++ added ∧ added.Sublist more ∧
      ∀ row ∈ added, row.key column ∉ rows.map (·.key column)
  /-- Where grouping does not apply, they are all the rows. -/
  eq_rows : ¬LedBy column rows → chosen = rows

/-- **Representatives are the first rows of their keys.** For every list of rows and every column,
representatives are some of the rows in their order, and represent themselves; where grouping
applies, there is one for each key, the first row that carries it, and further rows change nothing
about them. -/
theorem representsKeys_representatives (column : String) (rows : List Row) :
    RepresentsKeys column rows (representatives column rows) where
  key_eq row := row.key_eq column
  sublist := representatives_sublist rows
  idempotent := representatives_representatives rows
  filter_key h key := by
    rw [representatives_of_ledBy h, filter_key_firstOfEach, if_neg List.not_mem_nil]
  nodup_keys h := by
    rw [representatives_of_ledBy h, firstOfEach_nil_eq, map_key_firstRows]
    exact nodup_keysOf column rows
  mem_keys_iff h key := by
    rw [representatives_of_ledBy h, firstOfEach_nil_eq, map_key_firstRows, mem_keysOf,
      List.mem_map]
  append h more := by
    refine ⟨firstOfEach column (rows.map (·.key column) ++ []) more, ?_, ?_, fun row hrow => ?_⟩
    · rw [representatives_of_ledBy (h.append more), representatives_of_ledBy h, firstOfEach_append]
    · exact firstOfEach_sublist column _ more
    · have hnew := notMem_of_mem_firstOfEach column hrow
      rwa [List.append_nil] at hnew
  eq_rows h := representatives_of_not_ledBy h

/-- A number and its text are one key, and so are an empty text, a null cell and none at all. -/
example :
    (representatives "g" [.ofFields [("g", .text "")], .ofFields [("g", .number 1)],
        .ofFields [("g", .text "1")], .ofFields [("g", .null)], .empty]).map (·.fields) =
      [[("g", .text "")], [("g", .number 1)]] := by
  decide +kernel

end DataQuality
