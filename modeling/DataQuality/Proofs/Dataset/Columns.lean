import DataQuality.Proofs.Dataset.Distinct

/-!
# The columns that rows bring with them

A dataset that is made of rows alone declares the names that its rows have, in the order in which
they are first written down (`DataQuality.pairwise_idxOf_firstNames`). More rows behind the others
add columns at the end, if any. They may change the type of a column, too, but only while its sample
is not full (`DataQuality.Inference.infer_append`).

The sample is taken lazily: the cells that are not blank are looked for from the first row on, until
there are enough. What is in it can also be told place by place. A row is looked at when it has such
a cell and not enough rows before it have one, and these are the rows that the sample counts
(`DataQuality.Inference.numeric_sample`).
-/

namespace DataQuality

/-! ### Collecting in the order of first appearance -/

section Collecting

variable {α : Type} [DecidableEq α]

theorem addNew_append (seen xs ys : List α) :
    addNew seen (xs ++ ys) = addNew (addNew seen xs) ys := by
  induction xs generalizing seen with
  | nil => rfl
  | cons x xs ih =>
    rw [List.cons_append, addNew, addNew]
    split
    · exact ih seen
    · exact ih (seen ++ [x])

/-- What was collected before stays in front. -/
theorem isPrefix_addNew (seen xs : List α) : seen <+: addNew seen xs := by
  induction xs generalizing seen with
  | nil => exact List.prefix_refl seen
  | cons x xs ih =>
    rw [addNew]
    split
    · exact ih seen
    · exact (List.prefix_append seen [x]).trans (ih (seen ++ [x]))

theorem addNew_of_subset {seen xs : List α} (h : xs ⊆ seen) : addNew seen xs = seen := by
  induction xs with
  | nil => rfl
  | cons x xs ih =>
    rw [addNew, if_pos (h List.mem_cons_self)]
    exact ih fun a ha => h (List.mem_cons_of_mem x ha)

/-- Elements that are new and distinct are all added. -/
theorem addNew_of_nodup {seen xs : List α} (h : (seen ++ xs).Nodup) :
    addNew seen xs = seen ++ xs := by
  induction xs generalizing seen with
  | nil => rw [addNew, List.append_nil]
  | cons x xs ih =>
    have hx : x ∉ seen := fun hx =>
      (List.nodup_append.mp h).2.2 x hx x List.mem_cons_self rfl
    rw [addNew, if_neg hx, ih (by rwa [List.append_assoc]), List.append_assoc]
    rfl

/-- **The order of first appearance**: what is collected earlier appears earlier. -/
theorem pairwise_idxOf_addNew (xs : List α) :
    (addNew [] xs).Pairwise fun a b => xs.idxOf a < xs.idxOf b := by
  induction xs using List.reverseRecOn with
  | nil => exact List.Pairwise.nil
  | append_singleton xs x ih =>
    have hmem : ∀ {a}, a ∈ addNew [] xs → a ∈ xs := by
      intro a ha
      exact (mem_addNew.mp ha).resolve_left List.not_mem_nil
    -- one more element behind the others moves none of their first places
    have hold : (addNew [] xs).Pairwise fun a b =>
        (xs ++ [x]).idxOf a < (xs ++ [x]).idxOf b := by
      refine ih.imp_of_mem fun {a b} ha hb hlt => ?_
      rwa [List.idxOf_append_of_mem (hmem ha), List.idxOf_append_of_mem (hmem hb)]
    rw [addNew_append, addNew, addNew]
    split
    · exact hold
    · next hx =>
      refine List.pairwise_append.mpr ⟨hold, List.pairwise_singleton _ _, fun a ha b hb => ?_⟩
      obtain rfl := List.mem_singleton.mp hb
      have hnew : b ∉ xs := fun hb => hx (mem_addNew.mpr (.inr hb))
      rw [List.idxOf_append_of_mem (hmem ha), List.idxOf_append_of_notMem hnew]
      have hlt := List.idxOf_lt_length_of_mem (hmem ha)
      omega

end Collecting

/-! ### The names of the columns -/

/-- The field names of some rows **as they are written down**, row by row and field by field. -/
def writtenNames (rows : List Row) : List String := rows.flatMap (·.names)

theorem writtenNames_append (rows more : List Row) :
    writtenNames (rows ++ more) = writtenNames rows ++ writtenNames more :=
  List.flatMap_append

/-- The names are collected from what is written down. -/
theorem firstNames_eq (rows : List Row) : firstNames rows = addNew [] (writtenNames rows) := by
  induction rows using List.reverseRecOn with
  | nil => rfl
  | append_singleton rows row ih =>
    have hstep : firstNames (rows ++ [row]) = addNew (firstNames rows) row.names := by
      rw [firstNames, List.foldl_append]
      rfl
    have hlast : writtenNames [row] = row.names := List.flatMap_singleton _ _
    rw [hstep, ih, writtenNames_append, hlast, addNew_append]

theorem nodup_firstNames (rows : List Row) : (firstNames rows).Nodup := by
  rw [firstNames_eq]
  exact nodup_addNew List.nodup_nil _

theorem mem_firstNames {rows : List Row} {name : String} :
    name ∈ firstNames rows ↔ ∃ row ∈ rows, name ∈ row.names := by
  rw [firstNames_eq, mem_addNew, writtenNames, List.mem_flatMap]
  exact or_iff_right List.not_mem_nil

/-- **The columns stand in the order in which their names first appear.** -/
theorem pairwise_idxOf_firstNames (rows : List Row) : (firstNames rows).Pairwise fun a b =>
    (writtenNames rows).idxOf a < (writtenNames rows).idxOf b := by
  rw [firstNames_eq]
  exact pairwise_idxOf_addNew _

/-- **More rows add names at the end**, if any. -/
theorem firstNames_isPrefix_append (rows more : List Row) :
    firstNames rows <+: firstNames (rows ++ more) := by
  rw [firstNames_eq, firstNames_eq, writtenNames_append, addNew_append]
  exact isPrefix_addNew _ _

namespace Dataset

@[simp] theorem names_ofTable (settings : Inference) (names : List String) (rows : List Row) :
    (ofTable settings names rows).names = names := by
  rw [Dataset.names, ofTable, List.map_map]
  exact List.map_id names

@[simp] theorem names_ofRows (settings : Inference) (rows : List Row) :
    (ofRows settings rows).names = firstNames rows := names_ofTable settings _ rows

/-- A column is found under its name if it is declared, and has the type of its sample. -/
theorem column?_ofTable (settings : Inference) (names : List String) (rows : List Row)
    (name : String) : (ofTable settings names rows).column? name =
      if name ∈ names then some ⟨name, settings.infer rows name⟩ else none := by
  rw [column?, ofTable]
  induction names with
  | nil => rfl
  | cons n names ih =>
    rw [List.map_cons, List.find?_cons]
    by_cases hn : n = name
    · subst hn
      simp
    · have hbeq : (n == name) = false := beq_false_of_ne hn
      have hn' : name ≠ n := Ne.symm hn
      simp [hbeq, hn', ih]

end Dataset

/-! ### Samples -/

/-- Whether a row has a cell in a column that is **not blank**. -/
def Row.fills (row : Row) (name : String) : Bool := (row.get? name).any fun c => !c.isBlank

/-- Whether a row has a cell in a column that is read as a number. -/
def Row.holdsNumber (row : Row) (name : String) : Bool := (row.get? name).any (·.number?.isSome)

/-- A place **in the sample** of a column: the row there has a cell that is not blank, and fewer
rows before it have one than the sample holds. -/
def inSample (size : Nat) (rows : List Row) (name : String) (place : Nat) : Bool :=
  rows[place]?.any (·.fills name) && (rows.take place).countP (·.fills name) < size

/-- **What a filtered list counts among its first elements**, told place by place. -/
theorem countP_take_filter {α : Type} (p q : α → Bool) (size : Nat) (xs : List α) :
    ((xs.filter p).take size).countP q = (List.range xs.length).countP fun place =>
      (xs[place]?.any p && (xs.take place).countP p < size) && xs[place]?.any q := by
  induction xs generalizing size with
  | nil => simp
  | cons x xs ih =>
    rw [List.length_cons, List.range_succ_eq_map, List.countP_cons, List.countP_map]
    cases hx : p x with
    | false =>
      rw [List.filter_cons_of_neg (by simp [hx]), ih]
      simp [Function.comp_def, hx]
    | true =>
      rw [List.filter_cons_of_pos hx]
      cases size with
      | zero => simp
      | succ size =>
        rw [List.take_succ_cons, List.countP_cons, ih]
        simp [Function.comp_def, hx]

namespace Inference

variable (settings : Inference) (rows more : List Row) (name : String)

/-- The values of a column are the cells of the rows that have one. -/
theorem values_eq : values rows name = (rows.filter (·.fills name)).map (·.cell name) := by
  induction rows with
  | nil => rfl
  | cons row rows ih =>
    rw [values] at ih ⊢
    rw [List.filterMap_cons, List.filter_cons, Row.fills]
    cases hcell : row.get? name with
    | none => simpa using ih
    | some c =>
      rw [List.filter_cons, ih, Option.any_some]
      split
      · rw [List.map_cons, Row.cell, hcell, Option.getD_some]
      · rfl

theorem length_values : (values rows name).length = rows.countP (·.fills name) := by
  rw [values_eq, List.length_map, List.countP_eq_length_filter]

theorem values_append : values (rows ++ more) name = values rows name ++ values more name := by
  rw [values, List.filterMap_append, List.filter_append]
  rfl

/-- **The sample is as large as it can be.** -/
theorem sampled_sample : (settings.sample rows name).sampled =
    min settings.sampleSize (rows.countP (·.fills name)) := by
  rw [sample, List.length_take, length_values]

/-- **The sample counts the numbers at its places**, and no others. -/
theorem numeric_sample : (settings.sample rows name).numeric =
    (List.range rows.length).countP fun place =>
      inSample settings.sampleSize rows name place && rows[place]?.any (·.holdsNumber name) := by
  have hcell : ∀ row ∈ (rows.filter (·.fills name)).take settings.sampleSize,
      (row.cell name).number?.isSome = row.holdsNumber name := by
    intro row hrow
    have hfills := List.of_mem_filter (List.mem_of_mem_take hrow)
    rw [Row.fills] at hfills
    rw [Row.cell, Row.holdsNumber]
    cases hcell : row.get? name with
    | none => simp [hcell] at hfills
    | some c => rfl
  rw [sample, values_eq, ← List.map_take, List.countP_map]
  refine (List.countP_congr fun row hrow => ?_).trans (countP_take_filter _ _ _ _)
  exact iff_of_eq (congrArg (· = true) (hcell row hrow))

variable {settings rows name}

/-- **A full sample does not change**, whatever rows follow. -/
theorem sample_append (h : settings.sampleSize ≤ rows.countP (·.fills name)) :
    settings.sample (rows ++ more) name = settings.sample rows name := by
  rw [← length_values] at h
  simp only [sample, values_append, List.take_append_of_le_length h]

/-- Nor does the type that is found from it. -/
theorem infer_append (h : settings.sampleSize ≤ rows.countP (·.fills name)) :
    settings.infer (rows ++ more) name = settings.infer rows name := by
  simp only [infer, sample_append more h]

end Inference

/-- The columns of a dataset that is made of rows are **what the rows bring with them**. -/
structure Inference.FindsColumns (settings : Inference) (rows : List Row) : Prop where
  /-- The rows are those that are given. -/
  rows_eq : (Dataset.ofRows settings rows).rows = rows
  /-- No name is declared twice. -/
  nodup_names : (Dataset.ofRows settings rows).names.Nodup
  /-- The names declared are the field names of the rows. -/
  mem_names_iff : ∀ name, name ∈ (Dataset.ofRows settings rows).names ↔
    ∃ row ∈ rows, name ∈ row.names
  /-- They stand in the order in which they first appear, row by row and field by field. -/
  pairwise_names : (Dataset.ofRows settings rows).names.Pairwise fun a b =>
    (writtenNames rows).idxOf a < (writtenNames rows).idxOf b
  /-- With more rows there may be more columns, behind those that are there already. -/
  names_isPrefix : ∀ more, (Dataset.ofRows settings rows).names <+:
    (Dataset.ofRows settings (rows ++ more)).names
  /-- A column whose sample is full keeps its type. -/
  column?_append : ∀ more name, settings.sampleSize ≤ rows.countP (·.fills name) →
    ∀ column, (Dataset.ofRows settings rows).column? name = some column →
      (Dataset.ofRows settings (rows ++ more)).column? name = some column
  /-- A sample is full, or has all cells of the column that are not blank. -/
  sampled_eq : ∀ name, (settings.sample rows name).sampled =
    min settings.sampleSize (rows.countP (·.fills name))
  /-- It counts the numbers among the first of them. -/
  numeric_eq : ∀ name, (settings.sample rows name).numeric =
    (List.range rows.length).countP fun place =>
      inSample settings.sampleSize rows name place && rows[place]?.any (·.holdsNumber name)

/-- **Rows bring their columns with them**, each at its first appearance, and more rows leave what
was found of full samples as it is. -/
theorem Inference.findsColumns (settings : Inference) (rows : List Row) :
    settings.FindsColumns rows where
  rows_eq := rfl
  nodup_names := by
    rw [Dataset.names_ofRows]
    exact nodup_firstNames rows
  mem_names_iff name := by
    rw [Dataset.names_ofRows]
    exact mem_firstNames
  pairwise_names := by
    rw [Dataset.names_ofRows]
    exact pairwise_idxOf_firstNames rows
  names_isPrefix more := by
    rw [Dataset.names_ofRows, Dataset.names_ofRows]
    exact firstNames_isPrefix_append rows more
  column?_append more name hfull column hcolumn := by
    rw [Dataset.ofRows, Dataset.column?_ofTable] at hcolumn ⊢
    split at hcolumn
    · next hname =>
      rw [if_pos ((firstNames_isPrefix_append rows more).subset hname), infer_append more hfull]
      exact hcolumn
    · cases hcolumn
  sampled_eq := sampled_sample settings rows
  numeric_eq := numeric_sample settings rows

end DataQuality
