import DataQuality.Dataset.Scan
import DataQuality.Proofs.Dataset.Profile
import DataQuality.Proofs.Number.Display

/-!
# What a quick scan finds in a column

A quick scan tells cells apart by a text, the key. The key says of which kind a cell is, and then
what it displays; so cells share a key exactly when they have the same content
(`DataQuality.Cell.distinctKey_eq_iff`), and the keys of a column count the classes of cells with
the same content. From this everything that is reported of a column can be read off its cells
(`DataQuality.QuickScan.describes_ofDataset`): in particular, a column is offered as a key exactly
when every row has a cell there that is not blank, and no two rows have the same.
-/

namespace DataQuality

namespace Cell

/-! ### The same content -/

/-- Cells with **the same content**: the same text, the same truth value or the same number. A
number is never the same as a text. -/
inductive Same : Cell → Cell → Prop
  /-- Two empty cells. -/
  | null : Same .null .null
  /-- The same truth value. -/
  | bool (b : Bool) : Same (.bool b) (.bool b)
  /-- The same number. A zero has no sign, and what is no number is the same as itself. -/
  | number {x y : Float} (h : Number.Same x y) : Same (.number x) (.number y)
  /-- The same text, character by character. -/
  | text (s : String) : Same (.text s) (.text s)

/-- The first two characters of a key. -/
def keyTag : Cell → List Char
  | .null => ['n', 'u']
  | .bool _ => ['b', ':']
  | .number _ => ['n', ':']
  | .text _ => ['s', ':']

theorem take_two_distinctKey (c : Cell) : c.distinctKey.toList.take 2 = c.keyTag := by
  cases c <;> simp [distinctKey, keyTag]

/-- **Cells share a key exactly when they have the same content.** -/
theorem distinctKey_eq_iff {c d : Cell} : c.distinctKey = d.distinctKey ↔ c.Same d := by
  constructor
  · intro h
    have htag : c.keyTag = d.keyTag := by rw [← take_two_distinctKey, h, take_two_distinctKey]
    cases c with
    | null =>
      cases d with
      | null => exact .null
      | _ => exact absurd htag (by simp [keyTag])
    | bool a =>
      cases d with
      | bool b =>
        have htext : boolText a = boolText b := (String.append_right_inj _).mp h
        obtain rfl : a = b := by
          cases a <;> cases b <;> first | rfl | exact absurd htext (by decide)
        exact .bool a
      | _ => exact absurd htag (by simp [keyTag])
    | number x =>
      cases d with
      | number y => exact .number (Number.display_eq_iff.mp ((String.append_right_inj _).mp h))
      | _ => exact absurd htag (by simp [keyTag])
    | text s =>
      cases d with
      | text t =>
        obtain rfl : s = t := (String.append_right_inj _).mp h
        exact .text s
      | _ => exact absurd htag (by simp [keyTag])
  · rintro (_ | b | h | s)
    · rfl
    · rfl
    · rw [distinctKey, distinctKey, Number.display_eq_iff.mpr h]
    · rfl

/-- Having the same content is an equivalence, since sharing a key is. -/
instance setoid : Setoid Cell where
  r := Same
  iseqv :=
    { refl := fun _ => distinctKey_eq_iff.mp rfl
      symm := fun h => distinctKey_eq_iff.mp (distinctKey_eq_iff.mpr h).symm
      trans := fun h h' =>
        distinctKey_eq_iff.mp ((distinctKey_eq_iff.mpr h).trans (distinctKey_eq_iff.mpr h')) }

instance (c d : Cell) : Decidable (c ≈ d) :=
  decidable_of_iff (c.distinctKey = d.distinctKey) distinctKey_eq_iff

/-- How many **classes** of cells with the same content there are. -/
def classCount (cells : List Cell) : Nat := (cells.map (Quotient.mk setoid)).toFinset.card

/-- **The keys count the classes.** -/
theorem countDistinct_map_distinctKey (cells : List Cell) :
    countDistinct (cells.map (·.distinctKey)) = classCount cells := by
  rw [countDistinct_eq_card, classCount]
  exact card_map_congr fun c _ d _ => distinctKey_eq_iff.trans (Quotient.eq (r := setoid)).symm

theorem classCount_le_length (cells : List Cell) : classCount cells ≤ cells.length := by
  rw [← countDistinct_map_distinctKey, ← List.length_map distinctKey]
  exact countDistinct_le_length _

/-- There are as many classes as cells exactly when **no two cells have the same content**. -/
theorem classCount_eq_length_iff {cells : List Cell} :
    classCount cells = cells.length ↔ cells.Pairwise fun c d => ¬c.Same d := by
  rw [← countDistinct_map_distinctKey, ← List.length_map distinctKey, countDistinct_eq_length_iff,
    List.Nodup, List.pairwise_map]
  simp only [ne_eq, distinctKey_eq_iff]

end Cell

/-! ### Columns -/

/-- The cells of a column that are there and **not blank**. -/
def filledCells (rows : List Row) (name : String) : List Cell :=
  (presentCells rows name).filter fun c => !c.isBlank

/-- An absent cell is blank. -/
theorem Row.isBlank_cell (row : Row) (name : String) :
    (row.cell name).isBlank = (row.get? name).all (·.isBlank) := by
  rw [cell]
  cases row.get? name <;> rfl

theorem Row.isBlank_cell_eq_false_iff {row : Row} {name : String} :
    (row.cell name).isBlank = false ↔ ∃ c, row.get? name = some c ∧ c.isBlank = false := by
  rw [cell]
  cases row.get? name with
  | none => simp [Cell.isBlank]
  | some c => simp

theorem filter_cell_eq_filledCells (rows : List Row) (name : String) :
    (rows.map (·.cell name)).filter (fun c => !c.isBlank) = filledCells rows name :=
  filter_cell_eq rfl rows name

namespace ColumnMetrics

variable {name : String} {cells : List Cell}

section Filled

variable {filled : List Cell} (h : cells.filter (fun c => !c.isBlank) = filled)

include h

/-- **The keys count the classes** of the cells that are not blank. -/
theorem uniqueCount_ofCells : (ofCells name cells).uniqueCount = Cell.classCount filled := by
  rw [← h, ← Cell.countDistinct_map_distinctKey]
  rfl

/-- Every cell is blank or not. -/
theorem nullCount_add_length : (ofCells name cells).nullCount + filled.length = cells.length := by
  rw [← h]
  exact countP_add_length_filter_not _ cells

/-- There is a range of numbers as soon as **one cell is read as one**. -/
theorem isSome_numeric_iff : (ofCells name cells).numeric.isSome = true ↔
    ∃ c ∈ filled, ∃ x, c.number? = some x := by
  have hnumeric : (ofCells name cells).numeric =
      NumericRange.ofNumbers? (filled.filterMap (·.number?)) := by
    rw [← h]
    rfl
  rw [hnumeric, NumericRange.ofNumbers?]
  cases hnumbers : filled.filterMap (·.number?) with
  | nil =>
    rw [List.filterMap_eq_nil_iff] at hnumbers
    refine iff_of_false (by simp) ?_
    rintro ⟨c, hc, x, hx⟩
    rw [hnumbers c hc] at hx
    cases hx
  | cons x xs =>
    have hx : x ∈ filled.filterMap (·.number?) := hnumbers ▸ List.mem_cons_self
    obtain ⟨c, hc, hx⟩ := List.mem_filterMap.mp hx
    exact iff_of_true rfl ⟨c, hc, x, hx⟩

theorem isSome_text_iff : (ofCells name cells).text.isSome = true ↔
    ∃ c ∈ filled, c.number? = none := by
  have htext : (ofCells name cells).text = LengthRange.ofLengths?
      ((filled.filter fun c => c.number?.isNone).map (·.displayLength)) := by
    rw [← h]
    rfl
  rw [htext]
  cases htexts : filled.filter fun c => c.number?.isNone with
  | nil =>
    rw [List.filter_eq_nil_iff] at htexts
    refine iff_of_false (by simp [LengthRange.ofLengths?]) ?_
    rintro ⟨c, hc, hnone⟩
    exact htexts c hc (by rw [hnone]; rfl)
  | cons c cs =>
    have hc : c ∈ filled.filter fun c => c.number?.isNone := htexts ▸ List.mem_cons_self
    rw [List.mem_filter, Option.isNone_iff_eq_none] at hc
    exact iff_of_true rfl ⟨c, hc⟩

/-- The kind of value that prevails is the one with more cells. -/
theorem inferredType_iff : (ofCells name cells).inferredType = .number ↔
    filled.countP (·.number?.isNone) < filled.countP (·.number?.isSome) := by
  have htype : (ofCells name cells).inferredType =
      if ((filled.filter fun c => c.number?.isNone).map (·.displayLength)).length <
        (filled.filterMap (·.number?)).length then .number else .text := by
    rw [← h]
    rfl
  rw [htype, List.length_map, ← List.countP_eq_length_filter, List.length_filterMap_eq_countP]
  simp

end Filled

/-- **A column is offered as a key** exactly when none of its cells is blank and no two have the
same content. -/
theorem isPrimaryKeyCandidate_ofCells : (ofCells name cells).isPrimaryKeyCandidate = true ↔
    (∀ c ∈ cells, c.isBlank = false) ∧ cells.Pairwise fun c d => ¬c.Same d := by
  have hcandidate : (ofCells name cells).isPrimaryKeyCandidate =
      ((ofCells name cells).uniqueCount == cells.length && cells.countP (·.isBlank) == 0) := rfl
  rw [hcandidate, Bool.and_eq_true, beq_iff_eq, beq_iff_eq, List.countP_eq_zero, and_comm]
  simp only [Bool.not_eq_true]
  refine and_congr_right fun hfilled => ?_
  have hall : cells.filter (fun c => !c.isBlank) = cells :=
    List.filter_eq_self.mpr fun c hc => by rw [hfilled c hc]; rfl
  rw [uniqueCount_ofCells hall, Cell.classCount_eq_length_iff]

end ColumnMetrics

/-- What a quick scan finds in a column **is what is there**. -/
structure ColumnMetrics.Describes (m : ColumnMetrics) (rows : List Row) (name : String) :
    Prop where
  /-- The findings are those of the column. -/
  name_eq : m.name = name
  /-- It is offered as a key if every row has a cell there that is not blank, and no two rows have
  the same. -/
  isPrimaryKeyCandidate_iff : m.isPrimaryKeyCandidate = true ↔
    (∀ row ∈ rows, ∃ c, row.get? name = some c ∧ c.isBlank = false) ∧
      rows.Pairwise fun r s => ¬(r.cell name).Same (s.cell name)
  /-- A cell counts as blank when it is absent, too. -/
  nullCount_eq : m.nullCount = rows.countP fun row => (row.get? name).all (·.isBlank)
  /-- The different values are the classes of the other cells. -/
  uniqueCount_eq : m.uniqueCount = Cell.classCount (filledCells rows name)
  /-- There are no more of them than cells to have them. -/
  uniqueCount_add_le : m.uniqueCount + m.nullCount ≤ rows.length
  /-- There are as many when no two of these cells have the same content. -/
  uniqueCount_add_eq_iff : m.uniqueCount + m.nullCount = rows.length ↔
    (filledCells rows name).Pairwise fun c d => ¬c.Same d
  /-- There is a range of numbers if some cell is read as one. -/
  numeric_iff : m.numeric.isSome = true ↔ ∃ c ∈ filledCells rows name, ∃ x, c.number? = some x
  /-- There is a range of lengths if some cell is not. -/
  text_iff : m.text.isSome = true ↔ ∃ c ∈ filledCells rows name, c.number? = none
  /-- Numbers prevail when more cells are read as one than are not. -/
  inferredType_iff : m.inferredType = .number ↔
    (filledCells rows name).countP (·.number?.isNone) <
      (filledCells rows name).countP (·.number?.isSome)

namespace ColumnMetrics

theorem describes_ofCells (rows : List Row) (name : String) :
    (ofCells name (rows.map (·.cell name))).Describes rows name := by
  have hfilled := filter_cell_eq_filledCells rows name
  have hunique : (ofCells name (rows.map (·.cell name))).uniqueCount =
    Cell.classCount (filledCells rows name) := uniqueCount_ofCells hfilled
  have hadd : (ofCells name (rows.map (·.cell name))).nullCount +
      (filledCells rows name).length = rows.length := by
    rw [nullCount_add_length hfilled, List.length_map]
  refine ⟨rfl, ?_, ?_, hunique, ?_, ?_, isSome_numeric_iff hfilled, isSome_text_iff hfilled,
    inferredType_iff hfilled⟩
  · rw [isPrimaryKeyCandidate_ofCells, List.forall_mem_map, List.pairwise_map]
    simp only [Row.isBlank_cell_eq_false_iff]
  · have hblank : (fun row : Row => (row.cell name).isBlank) =
        fun row => (row.get? name).all (·.isBlank) := funext fun row => row.isBlank_cell name
    rw [← hblank]
    exact List.countP_map
  · have hle := Cell.classCount_le_length (filledCells rows name)
    omega
  · rw [← Cell.classCount_eq_length_iff]
    omega

end ColumnMetrics

/-- What a quick scan finds in a dataset **is what is there**. -/
structure QuickScan.Describes (s : QuickScan) (d : Dataset) : Prop where
  /-- The declared columns are described, in their order. -/
  columns : List.Forall₂ (fun name m => ColumnMetrics.Describes m d.rows name) d.names s.columns
  /-- All rows are counted. -/
  totalRows_eq : s.totalRows = d.rows.length
  /-- The blank cells are those of the columns. -/
  nullCount_eq : s.nullCount = (s.columns.map (·.nullCount)).sum

/-- **A quick scan finds what is there**, in every column. -/
theorem QuickScan.describes_ofDataset (d : Dataset) : (ofDataset d).Describes d where
  columns := by
    refine List.forall₂_map_right_iff.mpr (List.forall₂_same.mpr fun name _ => ?_)
    exact ColumnMetrics.describes_ofCells d.rows name
  totalRows_eq := rfl
  nullCount_eq := List.sum_eq_foldl.symm

end DataQuality
