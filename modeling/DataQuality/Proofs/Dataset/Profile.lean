import DataQuality.Proofs.Dataset.Distinct
import DataQuality.Proofs.Number.Cell
import DataQuality.Proofs.Row.Repetitions

/-!
# What a profile counts

A profile counts three kinds of cells: blank ones, error literals and zeros. They are told apart in
three different ways, by the trimmed text, by a list of markers and by reading a number, but no cell
is of two kinds (`DataQuality.exists_unique_class`): a marker is not blank and has a `#`, and the
text of a number has a digit and no `#`. So with the rest they make up all rows of a column, and
what is not blank is what the different values are counted among
(`DataQuality.ColumnProfile.describes_ofCells`).

No count depends on the order of the rows (`DataQuality.DataProfile.ofDataset_of_perm`).
-/

namespace DataQuality

/-! ### Classes of cells -/

/-- The **classes** into which a profile splits the cells of a column. -/
inductive CellClass where
  /-- Nothing to see. -/
  | blank
  /-- An error literal of a spreadsheet. -/
  | errorLiteral
  /-- The number zero. -/
  | zero
  /-- Anything else. -/
  | other
  deriving DecidableEq

/-- A cell in which there is **nothing to see**, or a lone dash. -/
inductive IsHollow : Option Cell → Prop
  /-- There is no cell. -/
  | absent : IsHollow none
  /-- The cell is empty. -/
  | null : IsHollow (some .null)
  /-- The text has blank characters only. -/
  | blankText {s : String} (h : Text.isBlankText s = true) : IsHollow (some (.text s))
  /-- But for blank characters the text is a dash. -/
  | dash {s : String} (h : Text.trim s = "-") : IsHollow (some (.text s))

/-- A text cell with an **error literal**, blank characters around it and the case of its letters
aside. -/
def IsErrorLiteral (cell : Option Cell) : Prop :=
  ∃ s, cell = some (.text s) ∧
    ∃ marker ∈ errorMarkers, Text.sameLetters (Text.trim s) marker = true

/-- A cell that is read as the **number zero**. -/
def IsZeroCell (cell : Option Cell) : Prop :=
  ∃ c x, cell = some c ∧ c.number? = some x ∧ (x == 0) = true

/-- The cells of a class. -/
def InClass (cell : Option Cell) : CellClass → Prop
  | .blank => IsHollow cell
  | .errorLiteral => IsErrorLiteral cell
  | .zero => IsZeroCell cell
  | .other => ¬IsHollow cell ∧ ¬IsErrorLiteral cell ∧ ¬IsZeroCell cell

namespace Cell

/-- The class of a cell, as the three tests find it. -/
def profileClass (c : Cell) : CellClass :=
  if c.isProfileBlank then .blank
  else if c.isErrorMarker then .errorLiteral
  else if c.isZero then .zero
  else .other

/-- **A number is not blank** for a profile: it has a digit. -/
theorem number?_eq_none_of_isProfileBlank {c : Cell} (h : c.isProfileBlank = true) :
    c.number? = none := by
  refine Option.eq_none_iff_forall_not_mem.mpr fun x hx => ?_
  rw [isProfileBlank, Bool.or_eq_true, beq_iff_eq, beq_iff_eq] at h
  rcases h with h | h
  · exact trimmed_ne_empty hx h
  · have hletters : Text.sameLetters c.trimmed "-" = false := sameLetters_trimmed hx (by decide)
    rw [h] at hletters
    exact absurd hletters (by decide)

/-- **A number is not an error literal**: it has no `#`. -/
theorem number?_eq_none_of_isErrorMarker {c : Cell} (h : c.isErrorMarker = true) :
    c.number? = none := by
  have hhash : ∀ marker ∈ errorMarkers, '#' ∈ marker.toList.map Char.toLower := by decide
  refine Option.eq_none_iff_forall_not_mem.mpr fun x hx => ?_
  cases c with
  | text s =>
    obtain ⟨marker, hmarker, hletters⟩ := List.any_eq_true.mp h
    obtain ⟨l, -, hl⟩ := exists_literal hx
    have hmem := hhash marker hmarker
    rw [← beq_iff_eq.mp hletters] at hmem
    change '#' ∈ (trimmed (.text s)).toList.map Char.toLower at hmem
    rw [hl] at hmem
    exact Literal.notMem_chars (by decide) (by decide) l hmem
  | _ => cases h

/-- **An error literal is not blank.** -/
theorem isErrorMarker_eq_false_of_isProfileBlank {c : Cell} (h : c.isProfileBlank = true) :
    c.isErrorMarker = false := by
  have hblank : ∀ marker ∈ errorMarkers, ∀ text ∈ ["", "-"],
      Text.sameLetters text marker = false := by decide
  cases c with
  | text s =>
    have htext : Text.trim s ∈ ["", "-"] := by
      rw [isProfileBlank, Bool.or_eq_true, beq_iff_eq, beq_iff_eq] at h
      rcases h with h | h
      · exact List.mem_cons.mpr (.inl h)
      · exact List.mem_cons_of_mem _ (List.mem_singleton.mpr h)
    rw [isErrorMarker, isMarker, List.any_eq_false]
    intro marker hmarker
    exact Bool.eq_false_iff.mp (hblank marker hmarker _ htext)
  | _ => rfl

theorem isZero_eq_false_of_number?_eq_none {c : Cell} (h : c.number? = none) :
    c.isZero = false := by
  rw [isZero, h]

theorem isHollow_iff {cell : Option Cell} :
    IsHollow cell ↔ (cell.getD .null).isProfileBlank = true := by
  constructor
  · rintro (_ | _ | h | h)
    · decide
    · decide
    · exact Bool.or_eq_true_iff.mpr (.inl (beq_iff_eq.mpr (Text.trim_eq_empty_iff.mpr h)))
    · exact Bool.or_eq_true_iff.mpr (.inr (beq_iff_eq.mpr h))
  · intro h
    rcases cell with _ | _ | b | x | s
    · exact .absent
    · exact .null
    · cases b <;> exact absurd h (by decide)
    · have hempty : Text.trim (Number.display x) ≠ "" :=
        Number.trim_display_ne (by simp) (by decide)
      have hdash : Text.trim (Number.display x) ≠ "-" :=
        Number.trim_display_ne (by decide) (by decide)
      rcases Bool.or_eq_true_iff.mp h with h | h
      · exact absurd (beq_iff_eq.mp h) hempty
      · exact absurd (beq_iff_eq.mp h) hdash
    · rcases Bool.or_eq_true_iff.mp h with h | h
      · exact .blankText (Text.trim_eq_empty_iff.mp (beq_iff_eq.mp h))
      · exact .dash (beq_iff_eq.mp h)

theorem isErrorLiteral_iff {cell : Option Cell} :
    IsErrorLiteral cell ↔ (cell.getD .null).isErrorMarker = true := by
  constructor
  · rintro ⟨s, rfl, hmarker⟩
    exact List.any_eq_true.mpr hmarker
  · intro h
    rcases cell with _ | _ | b | x | s
    · cases h
    · cases h
    · cases h
    · cases h
    · exact ⟨s, rfl, List.any_eq_true.mp h⟩

theorem isZeroCell_iff {cell : Option Cell} :
    IsZeroCell cell ↔ (cell.getD .null).isZero = true := by
  constructor
  · rintro ⟨c, x, rfl, hx, hzero⟩
    rw [Option.getD_some, isZero, hx]
    exact hzero
  · intro h
    cases cell with
    | none => cases h
    | some c =>
      rw [Option.getD_some, isZero] at h
      cases hx : c.number? with
      | none =>
        rw [hx] at h
        cases h
      | some x =>
        rw [hx] at h
        exact ⟨c, x, rfl, hx, h⟩

/-- **Every cell is of one class**, the one that the tests find. -/
theorem inClass_iff {cell : Option Cell} {k : CellClass} :
    InClass cell k ↔ (cell.getD .null).profileClass = k := by
  have hblank : (cell.getD .null).isProfileBlank = true →
      (cell.getD .null).isErrorMarker = false ∧ (cell.getD .null).isZero = false := fun h =>
    ⟨isErrorMarker_eq_false_of_isProfileBlank h,
      isZero_eq_false_of_number?_eq_none (number?_eq_none_of_isProfileBlank h)⟩
  have herror : (cell.getD .null).isErrorMarker = true → (cell.getD .null).isZero = false :=
    fun h => isZero_eq_false_of_number?_eq_none (number?_eq_none_of_isErrorMarker h)
  rw [profileClass]
  cases k with
  | blank =>
    refine isHollow_iff.trans ?_
    split_ifs <;> simp_all
  | errorLiteral =>
    refine isErrorLiteral_iff.trans ?_
    split_ifs <;> simp_all
  | zero =>
    refine isZeroCell_iff.trans ?_
    split_ifs <;> simp_all
  | other =>
    have hothers : ¬IsErrorLiteral cell ∧ ¬IsZeroCell cell ↔
        ¬(cell.getD .null).isErrorMarker = true ∧ ¬(cell.getD .null).isZero = true :=
      and_congr isErrorLiteral_iff.not isZeroCell_iff.not
    refine (and_congr isHollow_iff.not hothers).trans ?_
    split_ifs <;> simp_all

end Cell

instance (cell : Option Cell) : Decidable (IsHollow cell) :=
  decidable_of_iff _ Cell.isHollow_iff.symm

instance (cell : Option Cell) (k : CellClass) : Decidable (InClass cell k) :=
  decidable_of_iff _ Cell.inClass_iff.symm

/-- **The classes do not overlap**, and there is no cell outside them. -/
theorem exists_unique_class (cell : Option Cell) : ∃! k, InClass cell k := by
  refine ⟨(cell.getD .null).profileClass, Cell.inClass_iff.mpr rfl, fun k hk => ?_⟩
  exact (Cell.inClass_iff.mp hk).symm

/-- How many rows have a cell of a class in a column. -/
def classSize (rows : List Row) (name : String) (k : CellClass) : Nat :=
  rows.countP fun row => decide (InClass (row.get? name) k)

/-- **The classes make up all rows.** -/
theorem sum_classSize (rows : List Row) (name : String) :
    classSize rows name .blank + classSize rows name .errorLiteral + classSize rows name .zero +
      classSize rows name .other = rows.length := by
  induction rows with
  | nil => rfl
  | cons row rows ih =>
    simp only [classSize, List.countP_cons, Cell.inClass_iff, List.length_cons,
      decide_eq_true_eq] at ih ⊢
    cases ((row.get? name).getD .null).profileClass <;> simp <;> omega

/-! ### Columns -/

/-- The cells that are counted and those that are kept make up all cells. -/
theorem countP_add_length_filter_not (p : Cell → Bool) (cells : List Cell) :
    cells.countP p + (cells.filter fun c => !p c).length = cells.length := by
  rw [← List.countP_eq_length_filter, List.length_eq_countP_add_countP p]
  simp

/-- The cells of a column that are there. -/
def presentCells (rows : List Row) (name : String) : List Cell := rows.filterMap (·.get? name)

/-- Picking cells that are not null, it does not matter that absent cells are read as null. -/
theorem filter_cell_eq {p : Cell → Bool} (hnull : p .null = false) (rows : List Row)
    (name : String) :
    (rows.map (·.cell name)).filter p = (presentCells rows name).filter p := by
  induction rows with
  | nil => rfl
  | cons row rows ih =>
    rw [List.map_cons, List.filter_cons, ih, Row.cell]
    cases hcell : row.get? name with
    | none =>
      have hrest : presentCells (row :: rows) name = presentCells rows name :=
        List.filterMap_cons_none hcell
      rw [hrest, Option.getD_none, hnull, if_neg Bool.false_ne_true]
    | some c =>
      have hrest : presentCells (row :: rows) name = c :: presentCells rows name :=
        List.filterMap_cons_some hcell
      rw [hrest, List.filter_cons, Option.getD_some]

/-- The cells of a column in which there is **something to see**. -/
def shownCells (rows : List Row) (name : String) : List Cell :=
  (presentCells rows name).filter fun c => !decide (IsHollow (some c))

/-- A profile takes a cell for blank exactly if there is nothing to see in it. -/
theorem Cell.not_decide_isHollow (c : Cell) :
    (!decide (IsHollow (some c))) = !c.isProfileBlank := by
  rw [Bool.eq_iff_iff]
  simp [Cell.isHollow_iff]

theorem filter_cell_eq_shownCells (rows : List Row) (name : String) :
    (rows.map (·.cell name)).filter (fun c => !c.isProfileBlank) = shownCells rows name := by
  rw [filter_cell_eq (by decide), shownCells]
  simp only [Cell.not_decide_isHollow]

/-- What a profile counts in a column **is what is there**. -/
structure ColumnProfile.Describes (p : ColumnProfile) (rows : List Row) (name : String) :
    Prop where
  /-- The counts are those of the column. -/
  name_eq : p.name = name
  /-- The blank cells are counted, … -/
  blankCount_eq : p.blankCount = classSize rows name .blank
  /-- … the error literals, … -/
  errorMarkerCount_eq : p.errorMarkerCount = classSize rows name .errorLiteral
  /-- … and the zeros. -/
  zeroCount_eq : p.zeroCount = classSize rows name .zero
  /-- With the rest they make up all rows. -/
  add_eq : p.blankCount + p.errorMarkerCount + p.zeroCount + classSize rows name .other =
    rows.length
  /-- The different values are the different texts that are displayed in the other cells. -/
  uniqueValueCount_eq : p.uniqueValueCount =
    ((shownCells rows name).map (·.trimmed)).toFinset.card
  /-- There are no more of them than such cells. -/
  uniqueValueCount_add_le : p.uniqueValueCount + p.blankCount ≤ rows.length
  /-- There are some if there are such cells. -/
  uniqueValueCount_pos_iff : 0 < p.uniqueValueCount ↔ ∃ row ∈ rows, ¬IsHollow (row.get? name)

namespace ColumnProfile

variable {rows : List Row} {name : String}

/-- A test that finds the cells of a class **counts them**. -/
theorem countP_cell {p : Cell → Bool} {k : CellClass}
    (h : ∀ cell : Option Cell, InClass cell k ↔ p (cell.getD .null) = true) :
    (rows.map (·.cell name)).countP p = classSize rows name k := by
  rw [List.countP_map, classSize]
  refine List.countP_congr fun row _ => ?_
  rw [decide_eq_true_eq]
  exact (h (row.get? name)).symm

/-- So it does when the blank cells are left out before. -/
theorem countP_filter_cell {p : Cell → Bool} {k : CellClass}
    (h : ∀ cell : Option Cell, InClass cell k ↔ p (cell.getD .null) = true) (hk : k ≠ .blank) :
    ((rows.map (·.cell name)).filter fun c => !c.isProfileBlank).countP p =
      classSize rows name k := by
  rw [List.countP_filter]
  refine countP_cell fun cell => (h cell).trans ?_
  rw [Bool.and_eq_true, Bool.not_eq_true']
  refine (and_iff_left_of_imp fun hp => ?_).symm
  by_contra hblank
  have hhollow : InClass cell .blank := Cell.isHollow_iff.mpr (Bool.not_eq_false _ ▸ hblank)
  exact hk ((Cell.inClass_iff.mp ((h cell).mpr hp)).symm.trans (Cell.inClass_iff.mp hhollow))

/-- A cell is blank or takes part in the other counts. -/
theorem blankCount_add_length (rows : List Row) (name : String) :
    (ofCells name (rows.map (·.cell name))).blankCount + (shownCells rows name).length =
      rows.length := by
  have hadd := countP_add_length_filter_not (·.isProfileBlank) (rows.map (·.cell name))
  rwa [filter_cell_eq_shownCells, List.length_map] at hadd

theorem describes_ofCells (rows : List Row) (name : String) :
    (ofCells name (rows.map (·.cell name))).Describes rows name := by
  have hblank : (ofCells name (rows.map (·.cell name))).blankCount =
    classSize rows name .blank := countP_cell fun _ => Cell.isHollow_iff
  have herror : (ofCells name (rows.map (·.cell name))).errorMarkerCount =
    classSize rows name .errorLiteral :=
      countP_filter_cell (fun _ => Cell.isErrorLiteral_iff) (by decide)
  have hzero : (ofCells name (rows.map (·.cell name))).zeroCount =
    classSize rows name .zero := countP_filter_cell (fun _ => Cell.isZeroCell_iff) (by decide)
  have hunique : (ofCells name (rows.map (·.cell name))).uniqueValueCount =
      countDistinct ((shownCells rows name).map (·.trimmed)) := by
    rw [← filter_cell_eq_shownCells]
    rfl
  refine ⟨rfl, hblank, herror, hzero, ?_, ?_, ?_, ?_⟩
  · rw [hblank, herror, hzero]
    exact sum_classSize rows name
  · rw [hunique, countDistinct_eq_card]
  · have hle := countDistinct_le_length ((shownCells rows name).map (·.trimmed))
    have hadd := blankCount_add_length rows name
    rw [List.length_map] at hle
    omega
  · rw [hunique, countDistinct_pos_iff, ne_eq, List.map_eq_nil_iff, ← filter_cell_eq_shownCells,
      List.filter_eq_nil_iff]
    simp [Cell.isHollow_iff, Row.cell]

/-- **The order of the cells does not matter.** -/
theorem ofCells_of_perm (name : String) {cells cells' : List Cell} (h : cells'.Perm cells) :
    ofCells name cells' = ofCells name cells := by
  have hfilled := h.filter fun c => !c.isProfileBlank
  rw [ofCells, ofCells, h.countP_eq, hfilled.countP_eq, hfilled.countP_eq,
    countDistinct_perm (hfilled.map _)]

end ColumnProfile

/-! ### Datasets -/

/-- As many rows are repeated, whatever their order. -/
theorem length_duplicateIndices_of_perm {rows rows' : List Row} (h : rows'.Perm rows) :
    (duplicateIndices rows').length = (duplicateIndices rows).length := by
  have hcount := length_duplicateIndices_add_card rows
  have hcount' := length_duplicateIndices_add_card rows'
  rw [List.toFinset_eq_of_perm _ _ (h.map _), h.length_eq] at hcount'
  omega

/-- **The profile does not depend on the order of the rows.** -/
theorem DataProfile.ofDataset_of_perm {d : Dataset} {rows : List Row} (h : rows.Perm d.rows) :
    ofDataset { d with rows } = ofDataset d := by
  have hcolumns : ∀ name, ColumnProfile.ofCells name (Dataset.cells { d with rows } name) =
      ColumnProfile.ofCells name (d.cells name) :=
    fun name => ColumnProfile.ofCells_of_perm name (h.map _)
  simp only [ofDataset, hcolumns]
  rw [length_duplicateIndices_of_perm h, Dataset.size, Dataset.size, h.length_eq]
  rfl

/-- A profile **counts what is there**, in any order. -/
structure Dataset.ProfiledExactly (d : Dataset) : Prop where
  /-- In a column every row has a cell of one class, an absent cell being blank. -/
  split : ∀ cell : Option Cell, ∃! k, InClass cell k
  /-- The declared columns are described, in their order. -/
  columns : List.Forall₂ (fun name p => ColumnProfile.Describes p d.rows name) d.names
    (DataProfile.ofDataset d).columns
  /-- All rows are counted. -/
  totalRows_eq : (DataProfile.ofDataset d).totalRows = d.rows.length
  /-- In another order the rows have the same profile. -/
  reorder : ∀ rows : List Row, rows.Perm d.rows →
    DataProfile.ofDataset { d with rows } = DataProfile.ofDataset d

/-- **A profile counts what is there.** -/
theorem Dataset.profiledExactly (d : Dataset) : d.ProfiledExactly where
  split := exists_unique_class
  columns := by
    refine List.forall₂_map_right_iff.mpr (List.forall₂_same.mpr fun name _ => ?_)
    exact ColumnProfile.describes_ofCells d.rows name
  totalRows_eq := rfl
  reorder _ h := DataProfile.ofDataset_of_perm h

end DataQuality
