import DataQuality.Proofs.Engine.Footprint
import DataQuality.Proofs.Number.Cell

/-!
# Empty cells read as zero

A rule on rows may read an empty cell as zero. It does so late, after the cells that it names have
become a value: after they were added up, or the first number other than zero was found among them.
The same could be done early, by **filling** the empty cells of the sheet with zeros and leaving the
option off; and for a rule that compares columns with columns this makes no difference
(`DataQuality.exists_contributes_filled`).

Filling goes through everything on the way from a row to a verdict. It keeps the columns that a row
has, so the rule is passed over on the same rows; it keeps the number that stands in a cell, and so
all sums; and of a single column the filled cell is the cell as the rule reads it.

For the last the column has to be there. An absent cell is empty too, and the rule would read it as
zero, but filling adds no cells. Where a rule judges a row, a single column is there, since it is
required; a specification that lists no column is left out, since the name that it is taken for is
not.
-/

namespace DataQuality

/-! ### Filling -/

/-- A cell that is **empty**: it holds nothing, or a blank text. -/
def Cell.isEmpty : Cell → Bool
  | .null => true
  | .text s => Text.isBlankText s
  | .bool _ => false
  | .number _ => false

/-- A cell with a zero **filled in** where it was empty. -/
def Cell.filled (c : Cell) : Cell := if c.isEmpty then .number 0 else c

/-- A marker is a value of its own. -/
example : (Cell.text " #N/A ").filled = .text " #N/A " := by decide

/-- A row with its empty cells filled. No cells are added. -/
def Row.filled (r : Row) : Row where
  fields := r.fields.map fun f => (f.1, f.2.filled)
  nodup := by
    rw [fieldNames, List.map_map]
    exact r.nodup

/-- A dataset with its empty cells filled. The declared columns stay as they are. -/
def Dataset.filled (d : Dataset) : Dataset := { d with rows := d.rows.map Row.filled }

/-! ### Cells -/

namespace Cell

/-- **What a rule reads as zero is an empty cell.** -/
theorem isEmptyText_eq_isEmpty (c : Cell) : c.isEmptyText = c.isEmpty := by
  cases c with
  | null => rfl
  | bool b => cases b <;> rfl
  | number n => exact beq_false_of_ne (Number.trim_display_ne (by simp) (by decide))
  | text s =>
    rw [Bool.eq_iff_iff, isEmptyText, beq_iff_eq]
    exact Text.trim_eq_empty_iff

section Filled

variable {c : Cell}

theorem filled_of_isEmpty (h : c.isEmpty = true) : c.filled = .number 0 := if_pos h

theorem filled_of_not_isEmpty (h : c.isEmpty = false) : c.filled = c := by
  rw [filled, h]
  rfl

theorem isBlank_of_isEmpty (h : c.isEmpty = true) : c.isBlank = true := by
  cases c with
  | null => rfl
  | bool b => cases h
  | number n => cases h
  | text s => exact Bool.or_eq_true_iff.mpr (.inl h)

/-- A cell that is not blank is not empty either, so nothing is filled in. -/
theorem filled_of_not_isBlank (h : c.isBlank = false) : c.filled = c := by
  refine filled_of_not_isEmpty ?_
  rcases hempty : c.isEmpty with _ | _
  · rfl
  · rw [isBlank_of_isEmpty hempty] at h
    cases h

/-- Being blank or zero is not changed by filling. -/
theorem isBlank_or_isZero_filled (c : Cell) :
    (c.filled.isBlank || c.filled.isZero) = (c.isBlank || c.isZero) := by
  rcases hempty : c.isEmpty with _ | _
  · rw [filled_of_not_isEmpty hempty]
  · have hzero : (Cell.number 0).isZero = true := by decide +kernel
    rw [filled_of_isEmpty hempty, isBlank_of_isEmpty hempty, hzero, Bool.or_true, Bool.true_or]

end Filled

/-- The number in a cell stays the same, since a cell without a number counts as zero. -/
theorem numberOrZero_filled (c : Cell) : c.filled.numberOrZero = c.numberOrZero := by
  rw [filled]
  split
  · next hempty =>
    rcases hnumber : c.number? with _ | n
    · rw [numberOrZero, numberOrZero, hnumber]
      rfl
    · rw [← isEmptyText_eq_isEmpty, isEmptyText_of_number? hnumber] at hempty
      cases hempty
  · rfl

end Cell

/-! ### Rows -/

namespace Row

variable (r : Row) (name : String)

theorem get?_filled : r.filled.get? name = (r.get? name).map Cell.filled := by
  rw [get?, get?, filled, List.find?_map, Option.map_map, Option.map_map]
  rfl

theorem contains_filled : r.filled.contains name = r.contains name := by
  rw [contains, contains, get?_filled, Option.isSome_map]

/-- A cell that is there gets filled. -/
theorem cell_filled (h : r.contains name = true) : r.filled.cell name = (r.cell name).filled := by
  obtain ⟨c, hc⟩ := Option.isSome_iff_exists.mp h
  rw [cell, cell, get?_filled, hc]
  rfl

/-- The numbers stay the same, also that of an absent cell. -/
theorem numberAt_filled : Operand.numberAt r.filled = Operand.numberAt r := by
  funext name
  rw [Operand.numberAt, Operand.numberAt, cell, cell, get?_filled]
  cases r.get? name with
  | none => rfl
  | some c => exact c.numberOrZero_filled

end Row

namespace Operand

variable (r : Row) {spec : String}

/-- **Filling the cells fills the value** of a specification that lists columns, if a single one is
there. -/
theorem ofColumns_filled (hlists : columnNames spec ≠ [])
    (hpresent : ∀ name, columnNames spec = [name] → r.contains name = true) :
    ofColumns r.filled spec = (ofColumns r spec).filled := by
  unfold ofColumns
  rcases hnames : columnNames spec with _ | ⟨name, _ | ⟨name', names⟩⟩
  · exact absurd hnames hlists
  · exact r.cell_filled name (hpresent name hnames)
  · -- a sum is a number, which is never empty
    rw [r.numberAt_filled]
    rfl

/-- The first number other than zero stays the same. -/
theorem firstNonZero_filled (spec : String) :
    firstNonZero r.filled spec = (firstNonZero r spec).filled := by
  rw [firstNonZero, r.numberAt_filled]
  rfl

end Operand

/-! ### Checks -/

/-- A rule that reads **every cell as it is**. -/
def RowRule.readingAsIs (body : RowRule) : RowRule := { body with emptyAsZero := false }

namespace RowCheck

section Filled

variable {d : Dataset} {rule : Rule} {body : RowRule} {r : Row}

/-- With the option on, a check reads a value as the filled one. -/
theorem read_of_emptyAsZero (hzero : body.emptyAsZero = true) (value : Cell) :
    (ofRowRule d rule body).read value = value.filled := by
  rw [read, ofRowRule, hzero, Bool.true_and, value.isEmptyText_eq_isEmpty]
  rfl

/-- With the option off, it takes the value as it is. -/
theorem read_readingAsIs (value : Cell) : (ofRowRule d rule body.readingAsIs).read value = value :=
  rfl

variable (rule' : Rule)

/-- The same columns are required, and found. -/
theorem missing?_filled (rule : Rule) :
    (ofRowRule d rule' body.readingAsIs).missing? r.filled =
      (ofRowRule d rule body).missing? r := by
  rw [missing?, missing?]
  exact List.find?_congr fun name _ => by rw [r.contains_filled]

theorem target_filled (hzero : body.emptyAsZero = true) (hlists : body.ListsColumns)
    (hmissing : (ofRowRule d rule body).missing? r = none) :
    (ofRowRule d rule' body.readingAsIs).target r.filled = (ofRowRule d rule body).target r := by
  rw [target, target, read_of_emptyAsZero hzero, read_readingAsIs]
  simp only [ofRowRule, RowRule.readingAsIs]
  cases body.targetMode with
  | sum =>
    refine Operand.ofColumns_filled r hlists.1 fun name hname =>
      missing?_ofRowRule_eq_none_iff.mp hmissing name ?_
    exact .inl ⟨hname ▸ List.mem_singleton_self name, fun _ => hname⟩
  | firstNonZero => exact Operand.firstNonZero_filled r body.column

theorem operand_filled (hzero : body.emptyAsZero = true) (hcolumn : body.operandIsColumn = true)
    (hlists : body.ListsColumns) (hmissing : (ofRowRule d rule body).missing? r = none) :
    (ofRowRule d rule' body.readingAsIs).operand r.filled =
      (ofRowRule d rule body).operand r := by
  rw [operand, operand, read_of_emptyAsZero hzero, read_readingAsIs]
  simp only [ofRowRule, RowRule.readingAsIs, Operand.resolve, hcolumn, if_true]
  exact Operand.ofColumns_filled r (hlists.2 hcolumn) fun name hname =>
    missing?_ofRowRule_eq_none_iff.mp hmissing name (.inr ⟨hcolumn, hname⟩)

/-- **A check without the option finds on the filled row what one with the option finds.** -/
theorem outcome_filled (hzero : body.emptyAsZero = true) (hcolumn : body.operandIsColumn = true)
    (hlists : body.ListsColumns) :
    (ofRowRule d rule' body.readingAsIs).outcome r.filled = (ofRowRule d rule body).outcome r := by
  rw [outcome, outcome, missing?_filled rule' rule]
  rcases hmissing : (ofRowRule d rule body).missing? r with _ | name
  · -- nothing is missing, so the columns that filling could not add are there
    have htarget := target_filled rule' hzero hlists hmissing
    have hoperand := operand_filled rule' hzero hcolumn hlists hmissing
    have hpasses : ∀ value, (ofRowRule d rule' body.readingAsIs).passes r.filled value =
        (ofRowRule d rule body).passes r value := by
      intro value
      rw [passes, passes, hoperand]
      rfl
    simp only [htarget, hpasses]
  · rfl

end Filled

end RowCheck

/-! ### Runs -/

/-- **Reading empty cells as zero is filling them with zeros.** On every row, a rule that compares
columns with columns and reads empty cells as zero contributes what the same rule without this
option contributes on the filled dataset, among any other rules: it is passed over on both, or it
judges the same value and gives the same verdict on it. -/
theorem exists_contributes_filled (settings : Settings) {d : Dataset} {rule : Rule}
    {body : RowRule} {i : Nat} (hbody : rule.body = .row body) (hzero : body.emptyAsZero = true)
    (hcolumn : body.operandIsColumn = true) (hlists : body.ListsColumns) (hi : i < d.size) :
    ∃ contribution, Contributes (execute settings d) rule i contribution ∧
      Contributes (execute settings d.filled) { rule with body := .row body.readingAsIs } i
        contribution := by
  obtain ⟨id, name, message, _⟩ := rule
  obtain rfl := hbody
  let rule' : Rule := ⟨id, name, message, .row body.readingAsIs⟩
  have hrow : d.rows[i]? = some d.rows[i] := List.getElem?_eq_getElem hi
  have hfilled : d.filled.rows[i]? = some d.rows[i].filled := by
    rw [Dataset.filled, List.getElem?_map, hrow, Option.map_some]
  have hcolumns : d.filled.columns = d.columns := rfl
  have hcontribution : (RowCheck.ofRowRule d ⟨id, name, message, .row body⟩ body).contribution?
        settings.missing d.rows[i] =
      (RowCheck.ofRowRule d.filled rule' body.readingAsIs).contribution? settings.missing
        d.rows[i].filled := by
    rw [RowCheck.ofRowRule_congr hcolumns, RowCheck.contribution?, RowCheck.contribution?,
      RowCheck.outcome_filled rule' hzero hcolumn hlists]
    rfl
  refine ⟨_, contributes_execute settings rfl hrow, ?_⟩
  rw [hcontribution]
  exact contributes_execute settings rfl hfilled

/-- A sheet with a blank area, and with nothing where the crop should be. -/
def unsownSheet : Dataset where
  columns := [⟨"area", .number⟩, ⟨"crop", .number⟩]
  rows := [.ofFields [("area", .text " "), ("crop", .null)]]

/-- An area is at least the sum of two others: on a row with blanks only, and on the row with zeros
in their place. -/
theorem exists_contributes_filled_unsownSheet :
    (areaBody.emptyAsZero = true ∧ areaBody.operandIsColumn = true ∧ areaBody.ListsColumns ∧
      0 < unsownSheet.size) ∧
    ∃ contribution,
      Contributes (execute .strict unsownSheet) ⟨7, none, none, .row areaBody⟩ 0 contribution ∧
      Contributes (execute .strict unsownSheet.filled)
        ⟨7, none, none, .row areaBody.readingAsIs⟩ 0 contribution := by
  have hlists : areaBody.ListsColumns := by constructor <;> decide
  exact ⟨⟨rfl, rfl, hlists, Nat.zero_lt_one⟩,
    exists_contributes_filled .strict rfl rfl rfl hlists Nat.zero_lt_one⟩

end DataQuality
