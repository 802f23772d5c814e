import DataQuality.Proofs.Engine.Footprint
import DataQuality.Proofs.Engine.GroupVerdicts
import DataQuality.Proofs.Number.Cell

/-!
# Numbers stored as texts

A sheet may hold a number as a number or as a text, and the one may have become the other on the way
to the dataset. Rules that look at numbers do not see the difference
(`DataQuality.storedAlike_of_sameNumbers`): a total is the same, and a rule on rows that compares
numbers, checks a range or checks consistency is passed over on the same rows and gives the same
verdict on the others.

Two cells are related by `DataQuality.Cell.SameNumber` if they are equal or hold the same number.
The relation is kept by everything that leads from a row to a verdict: by reading a cell, by adding
cells up, by looking for the first number other than zero. At the end stands a question that has one
answer for related cells: which number they hold, or whether they are blank, or absent.
-/

namespace DataQuality

/-! ### Cells -/

/-- Two cells that are equal, or **hold the same number**. -/
def Cell.SameNumber (c c' : Cell) : Prop :=
  c = c' ∨ ∃ n, c.number? = some n ∧ c'.number? = some n

namespace Cell.SameNumber

variable {c c' : Cell}

theorem refl (c : Cell) : c.SameNumber c := .inl rfl

/-- A text holds the same number as the cell with the number that it is read as. -/
theorem text_number {s : String} {n : Float} (h : Number.parse? s = some n) :
    (Cell.text s).SameNumber (.number n) :=
  .inr ⟨n, h, if_pos (Number.isFinite_of_parse? h)⟩

theorem number?_eq (h : c.SameNumber c') : c.number? = c'.number? := by
  rcases h with rfl | ⟨n, hn, hn'⟩
  · rfl
  · rw [hn, hn']

theorem numberOrZero_eq (h : c.SameNumber c') : c.numberOrZero = c'.numberOrZero := by
  rw [numberOrZero, numberOrZero, h.number?_eq]

theorem isZero_eq (h : c.SameNumber c') : c.isZero = c'.isZero := by
  rw [isZero, isZero, h.number?_eq]

theorem isBlank_eq (h : c.SameNumber c') : c.isBlank = c'.isBlank := by
  rcases h with rfl | ⟨n, hn, hn'⟩
  · rfl
  · rw [isBlank_of_number? hn, isBlank_of_number? hn']

theorem isEmptyText_eq (h : c.SameNumber c') : c.isEmptyText = c'.isEmptyText := by
  rcases h with rfl | ⟨n, hn, hn'⟩
  · rfl
  · rw [isEmptyText_of_number? hn, isEmptyText_of_number? hn']

theorem isAbsent_eq (h : c.SameNumber c') : Operator.isAbsent c = Operator.isAbsent c' := by
  rcases h with rfl | ⟨n, hn, hn'⟩
  · rfl
  · rw [isAbsent_of_number? hn, isAbsent_of_number? hn']

end Cell.SameNumber

/-! ### Rows -/

/-- Two rows with **the same numbers**: they have the same fields, in any order, and related cells
in them. -/
def Row.SameNumbers (r s : Row) : Prop :=
  ∀ name, Option.Rel Cell.SameNumber (r.get? name) (s.get? name)

namespace Row.SameNumbers

variable {r s : Row}

/-- Rows of the same fields in the same order have the same numbers if their cells do. -/
theorem of_fields
    (h : List.Forall₂ (fun f g => f.1 = g.1 ∧ f.2.SameNumber g.2) r.fields s.fields) :
    r.SameNumbers s := by
  intro name
  rw [Row.get?, Row.get?]
  generalize r.fields = fs, s.fields = gs at h ⊢
  induction h with
  | nil => exact .none
  | @cons f g fs gs hhead _ ih =>
    obtain ⟨hname, hcell⟩ := hhead
    rw [List.find?_cons, List.find?_cons, ← hname]
    cases f.1 == name with
    | true => exact .some hcell
    | false => exact ih

theorem contains (h : r.SameNumbers s) (name : String) : r.contains name = s.contains name := by
  have hcell := h name
  rw [Row.contains, Row.contains]
  generalize r.get? name = c, s.get? name = c' at hcell ⊢
  cases hcell <;> rfl

theorem cell (h : r.SameNumbers s) (name : String) : (r.cell name).SameNumber (s.cell name) := by
  have hcell := h name
  rw [Row.cell, Row.cell]
  generalize r.get? name = c, s.get? name = c' at hcell ⊢
  cases hcell with
  | none => exact .refl _
  | some hcell => exact hcell

theorem numberAt (h : r.SameNumbers s) : Operand.numberAt r = Operand.numberAt s :=
  funext fun name => (h.cell name).numberOrZero_eq

/-- A specification of columns has related values. -/
theorem ofColumns (h : r.SameNumbers s) (spec : String) :
    (Operand.ofColumns r spec).SameNumber (Operand.ofColumns s spec) := by
  unfold Operand.ofColumns
  split
  · exact h.cell spec
  · next name _ => exact h.cell name
  · rw [h.numberAt]
    exact .refl _

theorem firstNonZero (h : r.SameNumbers s) (spec : String) :
    Operand.firstNonZero r spec = Operand.firstNonZero s spec := by
  rw [Operand.firstNonZero, Operand.firstNonZero, h.numberAt]

theorem resolve (h : r.SameNumbers s) (isColumn : Bool) (operand : String) :
    (Operand.resolve r isColumn operand).SameNumber (Operand.resolve s isColumn operand) := by
  cases isColumn with
  | true => exact h.ofColumns operand
  | false => exact .refl _

end Row.SameNumbers

/-! ### Operators -/

/-- A check that **looks at numbers**: it compares numbers, checks a range or checks consistency. -/
def RowCheck.ReadsNumbers (c : RowCheck) : Prop :=
  (∃ comparator, c.body.operator = .compare comparator ∧ c.type = .number) ∨
    c.body.operator = .between ∨ c.body.operator = .consistency

namespace Operator

variable {v v' o o' : Cell}

theorem compareCells_number_congr (comparator : Comparator) (hv : v.SameNumber v')
    (ho : o.SameNumber o') :
    compareCells comparator .number v o = compareCells comparator .number v' o' := by
  rw [compareCells, compareCells, hv.number?_eq, ho.number?_eq]

/-- Bounds are equal or, on both sides, a single number and so no bounds. -/
theorem inRange_congr (hv : v.SameNumber v') (ho : o.SameNumber o') :
    inRange v o = inRange v' o' := by
  rcases ho with rfl | ⟨n, hn, hn'⟩
  · rw [inRange, inRange, hv.number?_eq]
  · rw [inRange, inRange, Cell.splitOnce?_of_number? hn, Cell.splitOnce?_of_number? hn']

theorem consistent_congr (hv : v.SameNumber v') (ho : o.SameNumber o') :
    consistent v o = consistent v' o' := by
  rw [consistent, consistent, hv.numberOrZero_eq, ho.isAbsent_eq]

end Operator

/-! ### Checks -/

namespace RowCheck

variable {c : RowCheck} {r s : Row} {v v' : Cell}

theorem read_sameNumber (h : v.SameNumber v') : (c.read v).SameNumber (c.read v') := by
  rw [read, read, h.isEmptyText_eq]
  split
  · exact .refl _
  · exact h

theorem target_sameNumber (h : r.SameNumbers s) : (c.target r).SameNumber (c.target s) := by
  unfold target
  refine read_sameNumber ?_
  cases c.body.targetMode with
  | sum => exact h.ofColumns _
  | firstNonZero => exact .inl (h.firstNonZero _)

theorem operand_sameNumber (h : r.SameNumbers s) : (c.operand r).SameNumber (c.operand s) :=
  read_sameNumber (h.resolve _ _)

theorem missing?_eq_of_sameNumbers (h : r.SameNumbers s) : c.missing? r = c.missing? s := by
  rw [missing?, missing?]
  exact List.find?_congr fun name _ => by rw [h.contains name]

theorem passesUnseen_congr (h : v.SameNumber v') : c.passesUnseen v = c.passesUnseen v' := by
  rw [passesUnseen, passesUnseen, h.isBlank_eq, h.isZero_eq]

/-- **The verdict is the same** on related rows and values. -/
theorem passes_congr (hreads : c.ReadsNumbers) (h : r.SameNumbers s) (hv : v.SameNumber v') :
    c.passes r v = c.passes s v' := by
  have ho := operand_sameNumber (c := c) h
  rw [passes, passes, passesUnseen_congr hv]
  rcases hreads with ⟨comparator, hoperator, htype⟩ | hoperator | hoperator
  · rw [hoperator, htype, Operator.evaluate, Operator.evaluate, hv.isBlank_eq,
      Operator.compareCells_number_congr comparator hv ho]
  · rw [hoperator, Operator.evaluate, Operator.evaluate, hv.isBlank_eq,
      Operator.inRange_congr hv ho]
  · rw [hoperator, Operator.evaluate, Operator.evaluate, Operator.consistent_congr hv ho]

end RowCheck

/-! ### Contributions -/

/-- Two contributions that **say the same**: they are by the same rule and of the same verdict, and
the cells looked at are related. -/
structure Contribution.SameVerdict (a b : Contribution) : Prop where
  /-- They are by the same rule. -/
  ruleId : a.1.ruleId = b.1.ruleId
  /-- The rule has the same description. -/
  description : a.1.description = b.1.description
  /-- The verdict is the same. -/
  passed : a.1.passed = b.1.passed
  /-- The cells looked at are related. -/
  observed : a.1.observed.SameNumber b.1.observed
  /-- They have the same failure, or none. -/
  failure : a.2 = b.2

/-- A check makes contributions to related rows that say the same, or none to both. -/
theorem RowCheck.contribution?_rel {c : RowCheck} {r s : Row} (hreads : c.ReadsNumbers)
    (h : r.SameNumbers s) (policy : MissingPolicy) :
    Option.Rel Contribution.SameVerdict (c.contribution? policy r) (c.contribution? policy s) := by
  have htarget := target_sameNumber (c := c) h
  have hpasses := passes_congr hreads h htarget
  rw [contribution?, contribution?, outcome, outcome, missing?_eq_of_sameNumbers h]
  cases c.missing? s with
  | some column =>
    cases policy with
    | skip => exact .none
    | fail => exact .some ⟨rfl, rfl, rfl, .refl _, rfl⟩
  | none =>
    simp only [hpasses, evaluation?, failure?, Option.map_some]
    exact .some ⟨rfl, rfl, rfl, htarget, rfl⟩

/-! ### Totals -/

section Totals

variable {rows rows' : List Row}

/-- A column of related rows has **the same numbers** in it. -/
theorem columnNumbers_congr (h : List.Forall₂ Row.SameNumbers rows rows') :
    columnNumbers rows = columnNumbers rows' := by
  funext name
  rw [columnNumbers, columnNumbers]
  induction h with
  | nil => rfl
  | @cons r s rows rows' hrow _ ih =>
    have hnumber : (r.get? name).bind (·.number?) = (s.get? name).bind (·.number?) := by
      have hcell := hrow name
      generalize r.get? name = c, s.get? name = c' at hcell ⊢
      cases hcell with
      | none => rfl
      | some hcell => exact hcell.number?_eq
    rw [List.filterMap_cons, List.filterMap_cons, hnumber, ih]

theorem Aggregate.ofRows_congr (h : List.Forall₂ Row.SameNumbers rows rows')
    (kind : AggregationKind) (distinct : Bool) (spec : String) :
    ofRows kind none distinct spec rows = ofRows kind none distinct spec rows' := by
  have htaken : taken distinct rows = taken distinct rows' := by
    funext name
    rw [taken, taken, columnNumbers_congr h]
  rw [ofRows, ofRows, htaken]

namespace AggregateRule

variable {r : AggregateRule}

theorem representativeColumn?_of_groupBy_eq_none (hgroup : r.groupBy = none) :
    r.representativeColumn? = none := by
  rw [representativeColumn?, hgroup]
  cases r.groupMode <;> rfl

/-- **A total is the same**, and what it is compared with as well. -/
theorem failures_congr {d d' : Dataset} (hgroup : r.groupBy = none)
    (h : List.Forall₂ Row.SameNumbers d.rows d'.rows) (tolerance : Float) :
    r.failures d tolerance = r.failures d' tolerance := by
  have hungrouped : r.ungrouped = r := by rw [ungrouped, ← hgroup]
  have hwhole : r.groupColumn? = none := hungrouped ▸ r.groupColumn?_ungrouped
  have hrepresentative := representativeColumn?_of_groupBy_eq_none hgroup
  rcases hoperator : r.operator with ⟨kind, comparator⟩ | name
  · rw [failures_of_wholePart hoperator hwhole, failures_of_wholePart hoperator hwhole]
    simp only [outcome, target?, referenceValue?, hrepresentative, Aggregate.ofRows_congr h]
  · rw [failures_of_unknown hoperator, failures_of_unknown hoperator]

end AggregateRule

end Totals

/-! ### Datasets -/

/-- Two datasets with **the same numbers**: the same declared columns and, row by row, the same
numbers. -/
structure Dataset.SameNumbers (d d' : Dataset) : Prop where
  /-- The declared columns are the same. -/
  columns : d.columns = d'.columns
  /-- The rows have the same numbers. -/
  rows : List.Forall₂ Row.SameNumbers d.rows d'.rows

/-- Two datasets on which the rules that look at numbers **say the same**. -/
structure Dataset.StoredAlike (d d' : Dataset) : Prop where
  /-- A rule on totals without a grouping column leaves the same messages. -/
  failures : ∀ (r : AggregateRule) (tolerance : Float), r.groupBy = none →
    r.failures d tolerance = r.failures d' tolerance
  /-- A rule on rows that looks at numbers is passed over on both datasets, or its contributions say
  the same. -/
  contributes : ∀ (settings : Settings) (rule : Rule) (body : RowRule) (i : Nat),
    rule.body = .row body → (RowCheck.ofRowRule d rule body).ReadsNumbers → i < d.size →
    ∃ a b, Contributes (execute settings d) rule i a ∧ Contributes (execute settings d') rule i b ∧
      Option.Rel Contribution.SameVerdict a b

/-- **It does not matter how a number is stored.** -/
theorem storedAlike_of_sameNumbers {d d' : Dataset} (h : d.SameNumbers d') : d.StoredAlike d' where
  failures _ tolerance hgroup := AggregateRule.failures_congr hgroup h.rows tolerance
  contributes settings rule body i hbody hreads hi := by
    have hi' : i < d'.rows.length := h.rows.length_eq ▸ hi
    have hrow : d.rows[i].SameNumbers d'.rows[i] := h.rows.get hi hi'
    refine ⟨_, _, contributes_execute settings hbody (List.getElem?_eq_getElem hi),
      contributes_execute settings hbody (List.getElem?_eq_getElem hi'), ?_⟩
    rw [← RowCheck.ofRowRule_congr h.columns]
    exact RowCheck.contribution?_rel hreads hrow settings.missing

/-- A sheet that holds its numbers as texts. -/
def writtenSheet : Dataset where
  columns := [⟨"v", .number⟩, ⟨"w", .text⟩]
  rows := [⟨[("v", .text " 1e1 "), ("w", .text "+.5")], by decide⟩,
    ⟨[("w", .text "-0"), ("v", .text "ten")], by decide⟩]

/-- The same sheet with numbers where it had texts. -/
def readSheet : Dataset where
  columns := [⟨"v", .number⟩, ⟨"w", .text⟩]
  rows := [⟨[("v", .number 10), ("w", .number 0.5)], by decide⟩,
    ⟨[("w", .number (-0)), ("v", .text "ten")], by decide⟩]

theorem storedAlike_of_sameNumbers_writtenSheet :
    writtenSheet.SameNumbers readSheet ∧ writtenSheet.StoredAlike readSheet := by
  have hten : Number.parse? " 1e1 " = some 10 := by decide +kernel
  have hhalf : Number.parse? "+.5" = some 0.5 := by decide +kernel
  have hzero : Number.parse? "-0" = some (-0) := by decide +kernel
  have hsame : writtenSheet.SameNumbers readSheet := by
    refine ⟨rfl, .cons (.of_fields ?_) (.cons (.of_fields ?_) .nil)⟩
    · exact .cons ⟨rfl, .text_number hten⟩ (.cons ⟨rfl, .text_number hhalf⟩ .nil)
    · exact .cons ⟨rfl, .text_number hzero⟩ (.cons ⟨rfl, .refl _⟩ .nil)
  exact ⟨hsame, storedAlike_of_sameNumbers hsame⟩

end DataQuality
