import DataQuality.Proofs.Number.Cell
import DataQuality.Proofs.Rule.Comparator
import DataQuality.Rule.Operator

/-!
# How the operators fit together

The operators of row rules are not independent of each other
(`DataQuality.Operator.coherent`). A blank value fails every operator that needs a value; occurrence
of a text and its absence deny each other; a beginning is an occurrence; a range check is a pair of
comparisons.

The six comparators answer one question, in which **order** the value and the operand are
(`DataQuality.Operator.order?`). Texts are always in some order, and so are numbers: they are
finite, and compared by their values. Only where one of two cells is no number there is no order,
and then all comparisons by number fail.
-/

namespace DataQuality

open Number

/-! ### Numbers of cells -/

/-- The number of a cell has a value. -/
theorem Cell.exists_toRat?_of_number? {c : Cell} {n : Float} (h : c.number? = some n) :
    ∃ p, toRat? n = some p :=
  Number.isFinite_iff.mp (isFinite_of_number? h)

/-! ### Six verdicts from one order -/

/-- The verdicts of the six comparators are **those of one order**: exactly one of greater, equal
and less, and the other three as they follow from it. -/
structure Comparator.Trichotomous (verdict : Comparator → Bool) : Prop where
  /-- Exactly one of greater, equal and less. -/
  one : (verdict .gt, verdict .eq, verdict .lt) ∈
    [(true, false, false), (false, true, false), (false, false, true)]
  /-- Greater or equal. -/
  gte_eq : verdict .gte = (verdict .gt || verdict .eq)
  /-- Less or equal. -/
  lte_eq : verdict .lte = (verdict .lt || verdict .eq)
  /-- Different. -/
  neq_eq : verdict .neq = !verdict .eq

theorem Comparator.trichotomous_holdsOf (o : Ordering) : Trichotomous (·.holdsOf o) := by
  cases o <;> constructor <;> decide

namespace Operator

/-- The **order** in which a comparison finds the value and the operand. By number there is none
when one of them is no number. -/
def order? (type : ColumnType) (value operand : Cell) : Option Ordering :=
  match type with
  | .text => some (Text.order value.folded operand.folded)
  | .number => Option.map₂ Ord.compare (value.number?.bind toRat?) (operand.number?.bind toRat?)

variable {type : ColumnType} {value operand : Cell}

/-- **All comparisons are read off the order.** -/
theorem compareCells_eq (c : Comparator) :
    compareCells c type value operand = (order? type value operand).elim false c.holdsOf := by
  cases type with
  | text => rfl
  | number =>
    rw [compareCells, order?]
    rcases hvalue : value.number? with _ | a
    · rfl
    · rcases hoperand : operand.number? with _ | b
      · rw [Option.bind_none, Option.map₂_none_right]
        rfl
      · obtain ⟨p, hp⟩ := Cell.exists_toRat?_of_number? hvalue
        obtain ⟨r, hr⟩ := Cell.exists_toRat?_of_number? hoperand
        rw [Option.bind_some, Option.bind_some, hp, hr]
        exact c.holds_eq_holdsOf hp hr

theorem order?_swap (type : ColumnType) (value operand : Cell) :
    order? type operand value = (order? type value operand).map Ordering.swap := by
  cases type with
  | text => exact congrArg some (Text.order_swap _ _)
  | number =>
    rw [order?, order?]
    generalize value.number?.bind toRat? = x, operand.number?.bind toRat? = y
    cases x with
    | none => cases y <;> rfl
    | some p =>
      cases y with
      | none => rfl
      | some r => exact congrArg some Std.OrientedOrd.eq_swap

/-- There is an order unless a comparison by number meets a cell that is no number. -/
theorem order?_eq_none_iff :
    order? type value operand = none ↔
      type = .number ∧ (value.number? = none ∨ operand.number? = none) := by
  have hnone : ∀ c : Cell, c.number?.bind toRat? = none ↔ c.number? = none := by
    intro c
    rcases hc : c.number? with _ | a
    · exact iff_of_true rfl rfl
    · obtain ⟨p, hp⟩ := Cell.exists_toRat?_of_number? hc
      rw [Option.bind_some, hp]
      exact iff_of_false (by simp) (by simp)
  cases type with
  | text => simp [order?]
  | number => rw [order?, Option.map₂_eq_none_iff, hnone, hnone, and_iff_right rfl]

/-! ### Blank values -/

/-- An operator that **needs a value**: it asks neither for blankness nor for a companion, and it is
recognized. -/
def NeedsValue : Operator → Prop
  | .compare _ => True
  | .contains => True
  | .notContains => True
  | .startsWith => True
  | .between => True
  | .isBlank => False
  | .notBlank => False
  | .consistency => False
  | .unknown _ => False

theorem evaluate_of_isBlank {op : Operator} (hop : op.NeedsValue) (hblank : value.isBlank = true) :
    op.evaluate type value operand = false := by
  cases op with
  | isBlank => exact hop.elim
  | notBlank => exact hop.elim
  | consistency => exact hop.elim
  | unknown name => exact hop.elim
  | _ => rw [evaluate, hblank]; rfl

/-! ### Coherence -/

/-- The value is not blank, and a comparison finds it and the operand **in some order**. -/
def Comparable (type : ColumnType) (value operand : Cell) : Prop :=
  value.isBlank = false ∧
    (type = .number → value.number? ≠ none ∧ operand.number? ≠ none)

/-- How the operators **fit together** on a value and an operand. -/
structure Coherent (type : ColumnType) (value operand : Cell) : Prop where
  /-- A blank value fails every operator that needs a value. -/
  blank : value.isBlank = true →
    ∀ op : Operator, op.NeedsValue → op.evaluate type value operand = false
  /-- On any other value, absence denies occurrence. -/
  notContains_eq : value.isBlank = false →
    notContains.evaluate type value operand = !contains.evaluate type value operand
  /-- A beginning is an occurrence. -/
  contains_of_startsWith : startsWith.evaluate type value operand = true →
    contains.evaluate type value operand = true
  /-- The comparators give the verdicts of one order where there is one. -/
  trichotomous : Comparable type value operand →
    Comparator.Trichotomous fun c => (compare c).evaluate type value operand
  /-- They all fail where there is none. -/
  incomparable : ¬Comparable type value operand →
    ∀ c, (compare c).evaluate type value operand = false
  /-- What is greater on the one side is less on the other. -/
  gt_eq : value.isBlank = false → operand.isBlank = false →
    (compare .gt).evaluate type value operand = (compare .lt).evaluate type operand value
  /-- Equal texts begin with each other and contain each other. -/
  of_eq : type = .text → (compare .eq).evaluate type value operand = true →
    startsWith.evaluate type value operand = true ∧ contains.evaluate type value operand = true
  /-- A range check is a pair of comparisons by number. -/
  between_eq : ∀ low high : String, ',' ∉ low.toList →
    between.evaluate type value (.text (low ++ "," ++ high)) =
      ((compare .gte).evaluate .number value (.text low) &&
        (compare .lte).evaluate .number value (.text high))
  /-- Numbers are compared by their values, which are rational numbers. -/
  by_value : ∀ a b, value.number? = some a → operand.number? = some b →
    ∃ p r, toRat? a = some p ∧ toRat? b = some r ∧
      ∀ c, (compare c).evaluate .number value operand = c.holdsOf (Ord.compare p r)

/-- On a value that is not blank, a comparison is read off the order. -/
theorem evaluate_compare (hblank : value.isBlank = false) (c : Comparator) :
    (compare c).evaluate type value operand = (order? type value operand).elim false c.holdsOf := by
  rw [evaluate, hblank, compareCells_eq, Bool.not_false, Bool.true_and]

theorem evaluate_startsWith_iff :
    startsWith.evaluate type value operand = true ↔
      value.isBlank = false ∧ operand.folded.toList <+: value.folded.toList := by
  rw [evaluate, Bool.and_eq_true, Bool.not_eq_true', Text.startsWith_iff]

theorem evaluate_contains_iff :
    contains.evaluate type value operand = true ↔
      value.isBlank = false ∧ operand.folded.toList <:+: value.folded.toList := by
  rw [evaluate, Bool.and_eq_true, Bool.not_eq_true', Text.contains_iff]

/-- The bounds of a range check stand on the two sides of the first comma. -/
theorem inRange_pair {low : String} (h : ',' ∉ low.toList) (high : String) :
    inRange value (.text (low ++ "," ++ high)) =
      (compareCells .gte .number value (.text low) &&
        compareCells .lte .number value (.text high)) := by
  have hsplit : Text.splitOnce? ',' (Cell.text (low ++ "," ++ high)).display = some (low, high) :=
    Text.splitOnce?_append h high
  have hnumber : ∀ s, (Cell.text s).number? = Number.parse? s := fun _ => rfl
  simp only [inRange, hsplit, compareCells, hnumber]
  rcases value.number? with _ | a
  · rfl
  · rcases Number.parse? low with _ | b
    · rfl
    · rcases Number.parse? high with _ | c
      · exact (Bool.and_false _).symm
      · rfl

/-- **The operators fit together** on all values and operands, under either type. -/
theorem coherent (type : ColumnType) (value operand : Cell) : Coherent type value operand where
  blank hblank op hop := evaluate_of_isBlank hop hblank
  notContains_eq hblank := by
    rw [evaluate, evaluate, hblank, Bool.not_false, Bool.true_and, Bool.true_and]
  contains_of_startsWith h := by
    obtain ⟨hblank, hbegins⟩ := evaluate_startsWith_iff.mp h
    exact evaluate_contains_iff.mpr ⟨hblank, hbegins.isInfix⟩
  trichotomous := by
    rintro ⟨hblank, hnumbers⟩
    simp only [evaluate_compare hblank]
    rcases horder : order? type value operand with _ | o
    · obtain ⟨htype, hnone | hnone⟩ := order?_eq_none_iff.mp horder
      · exact absurd hnone (hnumbers htype).1
      · exact absurd hnone (hnumbers htype).2
    · exact Comparator.trichotomous_holdsOf o
  incomparable h c := by
    rcases hblank : value.isBlank with _ | _
    · have hnone : order? type value operand = none := by
        rw [order?_eq_none_iff]
        by_contra hsome
        exact h ⟨hblank, fun htype => not_or.mp fun hnone => hsome ⟨htype, hnone⟩⟩
      rw [evaluate_compare hblank, hnone]
      rfl
    · exact evaluate_of_isBlank trivial hblank
  gt_eq hvalue hoperand := by
    rw [evaluate_compare hvalue, evaluate_compare hoperand, order?_swap type value operand]
    rcases order? type value operand with _ | o
    · rfl
    · cases o <;> rfl
  of_eq htype h := by
    subst htype
    rw [evaluate, Bool.and_eq_true, Bool.not_eq_true'] at h
    have hfolded : value.folded = operand.folded := by
      rw [← Text.order_eq_iff]
      exact beq_iff_eq.mp h.2
    rw [evaluate_startsWith_iff, evaluate_contains_iff, hfolded]
    exact ⟨⟨h.1, List.prefix_rfl⟩, ⟨h.1, List.infix_rfl⟩⟩
  between_eq low high h := by
    rw [evaluate, evaluate, evaluate, inRange_pair h]
    cases value.isBlank <;> simp
  by_value a b ha hb := by
    obtain ⟨p, hp⟩ := Cell.exists_toRat?_of_number? ha
    obtain ⟨r, hr⟩ := Cell.exists_toRat?_of_number? hb
    refine ⟨p, r, hp, hr, fun c => ?_⟩
    rw [evaluate_compare (Cell.isBlank_of_number? ha), order?, ha, hb, Option.bind_some,
      Option.bind_some, hp, hr]
    rfl

end Operator

end DataQuality
