import DataQuality.Proofs.Number.Value
import DataQuality.Rule.Comparator
import DataQuality.Settings
import Mathlib.Data.Option.NAry
import Mathlib.Tactic.Linarith

/-!
# How the comparators fit together

Exactly, a comparison of two finite floats is read off the order of their values
(`DataQuality.Comparator.holds_eq_holdsOf`), so that the six comparators have the structure that
the three orders give them.

With a tolerance they are six formulas about two shifted boundaries, and they fit together as far
as `DataQuality.Comparator.CoherentWithin` says. Three of them deny the other three, whatever gets
lost in rounding. Where nothing is rounded, the two inclusive comparators hold together exactly when
the numbers differ by the tolerance **at most**, and equality holds when they differ by **less**: on
the boundary the two part. A tolerance of zero leaves nothing but the boundary, so that no number is
equal to itself then (`DataQuality.Comparator.holdsWithin_zero_tolerance`).
-/

namespace DataQuality.Comparator

open Number Float.Model Float.Model.UnpackedFloat

/-! ### Exact comparison -/

/-- **Exact comparisons go by the order of the values.** -/
theorem holds_eq_holdsOf (c : Comparator) {x y : Float} {p r : ℚ} (hx : toRat? x = some p)
    (hy : toRat? y = some r) : c.holds x y = c.holdsOf (compare p r) := by
  rw [Bool.eq_iff_iff]
  cases c with
  | gt =>
    rw [holds, holdsOf, decide_eq_true_eq, beq_iff_eq, compare_gt_iff_gt]
    exact lt_iff_of_toRat? hy hx
  | lt =>
    rw [holds, holdsOf, decide_eq_true_eq, beq_iff_eq, compare_lt_iff_lt]
    exact lt_iff_of_toRat? hx hy
  | gte =>
    rw [holds, holdsOf, decide_eq_true_eq, bne_iff_ne]
    exact (le_iff_of_toRat? hy hx).trans (compare_lt_iff_lt.not.trans not_lt).symm
  | lte =>
    rw [holds, holdsOf, decide_eq_true_eq, bne_iff_ne]
    exact (le_iff_of_toRat? hx hy).trans (compare_gt_iff_gt.not.trans not_lt).symm
  | eq =>
    rw [holds, holdsOf, beq_iff_of_toRat? hx hy, beq_iff_eq, compare_eq_iff_eq]
  | neq =>
    rw [holds, holdsOf, bne, Bool.not_eq_true', ← Bool.not_eq_true, beq_iff_of_toRat? hx hy,
      bne_iff_ne]
    exact compare_eq_iff_eq.not.symm

/-! ### Comparison with a tolerance -/

/-- The difference of two numbers and the two boundaries around the second one come out **without
rounding**. An infinite tolerance has no value, and then the boundaries have none either. -/
structure ExactAround (tolerance a b : Float) : Prop where
  /-- The difference is exact. -/
  difference : toRat? (a - b) = Option.map₂ (· - ·) (toRat? a) (toRat? b)
  /-- The upper boundary is exact. -/
  upper : toRat? (b + tolerance) = Option.map₂ (· + ·) (toRat? b) (toRat? tolerance)
  /-- The lower boundary is exact. -/
  lower : toRat? (b - tolerance) = Option.map₂ (· - ·) (toRat? b) (toRat? tolerance)

instance (tolerance a b : Float) : Decidable (ExactAround tolerance a b) :=
  decidable_of_iff (_ ∧ _ ∧ _)
    ⟨fun ⟨hdifference, hupper, hlower⟩ => ⟨hdifference, hupper, hlower⟩,
      fun h => ⟨h.difference, h.upper, h.lower⟩⟩

/-- How the comparators **fit together** on two numbers under a tolerance. -/
structure CoherentWithin (tolerance a b : Float) : Prop where
  /-- Greater denies less or equal. -/
  gt_eq : gt.holdsWithin tolerance a b = !lte.holdsWithin tolerance a b
  /-- Less denies greater or equal. -/
  lt_eq : lt.holdsWithin tolerance a b = !gte.holdsWithin tolerance a b
  /-- Different denies equal. -/
  neq_eq : neq.holdsWithin tolerance a b = !eq.holdsWithin tolerance a b
  /-- Without rounding, the inclusive comparators hold together when the numbers are equal or their
  difference is the tolerance. -/
  inclusive : ExactAround tolerance a b →
    (gte.holdsWithin tolerance a b && lte.holdsWithin tolerance a b) =
      (eq.holdsWithin tolerance a b || (a - b).abs == tolerance)
  /-- Numbers whose difference is the tolerance are not equal. -/
  boundary : ((a - b).abs == tolerance) = true → eq.holdsWithin tolerance a b = false
  /-- A number is equal to itself when the tolerance is not zero. -/
  self : (a == b) = true → eq.holdsWithin tolerance a b = decide (0 < tolerance)

section Tolerance

variable {tolerance a b : Float}

theorem decide_lt_eq_not_decide_le {x y : Float} (hx : x.toModel.unpack ≠ .notANumber)
    (hy : y.toModel.unpack ≠ .notANumber) : decide (x < y) = !decide (y ≤ x) := by
  rw [← decide_not, decide_eq_decide, ← not_lt_iff_le hx hy, not_not]

/-- A tolerance that is not negative has a value, or it is infinite. -/
theorem toRat?_of_nonneg (h : 0 ≤ tolerance) :
    (∃ r, toRat? tolerance = some r) ∨ tolerance.toModel.unpack = .infinity .positive := by
  rw [le_iff_compare] at h
  rcases hu : tolerance.toModel.unpack with s | _ | s | ⟨s, m, q, hm⟩
  · cases s with
    | negative =>
      rw [hu] at h
      exact absurd h (by decide)
    | positive => exact .inr rfl
  · rw [hu] at h
    exact absurd h (by decide)
  · exact .inl (isFinite_iff.mp (by rw [Float.isFinite, Float.Model.isFinite, hu]; rfl))
  · exact .inl (isFinite_iff.mp (by rw [Float.isFinite, Float.Model.isFinite, hu]; rfl))

/-- A finite tolerance: the law is one about the absolute value of a rational number. -/
theorem inclusive_of_toRat? {p q r : ℚ} (ha : toRat? a = some p) (hb : toRat? b = some q)
    (ht : toRat? tolerance = some r) (h : ExactAround tolerance a b) :
    (gte.holdsWithin tolerance a b && lte.holdsWithin tolerance a b) =
      (eq.holdsWithin tolerance a b || (a - b).abs == tolerance) := by
  have hdifference : toRat? (a - b) = some (p - q) := by rw [h.difference, ha, hb]; rfl
  have hupper : toRat? (b + tolerance) = some (q + r) := by rw [h.upper, hb, ht]; rfl
  have hlower : toRat? (b - tolerance) = some (q - r) := by rw [h.lower, hb, ht]; rfl
  have habs := toRat?_abs hdifference
  rw [Bool.eq_iff_iff, Bool.and_eq_true, Bool.or_eq_true, beq_iff_of_toRat? habs ht]
  simp only [holdsWithin, decide_eq_true_eq]
  rw [le_iff_of_toRat? hlower ha, le_iff_of_toRat? ha hupper, lt_iff_of_toRat? habs ht,
    ← le_iff_lt_or_eq, abs_le]
  constructor
  · rintro ⟨hgte, hlte⟩
    constructor <;> linarith
  · rintro ⟨hgte, hlte⟩
    constructor <;> linarith

/-- An infinite tolerance: the boundaries are the infinities, and every exact difference is within
them. -/
theorem inclusive_of_infinity {p q : ℚ} (ha : toRat? a = some p) (hb : toRat? b = some q)
    (ht : tolerance.toModel.unpack = .infinity .positive) (h : ExactAround tolerance a b) :
    (gte.holdsWithin tolerance a b && lte.holdsWithin tolerance a b) =
      (eq.holdsWithin tolerance a b || (a - b).abs == tolerance) := by
  have habs : toRat? (a - b).abs = some |p - q| := toRat?_abs (by rw [h.difference, ha, hb]; rfl)
  obtain ⟨hupper, hlower⟩ := unpack_add_infinity hb ht
  have hgte : b - tolerance ≤ a := by
    rw [le_iff_compare, hlower, (compare_infinity ha).2]
    rfl
  have hlte : a ≤ b + tolerance := by
    rw [le_iff_compare, hupper, (compare_infinity ha).1]
    rfl
  have heq : (a - b).abs < tolerance := by
    rw [lt_iff_compare, ht, (compare_infinity habs).1]
  simp only [holdsWithin, hgte, hlte, heq, decide_true, Bool.and_self, Bool.true_or]

/-- **The comparators fit together** on two finite numbers under every tolerance that is not
negative. -/
theorem coherentWithin (ha : a.isFinite = true) (hb : b.isFinite = true) (ht : 0 ≤ tolerance) :
    CoherentWithin tolerance a b := by
  obtain ⟨p, hp⟩ := isFinite_iff.mp ha
  obtain ⟨q, hq⟩ := isFinite_iff.mp hb
  have htolerance : tolerance.toModel.unpack ≠ .notANumber := by
    rcases toRat?_of_nonneg ht with ⟨r, hr⟩ | hinfinity
    · exact unpack_ne_notANumber_of_isFinite (isFinite_iff.mpr ⟨r, hr⟩)
    · rw [hinfinity]
      simp
  have hnumber := unpack_ne_notANumber_of_isFinite ha
  have hdifference := abs_ne_notANumber
    (sub_ne_notANumber ha (unpack_ne_notANumber_of_isFinite hb))
  refine ⟨?_, ?_, ?_, ?_, ?_, ?_⟩
  · exact decide_lt_eq_not_decide_le (add_ne_notANumber hb htolerance) hnumber
  · exact decide_lt_eq_not_decide_le hnumber (sub_ne_notANumber hb htolerance)
  · rw [holdsWithin, holdsWithin, decide_lt_eq_not_decide_le hdifference htolerance, Bool.not_not]
  · intro hexact
    rcases toRat?_of_nonneg ht with ⟨r, hr⟩ | hinfinity
    · exact inclusive_of_toRat? hp hq hr hexact
    · exact inclusive_of_infinity hp hq hinfinity hexact
  · intro hboundary
    rw [beq_iff_compare] at hboundary
    rw [holdsWithin, decide_eq_false_iff_not, lt_iff_compare, hboundary]
    decide
  · intro hself
    rw [holdsWithin, abs_sub_of_beq ha hself]

end Tolerance

/-- A tolerance that was set is not negative. -/
theorem zero_le_clampTolerance (t : Float) : 0 ≤ Settings.clampTolerance t := by
  rw [Settings.clampTolerance]
  split
  · next h =>
    rw [lt_iff_compare] at h
    rw [le_iff_compare, h]
    rfl
  · decide

/-- On the boundary both inclusive comparators hold, and equality does not. -/
theorem coherentWithin_half :
    ExactAround (Settings.clampTolerance 0.5) 2.5 2 ∧
      CoherentWithin (Settings.clampTolerance 0.5) 2.5 2 ∧
      (gte.holdsWithin (Settings.clampTolerance 0.5) 2.5 2 &&
        lte.holdsWithin (Settings.clampTolerance 0.5) 2.5 2) = true ∧
      eq.holdsWithin (Settings.clampTolerance 0.5) 2.5 2 = false := by
  have hexact : ExactAround (Settings.clampTolerance 0.5) 2.5 2 := by decide +kernel
  have hboundary : (((2.5 : Float) - 2).abs == Settings.clampTolerance 0.5) = true := by decide
  have hcoherent : CoherentWithin (Settings.clampTolerance 0.5) 2.5 2 :=
    coherentWithin (by decide) (by decide) (zero_le_clampTolerance 0.5)
  refine ⟨hexact, hcoherent, ?_, hcoherent.boundary hboundary⟩
  rw [hcoherent.inclusive hexact, hboundary, Bool.or_true]

/-- **A tolerance of zero leaves no room for equality.** It is admitted, and nothing is rounded, and
still ten is different from ten, although it is neither greater nor less. -/
theorem holdsWithin_zero_tolerance :
    ExactAround (Settings.clampTolerance 0) 10 10 ∧
      gte.holdsWithin (Settings.clampTolerance 0) 10 10 = true ∧
      lte.holdsWithin (Settings.clampTolerance 0) 10 10 = true ∧
      eq.holdsWithin (Settings.clampTolerance 0) 10 10 = false ∧
      neq.holdsWithin (Settings.clampTolerance 0) 10 10 = true := by
  refine ⟨by decide +kernel, ?_, ?_, ?_, ?_⟩ <;> decide

end DataQuality.Comparator
