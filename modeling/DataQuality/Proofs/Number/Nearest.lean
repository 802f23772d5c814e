import DataQuality.Proofs.Number.Exact
import DataQuality.Proofs.Number.Shortest
import Mathlib.Tactic.NormNum

/-!
# The float nearest to a number

A number is rounded to the float nearest to it, and of two equally near ones to the one with an even
mantissa (`DataQuality.Number.IsNearest`). That is a statement about all floats. The rounding
interval of a float, on the other hand, is made of the float alone, with two ends that are written
down. This file shows that they say the same: a float is nearest to every number in its rounding
interval (`DataQuality.Number.isNearest_of_covers`), and no other float is
(`DataQuality.Number.RoundsTo.eq_of_covers`).

What carries both is the grid of the floats. The ends of a rounding interval lie halfway to the next
points on either side (`DataQuality.Binary.OnGrid.exists_next`,
`DataQuality.Binary.OnGrid.exists_previous`), also at the powers of two, where the grid becomes
coarser; and of two neighbours one has an odd mantissa. The zero is a point of the grid like all
others, with the mantissa zero and the least exponent.

The grid goes on behind the greatest float. What lies halfway behind it or beyond is out of range
(`DataQuality.Binary.OnGrid.lt_overflowBound_iff`).
-/

namespace DataQuality

/-! ### The grid of the floats -/

namespace Binary

/-- A point `m · 2 ^ q` **on the grid of the floats**, the zero among them; there is no greatest
exponent. -/
structure OnGrid (m : Nat) (q : Int) : Prop where
  /-- The mantissa has at most fifty-three bits. -/
  lt : m < 2 ^ 53
  /-- The exponent is not too small. -/
  bottom : -1074 ≤ q
  /-- Above the least exponent there are no fewer bits. -/
  full : -1074 < q → 2 ^ 52 ≤ m

theorem IsCanonical.onGrid {m : Nat} {q : Int} (h : IsCanonical m q) : OnGrid m q :=
  ⟨h.lt, h.bottom, h.full⟩

theorem onGrid_zero : OnGrid 0 (-1074) := ⟨by decide, by decide, fun h => absurd h (by decide)⟩

namespace OnGrid

variable {m m' : Nat} {q q' : Int}

theorem isCanonical (h : OnGrid m q) (hpos : 0 < m) : IsCanonical m q :=
  ⟨hpos, h.lt, h.bottom, h.full⟩

/-- The greater exponent belongs to the greater point. -/
theorem exponent_le (h : OnGrid m q) (h' : OnGrid m' q') (hle : (m : ℚ) * 2 ^ q ≤ m' * 2 ^ q') :
    q ≤ q' := by
  by_contra hlt
  rw [not_le] at hlt
  have hm : 0 < m := by
    have hfull := h.full (lt_of_le_of_lt h'.bottom hlt)
    omega
  rcases Nat.eq_zero_or_pos m' with rfl | hm'
  · have hpos : (0 : ℚ) < m * 2 ^ q := by positivity
    rw [Nat.cast_zero, zero_mul] at hle
    exact absurd hle (not_le.mpr hpos)
  · exact absurd hle
      (not_le.mpr (Number.mul_zpow_lt_of_exponent_lt (h'.isCanonical hm') (h.isCanonical hm) hlt))

/-- The mantissas of two points, written with the exponent of the one nearer to zero. -/
theorem exists_scale (hle : q ≤ q') : ∃ k : Nat, q' = q + k ∧ (2 : ℚ) ^ q' = 2 ^ k * 2 ^ q := by
  obtain ⟨k, rfl⟩ := Int.le.dest hle
  refine ⟨k, rfl, ?_⟩
  rw [zpow_add₀ two_ne_zero, zpow_natCast, mul_comm]

/-- **The next point**: between `m · 2 ^ q` and `(m + 1) · 2 ^ q` there is none. -/
theorem succ_le (h : OnGrid m q) (h' : OnGrid m' q') (hlt : (m : ℚ) * 2 ^ q < m' * 2 ^ q') :
    ((m : ℚ) + 1) * 2 ^ q ≤ m' * 2 ^ q' := by
  have hunit : (0 : ℚ) < 2 ^ q := by positivity
  obtain ⟨k, -, hscale⟩ := exists_scale (exponent_le h h' hlt.le)
  rw [hscale, ← mul_assoc] at hlt ⊢
  have hnat : m < m' * 2 ^ k := by exact_mod_cast lt_of_mul_lt_mul_right hlt hunit.le
  have hcast : (m : ℚ) + 1 ≤ m' * 2 ^ k := by exact_mod_cast hnat
  exact mul_le_mul_of_nonneg_right hcast hunit.le

/-- A point is written in one way only. -/
theorem eq_of_eq (h : OnGrid m q) (h' : OnGrid m' q') (heq : (m : ℚ) * 2 ^ q = m' * 2 ^ q') :
    m = m' ∧ q = q' := by
  obtain rfl : q = q' := le_antisymm (exponent_le h h' heq.le) (exponent_le h' h heq.ge)
  have hunit : (2 : ℚ) ^ q ≠ 0 := by positivity
  exact ⟨by exact_mod_cast mul_right_cancel₀ hunit heq, rfl⟩

end OnGrid

/-- Two points of the grid that are **neighbours**, the first one nearer to zero. -/
structure AreNeighbours (m : Nat) (q : Int) (m' : Nat) (q' : Int) : Prop where
  /-- The first one is on the grid. -/
  left : OnGrid m q
  /-- The second one is on the grid. -/
  right : OnGrid m' q'
  /-- The second one is greater. -/
  lt : (m : ℚ) * 2 ^ q < m' * 2 ^ q'
  /-- There is no point between them. -/
  gap : ∀ {n r}, OnGrid n r → (m : ℚ) * 2 ^ q < n * 2 ^ r → (m' : ℚ) * 2 ^ q' ≤ n * 2 ^ r
  /-- One of them has an odd mantissa. -/
  odd : m % 2 = 1 ∨ m' % 2 = 1

namespace OnGrid

variable {m m' : Nat} {q q' : Int}

/-- A point one unit behind another one is its neighbour. -/
theorem areNeighbours (h : OnGrid m q) (h' : OnGrid m' q')
    (hvalue : (m' : ℚ) * 2 ^ q' = (m + 1) * 2 ^ q) (hodd : m % 2 = 1 ∨ m' % 2 = 1) :
    AreNeighbours m q m' q' where
  left := h
  right := h'
  lt := by
    rw [hvalue]
    exact mul_lt_mul_of_pos_right (lt_add_one _) (by positivity)
  gap hn hlt := by
    rw [hvalue]
    exact succ_le h hn hlt
  odd := hodd

/-- **The next point**, with the upper end of the rounding interval halfway to it. -/
theorem exists_next (h : OnGrid m q) : ∃ m' q', AreNeighbours m q m' q' ∧
    2 * ((RoundingInterval.ofParts m q).high * (2 : ℚ) ^ (q - 2)) =
      m * 2 ^ q + m' * 2 ^ q' := by
  have hend : 2 * ((RoundingInterval.ofParts m q).high * (2 : ℚ) ^ (q - 2)) =
      m * 2 ^ q + (m + 1) * 2 ^ q := by
    have hhigh : (RoundingInterval.ofParts m q).high = 4 * m + 2 := rfl
    rw [hhigh, zpow_sub₀ two_ne_zero]
    push_cast
    ring
  have hlt := h.lt
  rcases Nat.eq_or_lt_of_le (Nat.succ_le_of_lt h.lt) with hlast | hlt'
  · -- all bits are ones, and the next point has one bit and a greater exponent
    have hgrid : OnGrid (2 ^ 52) (q + 1) :=
      ⟨by decide, by have hbottom := h.bottom; omega, fun _ => le_refl _⟩
    have hvalue : ((2 ^ 52 : Nat) : ℚ) * 2 ^ (q + 1) = (m + 1) * 2 ^ q := by
      have hcast : (m : ℚ) + 1 = 2 ^ 53 := by exact_mod_cast hlast
      rw [hcast, zpow_add_one₀ two_ne_zero]
      push_cast
      ring
    exact ⟨_, _, h.areNeighbours hgrid hvalue (.inl (by omega)), by rw [hend, hvalue]⟩
  · have hgrid : OnGrid (m + 1) q := ⟨hlt', h.bottom, fun hq => (h.full hq).trans (Nat.le_succ m)⟩
    have hvalue : ((m + 1 : Nat) : ℚ) * 2 ^ q = (m + 1) * 2 ^ q := by push_cast; ring
    exact ⟨_, _, h.areNeighbours hgrid hvalue (by omega), by rw [hend, hvalue]⟩

/-- **The point before**, with the lower end of the rounding interval halfway to it. -/
theorem exists_previous (h : OnGrid m q) (hpos : 0 < m) : ∃ m' q', AreNeighbours m' q' m q ∧
    2 * ((RoundingInterval.ofParts m q).low * (2 : ℚ) ^ (q - 2)) = m' * 2 ^ q' + m * 2 ^ q := by
  have hlow : (RoundingInterval.ofParts m q).low =
      4 * m - (if m = 2 ^ 52 ∧ -1074 < q then 1 else 2) := rfl
  by_cases hpower : m = 2 ^ 52 ∧ -1074 < q
  · -- the grid before a power of two is twice as fine
    obtain ⟨rfl, hq⟩ := hpower
    have hgrid : OnGrid (2 ^ 53 - 1) (q - 1) := ⟨by decide, by omega, fun _ => by decide⟩
    have hvalue : ((2 ^ 52 : Nat) : ℚ) * 2 ^ q = ((2 ^ 53 - 1 : Nat) + 1) * 2 ^ (q - 1) := by
      rw [zpow_sub_one₀ two_ne_zero]
      norm_num
      ring
    refine ⟨_, _, hgrid.areNeighbours h hvalue (.inl (by decide)), ?_⟩
    rw [hlow, if_pos ⟨rfl, hq⟩, hvalue, zpow_sub₀ two_ne_zero, zpow_sub_one₀ two_ne_zero]
    norm_num
    ring
  · have hgrid : OnGrid (m - 1) q := by
      refine ⟨lt_of_le_of_lt (Nat.sub_le m 1) h.lt, h.bottom, fun hq => ?_⟩
      have hfull := h.full hq
      have hne : m ≠ 2 ^ 52 := fun heq => hpower ⟨heq, hq⟩
      omega
    have hcast : ((m - 1 : Nat) : ℚ) + 1 = m := by exact_mod_cast Nat.sub_add_cancel hpos
    refine ⟨_, _, hgrid.areNeighbours h (by rw [hcast]) (by omega), ?_⟩
    have hends : ((4 * m - 2 : Nat) : ℚ) = 4 * m - 2 := by
      rw [Nat.cast_sub (by omega)]
      push_cast
      rfl
    rw [hlow, if_neg hpower, hends, ← hcast, zpow_sub₀ two_ne_zero]
    ring

end OnGrid

end Binary

/-! ### Nearest points -/

section Distances

variable {v p r : ℚ}

theorem abs_sub_le_abs_sub_of_le (hlt : p < r) (h : 2 * v ≤ p + r) : |v - p| ≤ |v - r| := by
  have hr : |v - r| = r - v := by
    rw [abs_sub_comm]
    exact abs_of_nonneg (by linarith)
  rw [hr, abs_le]
  constructor <;> linarith

theorem abs_sub_le_abs_sub_of_ge (hlt : r < p) (h : r + p ≤ 2 * v) : |v - p| ≤ |v - r| := by
  have hr : |v - r| = v - r := abs_of_nonneg (by linarith)
  rw [hr, abs_le]
  constructor <;> linarith

/-- What is equally far from two points lies halfway between them. -/
theorem two_mul_eq_add_of_abs_eq (hne : p ≠ r) (h : |v - p| = |v - r|) : 2 * v = p + r := by
  rcases abs_eq_abs.mp h with heq | heq
  · exact absurd (sub_right_injective heq) hne
  · linarith

end Distances

namespace Binary.OnGrid

variable {m n : Nat} {q r : Int} {v : ℚ}

/-- **A point is nearest to what its rounding interval covers**, among all points of the grid. With
an odd mantissa no other one is as near. -/
theorem nearest (h : OnGrid m q) (hv : (RoundingInterval.ofParts m q).Covers (q - 2) v)
    (hn : OnGrid n r) : |v - m * 2 ^ q| ≤ |v - n * 2 ^ r| ∧
      (|v - m * 2 ^ q| = |v - n * 2 ^ r| → (n : ℚ) * 2 ^ r ≠ m * 2 ^ q →
        m % 2 = 0 ∧ n % 2 = 1) := by
  have hopen : m % 2 = 1 → (RoundingInterval.ofParts m q).closed = false := fun hodd => by
    simp [RoundingInterval.ofParts, hodd]
  rcases lt_trichotomy ((m : ℚ) * 2 ^ q) (n * 2 ^ r) with hlt | heq | hlt
  · -- a greater point: it is the next one, or behind it
    obtain ⟨m', q', hnext, hend⟩ := h.exists_next
    have hgap := hnext.gap hn hlt
    have hupper := hv.upper
    refine ⟨abs_sub_le_abs_sub_of_le hlt (by linarith), fun htie _ => ?_⟩
    have hhalf := two_mul_eq_add_of_abs_eq hlt.ne htie
    obtain ⟨rfl, rfl⟩ := hnext.right.eq_of_eq hn (by linarith)
    have heven : m % 2 = 0 := by
      by_contra hodd
      have hstrict := (hv.strict (hopen (by omega))).2
      linarith
    have hodd := hnext.odd
    omega
  · rw [heq]
    exact ⟨le_refl _, fun _ hne => absurd rfl hne⟩
  · -- a smaller one: the one before, or one nearer to zero
    have hpos : 0 < m := by
      by_contra hzero
      obtain rfl : m = 0 := by omega
      rw [Nat.cast_zero, zero_mul] at hlt
      exact absurd hlt (not_lt.mpr (by positivity))
    obtain ⟨m', q', hprevious, hend⟩ := h.exists_previous hpos
    have hgap : (n : ℚ) * 2 ^ r ≤ m' * 2 ^ q' := by
      by_contra hbetween
      exact absurd (hprevious.gap hn (not_le.mp hbetween)) (not_le.mpr hlt)
    have hlower := hv.lower
    refine ⟨abs_sub_le_abs_sub_of_ge hlt (by linarith), fun htie _ => ?_⟩
    have hhalf := two_mul_eq_add_of_abs_eq hlt.ne' htie
    obtain ⟨rfl, rfl⟩ := hprevious.left.eq_of_eq hn (by linarith)
    have heven : m % 2 = 0 := by
      by_contra hodd
      have hstrict := (hv.strict (hopen (by omega))).1
      linarith
    have hodd := hprevious.odd
    omega

end Binary.OnGrid

/-! ### The range of the floats -/

/-- The magnitude from which on a number is **out of range**: halfway between the greatest float and
the point behind it. -/
def Number.overflowBound : ℚ := 2 ^ 1024 - 2 ^ 970

theorem Number.overflowBound_eq : overflowBound = ((2 ^ 55 - 2 : Nat) : ℚ) * 2 ^ (969 : Int) ∧
    overflowBound = ((2 ^ 54 - 1 : Nat) : ℚ) * 2 ^ (970 : Int) := by
  have hlast : (2 : ℚ) ^ 1024 = 2 ^ 55 * 2 ^ 969 := by rw [← pow_add]
  have hnext : (2 : ℚ) ^ 970 = 2 * 2 ^ 969 := pow_succ' 2 969
  have hunit : (2 : ℚ) ^ (969 : Int) = 2 ^ 969 := zpow_natCast 2 969
  have hunit' : (2 : ℚ) ^ (970 : Int) = 2 * 2 ^ 969 := by
    rw [← hnext]
    exact zpow_natCast 2 970
  have hcast : ((2 ^ 55 - 2 : Nat) : ℚ) = 2 ^ 55 - 2 := by norm_num
  have hcast' : ((2 ^ 54 - 1 : Nat) : ℚ) = 2 ^ 54 - 1 := by norm_num
  rw [overflowBound, hlast, hnext, hunit, hunit', hcast, hcast']
  generalize (2 : ℚ) ^ 969 = u
  constructor <;> ring

/-- **What is in range is rounded to a point in range**, whose exponent is that of a float. -/
theorem Binary.OnGrid.lt_overflowBound_iff {m : Nat} {q : Int} {v : ℚ} (h : OnGrid m q)
    (hv : (RoundingInterval.ofParts m q).Covers (q - 2) v) :
    v < Number.overflowBound ↔ q ≤ 971 := by
  constructor
  · intro hlt
    by_contra hq
    -- the lower end is not in range any more
    have hfull := h.full (by omega)
    have hlow : 2 ^ 54 - 1 ≤ (RoundingInterval.ofParts m q).low := by
      unfold RoundingInterval.ofParts
      dsimp only
      rw [Nat.pow_eq]
      split <;> omega
    have hunit : (2 : ℚ) ^ (970 : Int) ≤ 2 ^ (q - 2) :=
      zpow_le_zpow_right₀ one_le_two (by omega)
    refine absurd hlt (not_lt.mpr ?_)
    calc Number.overflowBound = ((2 ^ 54 - 1 : Nat) : ℚ) * 2 ^ (970 : Int) :=
          Number.overflowBound_eq.2
      _ ≤ (RoundingInterval.ofParts m q).low * 2 ^ (q - 2) :=
          mul_le_mul (Nat.cast_le.mpr hlow) hunit (by positivity) (Nat.cast_nonneg _)
      _ ≤ v := hv.lower
  · intro hq
    have hunit : (2 : ℚ) ^ (q - 2) ≤ 2 ^ (969 : Int) :=
      zpow_le_zpow_right₀ one_le_two (by omega)
    have hhigh : (RoundingInterval.ofParts m q).high = 4 * m + 2 := rfl
    have hlt := h.lt
    rw [Number.overflowBound_eq.1]
    rcases Nat.eq_or_lt_of_le (Nat.le_sub_one_of_lt hlt) with rfl | hlt'
    · -- the ends of the last interval do not belong to it
      have hopen : (RoundingInterval.ofParts (2 ^ 53 - 1) q).closed = false := by
        simp [RoundingInterval.ofParts]
      calc v < (RoundingInterval.ofParts (2 ^ 53 - 1) q).high * 2 ^ (q - 2) := (hv.strict hopen).2
        _ ≤ ((2 ^ 55 - 2 : Nat) : ℚ) * 2 ^ (969 : Int) :=
            mul_le_mul (Nat.cast_le.mpr hhigh.le) hunit (by positivity) (Nat.cast_nonneg _)
    · calc v ≤ (RoundingInterval.ofParts m q).high * 2 ^ (q - 2) := hv.upper
        _ ≤ (RoundingInterval.ofParts m q).high * 2 ^ (969 : Int) :=
            mul_le_mul_of_nonneg_left hunit (Nat.cast_nonneg _)
        _ < ((2 ^ 55 - 2 : Nat) : ℚ) * 2 ^ (969 : Int) :=
            mul_lt_mul_of_pos_right (Nat.cast_lt.mpr (by omega)) (by positivity)

/-! ### Signs -/

/-- A magnitude **with a sign**. -/
def withSign (negative : Bool) (v : ℚ) : ℚ := if negative then -v else v

theorem withSign_zero (negative : Bool) : withSign negative 0 = 0 := by
  cases negative
  · rfl
  · exact neg_zero

/-- Behind one sign, magnitudes are as far apart as they are. -/
theorem abs_withSign_sub_withSign (negative : Bool) (v w : ℚ) :
    |withSign negative v - withSign negative w| = |v - w| := by
  cases negative
  · rfl
  · exact (abs_sub_comm v w).symm ▸ congrArg abs (neg_sub_neg v w)

/-- Behind two signs, they are as far apart as they are from zero together. -/
theorem abs_withSign_sub_withSign_of_ne {negative negative' : Bool} (hne : negative ≠ negative')
    {v w : ℚ} (hv : 0 ≤ v) (hw : 0 ≤ w) :
    |withSign negative v - withSign negative' w| = v + w := by
  cases negative <;> cases negative' <;> simp only [ne_eq, not_true_eq_false] at hne
  · change |v - -w| = v + w
    rw [sub_neg_eq_add, abs_of_nonneg (by linarith)]
  · change |-v - w| = v + w
    rw [abs_sub_comm, sub_neg_eq_add, add_comm, abs_of_nonneg (by linarith)]

namespace Binary

/-- The parts of a **point with a sign**. -/
def ofGrid (negative : Bool) (m : Nat) (q : Int) : Binary :=
  if m = 0 then .zero negative else .finite negative m q

/-- Whether a sign is written in front of the parts. -/
def isNegative : Binary → Bool
  | .nan => false
  | .infinite negative => negative
  | .zero negative => negative
  | .finite negative _ _ => negative

/-- Whether the mantissa is even, as that of a zero is. -/
def isEven : Binary → Bool
  | .finite _ m _ => m % 2 = 0
  | _ => true

theorem isNegative_ofGrid (negative : Bool) (m : Nat) (q : Int) :
    (ofGrid negative m q).isNegative = negative := by
  rw [ofGrid]
  split <;> rfl

theorem isEven_ofGrid (negative : Bool) (m : Nat) (q : Int) :
    (ofGrid negative m q).isEven = true ↔ m % 2 = 0 := by
  rw [ofGrid]
  split
  · next hm => simp [isEven, hm]
  · exact decide_eq_true_iff

theorem toRat?_ofGrid (negative : Bool) (m : Nat) (q : Int) :
    (ofGrid negative m q).toRat? = some (withSign negative (m * 2 ^ q)) := by
  rw [ofGrid]
  split
  · next hm => rw [hm, Nat.cast_zero, zero_mul, withSign_zero, toRat?]
  · rfl

end Binary

namespace Number

/-- **A float with a value is a point of the grid with a sign.** -/
theorem exists_ofFloat_eq_ofGrid {x : Float} {p : ℚ} (h : toRat? x = some p) :
    ∃ negative m q, Binary.ofFloat x = .ofGrid negative m q ∧ Binary.OnGrid m q ∧
      p = withSign negative (m * 2 ^ q) := by
  have hgrid : ∃ negative m q, Binary.ofFloat x = .ofGrid negative m q ∧ Binary.OnGrid m q := by
    rcases unpack_cases h with ⟨s, hu, -⟩ | ⟨s, m, q, hm, hu, hcanonical, -⟩
    · refine ⟨Binary.isMinus s, 0, -1074, ?_, Binary.onGrid_zero⟩
      rw [Binary.ofFloat, hu]
      rfl
    · refine ⟨Binary.isMinus s, m, q, ?_, hcanonical.onGrid⟩
      rw [Binary.ofFloat, hu, Binary.ofGrid, if_neg hm.ne']
  obtain ⟨negative, m, q, hparts, hgrid⟩ := hgrid
  rw [toRat?, hparts, Binary.toRat?_ofGrid] at h
  exact ⟨negative, m, q, hparts, hgrid, (Option.some.inj h).symm⟩

/-! ### Nearest floats -/

/-- A finite float **nearest to a number** among all floats; if there is another one as near, then
the one with an even mantissa. -/
def IsNearest (v : ℚ) (x : Float) : Prop :=
  ∃ p, toRat? x = some p ∧ ∀ y r, toRat? y = some r →
    |v - p| ≤ |v - r| ∧ (|v - p| = |v - r| → r = p ∨ (Binary.ofFloat x).isEven = true)

/-- The finite float that a number with a sign is **rounded to**. Also a number that is rounded to
zero keeps its sign. -/
structure RoundsTo (negative : Bool) (magnitude : ℚ) (x : Float) : Prop where
  /-- The number is in range. -/
  inRange : magnitude < overflowBound
  /-- The float has the sign of the number. -/
  isNegative : (Binary.ofFloat x).isNegative = negative
  /-- The float is nearest to the number. -/
  isNearest : IsNearest (withSign negative magnitude) x

section Covers

variable {negative : Bool} {m : Nat} {q : Int} {v : ℚ} {x : Float}
  (hx : Binary.ofFloat x = .ofGrid negative m q) (h : Binary.OnGrid m q)
  (hv : (RoundingInterval.ofParts m q).Covers (q - 2) v)

include hx h hv

/-- **A float is nearest to what its rounding interval covers**, sign and all. -/
theorem isNearest_of_covers : IsNearest (withSign negative v) x := by
  have hpos : 0 ≤ v := le_trans (by positivity) hv.lower
  refine ⟨withSign negative (m * 2 ^ q), by rw [toRat?, hx, Binary.toRat?_ofGrid], ?_⟩
  intro y r hy
  obtain ⟨negative', n, t, hparts, hgrid, rfl⟩ := exists_ofFloat_eq_ofGrid hy
  obtain ⟨hle, htie⟩ := h.nearest hv hgrid
  rw [abs_withSign_sub_withSign, hx, Binary.isEven_ofGrid]
  by_cases hsign : negative = negative'
  · subst hsign
    rw [abs_withSign_sub_withSign]
    refine ⟨hle, fun heq => ?_⟩
    by_cases hvalue : (n : ℚ) * 2 ^ t = m * 2 ^ q
    · exact .inl (by rw [hvalue])
    · exact .inr (htie heq hvalue).1
  · -- a float on the other side of zero is not nearer than zero
    have hw : (0 : ℚ) ≤ n * 2 ^ t := by positivity
    have hzero := (h.nearest hv Binary.onGrid_zero).1
    rw [Nat.cast_zero, zero_mul, sub_zero, abs_of_nonneg hpos] at hzero
    rw [abs_withSign_sub_withSign_of_ne hsign hpos hw]
    refine ⟨by linarith, fun heq => ?_⟩
    have hn : (n : ℚ) * 2 ^ t = 0 := by linarith
    rw [hn, withSign_zero]
    by_cases hm : (m : ℚ) * 2 ^ q = 0
    · exact .inl (by rw [hm, withSign_zero])
    · have hfar := (h.nearest hv hgrid).2
      rw [hn, sub_zero, abs_of_nonneg hpos] at hfar
      exact .inr (hfar (by linarith) (Ne.symm hm)).1

/-- It is what a number in range is rounded to. -/
theorem roundsTo_of_covers (hrange : v < overflowBound) : RoundsTo negative v x where
  inRange := hrange
  isNegative := by rw [hx, Binary.isNegative_ofGrid]
  isNearest := isNearest_of_covers hx h hv

/-- **No other float is.** -/
theorem RoundsTo.eq_of_covers {y : Float} (hy : RoundsTo negative v y) : y = x := by
  obtain ⟨p, hp, hnearest⟩ := hy.isNearest
  obtain ⟨negative', n, t, hparts, hgrid, rfl⟩ := exists_ofFloat_eq_ofGrid hp
  obtain rfl : negative' = negative := by
    rw [← hy.isNegative, hparts, Binary.isNegative_ofGrid]
  obtain ⟨hle, hodd⟩ := h.nearest hv hgrid
  obtain ⟨hle', heven⟩ := hnearest x (withSign negative' (m * 2 ^ q))
    (by rw [toRat?, hx, Binary.toRat?_ofGrid])
  rw [abs_withSign_sub_withSign, abs_withSign_sub_withSign] at hle' heven
  have htie := le_antisymm hle hle'
  -- two floats as near as each other are neighbours, and not both of them are even
  have hvalue : (n : ℚ) * 2 ^ t = m * 2 ^ q := by
    by_contra hne
    rcases heven htie.symm with heq | heven
    · have hzero := abs_withSign_sub_withSign negative' ((m : ℚ) * 2 ^ q) (n * 2 ^ t)
      rw [heq, sub_self, abs_zero] at hzero
      exact hne (sub_eq_zero.mp (abs_eq_zero.mp hzero.symm)).symm
    · rw [hparts, Binary.isEven_ofGrid] at heven
      have hn := (hodd htie hne).2
      omega
  obtain ⟨rfl, rfl⟩ := hgrid.eq_of_eq h hvalue
  exact Binary.ofFloat_injective (hparts.trans hx.symm)

end Covers

end Number

end DataQuality
