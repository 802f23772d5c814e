import DataQuality.Number.Shortest
import DataQuality.Proofs.Number.Binary
import Mathlib.Algebra.Order.Field.Power
import Mathlib.Algebra.Order.Ring.Rat
import Mathlib.Tactic.Linarith
import Mathlib.Tactic.Positivity
import Mathlib.Tactic.Ring

/-!
# The shortest decimal tells its float

Every number that the search for a shortest decimal can come up with lies in the rounding interval
of the float (`DataQuality.covers_shortest`), and the rounding intervals of two floats have no
number in common (`DataQuality.RoundingInterval.lt_of_covers`). So a float can be told from its
shortest decimal (`DataQuality.shortest_injective`), whichever way ties go and however long the
search was allowed to take.

The intervals are intervals of rational numbers here. Two neighbouring ones touch, and then the end
that they share belongs to one of them at most: of two neighbouring mantissas one is odd, also
where the exponent changes, since the greatest mantissa is odd and the one that follows it is not.
-/

namespace DataQuality

/-! ### Values -/

/-- An integer power as the quotient of its numerator and its denominator. -/
theorem zpow_eq_powNum_div_powDen {base : Nat} (hbase : base ≠ 0) (q : Int) :
    (base : ℚ) ^ q = powNum base q / powDen base q := by
  have hne : (base : ℚ) ≠ 0 := Nat.cast_ne_zero.mpr hbase
  have hsplit : q = (q.toNat : Int) - ((-q).toNat : Int) := by omega
  conv_lhs => rw [hsplit]
  rw [zpow_sub₀ hne, zpow_natCast, zpow_natCast, powNum, powDen, Nat.pow_eq, Nat.pow_eq,
    Nat.cast_pow, Nat.cast_pow]

theorem powDen_pos {base : Nat} (hbase : 0 < base) (q : Int) : 0 < powDen base q :=
  Nat.pow_pos hbase

/-- Multiples of powers with different bases are compared on natural numbers crosswise. -/
theorem mul_powNum_le_mul_powNum_iff {b b' : Nat} (hb : 0 < b) (hb' : 0 < b') (q q' : Int)
    (x y : Nat) :
    x * (powNum b q * powDen b' q') ≤ y * (powNum b' q' * powDen b q) ↔
      (x : ℚ) * b ^ q ≤ y * b' ^ q' := by
  have hden : (0 : ℚ) < powDen b q := Nat.cast_pos.mpr (powDen_pos hb q)
  have hden' : (0 : ℚ) < powDen b' q' := Nat.cast_pos.mpr (powDen_pos hb' q')
  rw [zpow_eq_powNum_div_powDen hb.ne', zpow_eq_powNum_div_powDen hb'.ne', mul_div_assoc',
    mul_div_assoc', div_le_div_iff₀ hden hden', mul_assoc, mul_assoc]
  exact_mod_cast Iff.rfl

/-- The **value of a decimal**. -/
def Decimal.toRat (d : Decimal) : ℚ := d.significand * (10 : ℚ) ^ d.exponent

theorem Decimal.toRat_exact (m : Nat) (q : Int) : (exact m q).toRat = m * (2 : ℚ) ^ q := by
  unfold exact
  split
  · next hq =>
    obtain ⟨n, rfl⟩ := Int.eq_ofNat_of_zero_le hq
    simp [toRat]
  · next hq =>
    obtain ⟨n, hn⟩ : ∃ n : Nat, q = -n := ⟨q.natAbs, by omega⟩
    have hfive : (5 : ℚ) ^ n ≠ 0 := by positivity
    have hten : (10 : ℚ) ^ n = 2 ^ n * 5 ^ n := by rw [← mul_pow]; norm_num
    subst hn
    simp only [toRat, neg_neg, Int.toNat_natCast, Nat.pow_eq, Nat.cast_mul, Nat.cast_pow,
      Nat.cast_ofNat, zpow_neg, zpow_natCast, hten, mul_inv]
    rw [mul_comm ((2 : ℚ) ^ n)⁻¹, mul_assoc, mul_inv_cancel_left₀ hfive]

/-! ### Rounding intervals -/

namespace RoundingInterval

/-- A rational number **in a rounding interval** whose unit is `2 ^ u`. -/
structure Covers (i : RoundingInterval) (u : Int) (x : ℚ) : Prop where
  /-- The number is not below the interval. -/
  lower : i.low * (2 : ℚ) ^ u ≤ x
  /-- The number is not above the interval. -/
  upper : x ≤ i.high * (2 : ℚ) ^ u
  /-- The number is an end of the interval only if the ends belong to it. -/
  strict : i.closed = false → i.low * (2 : ℚ) ^ u < x ∧ x < i.high * (2 : ℚ) ^ u

/-- The test on natural numbers is membership of the rational number. -/
theorem holds_iff (i : RoundingInterval) (u : Int) (c : Nat) (j : Int) :
    i.holds u c j = true ↔ i.Covers u (c * (10 : ℚ) ^ j) := by
  have hle : ∀ a : Nat, a * (powNum 2 u * powDen 10 j) ≤ c * (powNum 10 j * powDen 2 u) ↔
      (a : ℚ) * 2 ^ u ≤ c * 10 ^ j := fun a => by
    exact_mod_cast mul_powNum_le_mul_powNum_iff (by decide) (by decide) u j a c
  have hge : ∀ b : Nat, c * (powNum 10 j * powDen 2 u) ≤ b * (powNum 2 u * powDen 10 j) ↔
      (c : ℚ) * 10 ^ j ≤ b * 2 ^ u := fun b => by
    exact_mod_cast mul_powNum_le_mul_powNum_iff (by decide) (by decide) j u c b
  simp only [holds, below]
  cases hclosed : i.closed with
  | true =>
    simp only [if_true, Bool.and_eq_true, decide_eq_true_eq, hle, hge]
    exact ⟨fun h => ⟨h.1, h.2, fun hc => absurd hclosed (by simp [hc])⟩,
      fun h => ⟨h.lower, h.upper⟩⟩
  | false =>
    simp only [Bool.false_eq_true, if_false, Bool.and_eq_true, decide_eq_true_eq, ← not_le, hle,
      hge]
    exact ⟨fun h => ⟨(not_le.mp h.1).le, (not_le.mp h.2).le,
        fun _ => ⟨not_le.mp h.1, not_le.mp h.2⟩⟩,
      fun h => ⟨not_le.mpr (h.strict hclosed).1, not_le.mpr (h.strict hclosed).2⟩⟩

/-- A quotient is rounded to one of its two neighbours. -/
theorem roundDiv_eq_or (tie : Tie) (num den : Nat) :
    roundDiv tie num den = num / den ∨ roundDiv tie num den = num / den + 1 := by
  unfold roundDiv
  dsimp only
  split
  · exact .inl rfl
  · exact .inr rfl
  · unfold Tie.choose
    split
    · exact .inr rfl
    · split
      · exact .inl rfl
      · exact .inr rfl

/-- A hit on a grid lies in the interval. -/
theorem holds_of_hit? {i : RoundingInterval} {tie : Tie} {u j : Int} {c : Nat}
    (h : i.hit? tie u j = some c) : i.holds u c j = true := by
  unfold hit? at h
  dsimp only at h
  split at h
  · exact absurd h (by simp)
  · next hlow _ =>
    obtain rfl := Option.some.inj h
    exact hlow
  · next _ hhigh =>
    obtain rfl := Option.some.inj h
    exact hhigh
  · next hlow hhigh =>
    -- both neighbours of the value were hits, and rounding takes one of them
    obtain rfl := Option.some.inj h
    rcases roundDiv_eq_or tie (i.value * (powNum 2 u * powDen 10 j))
      (powNum 10 j * powDen 2 u) with hc | hc
    · rw [hc]
      exact hlow
    · rw [hc]
      exact hhigh

/-- What the search finds lies in the interval, whichever grid it is on. -/
theorem covers_of_search? {i : RoundingInterval} {tie : Tie} {u : Int} {fuel : Nat} {j : Int}
    {d : Decimal} (h : i.search? tie u fuel j = some d) : i.Covers u d.toRat := by
  induction fuel generalizing j with
  | zero => exact absurd h (by simp [search?])
  | succ fuel ih =>
    rw [search?] at h
    split at h
    · next c hhit =>
      obtain rfl := Option.some.inj h
      exact (i.holds_iff u c j).mp (holds_of_hit? hhit)
    · exact ih h

/-- A float lies in its own rounding interval. -/
theorem covers_value {m : Nat} (hm : 0 < m) (q : Int) :
    (ofParts m q).Covers (q - 2) (m * (2 : ℚ) ^ q) := by
  have hunit : (0 : ℚ) < 2 ^ (q - 2) := by positivity
  have hscale : (m : ℚ) * 2 ^ q = ((4 * m : Nat) : ℚ) * 2 ^ (q - 2) := by
    rw [show q = (q - 2) + 2 by omega, zpow_add₀ (by norm_num)]
    push_cast
    norm_num
    ring
  have hlow : (ofParts m q).low < 4 * m := by
    unfold ofParts
    dsimp only
    split <;> omega
  have hhigh : 4 * m < (ofParts m q).high := by
    unfold ofParts
    dsimp only
    omega
  have hbelow : ((ofParts m q).low : ℚ) * 2 ^ (q - 2) < m * 2 ^ q := by
    rw [hscale]
    exact mul_lt_mul_of_pos_right (Nat.cast_lt.mpr hlow) hunit
  have habove : (m : ℚ) * 2 ^ q < (ofParts m q).high * 2 ^ (q - 2) := by
    rw [hscale]
    exact mul_lt_mul_of_pos_right (Nat.cast_lt.mpr hhigh) hunit
  exact ⟨hbelow.le, habove.le, fun _ => ⟨hbelow, habove⟩⟩

end RoundingInterval

/-- **The shortest decimal lies in the rounding interval of its float.** -/
theorem covers_shortest (tie : Tie) {m : Nat} (hm : 0 < m) (q : Int) :
    (RoundingInterval.ofParts m q).Covers (q - 2) (shortest tie m q).toRat := by
  unfold shortest
  cases hsearch : (RoundingInterval.ofParts m q).search? tie (q - 2) 24 (coarseGrid m q) with
  | some d => exact RoundingInterval.covers_of_search? hsearch
  | none =>
    rw [Option.getD_none, Decimal.toRat_exact]
    exact RoundingInterval.covers_value hm q

/-- Nothing in a rounding interval is zero or less. -/
theorem RoundingInterval.pos_of_covers {m : Nat} (hm : 0 < m) {q : Int} {x : ℚ}
    (h : (ofParts m q).Covers (q - 2) x) : 0 < x := by
  have hlow : 0 < (ofParts m q).low := by
    unfold ofParts
    dsimp only
    split <;> omega
  have hunit : (0 : ℚ) < 2 ^ (q - 2) := by positivity
  exact lt_of_lt_of_le (mul_pos (Nat.cast_pos.mpr hlow) hunit) h.lower

/-! ### Intervals of different floats -/

namespace RoundingInterval

open Binary

/-- The lower end of an interval in the unit of one below it. -/
theorem exists_low_eq {q q' : Int} (h : q ≤ q') (low : Nat) :
    ∃ k : Nat, (k = 0 ↔ q = q') ∧
      (low : ℚ) * 2 ^ (q' - 2) = ((low * 2 ^ k : Nat) : ℚ) * 2 ^ (q - 2) := by
  obtain ⟨k, rfl⟩ := Int.le.dest h
  refine ⟨k, by omega, ?_⟩
  rw [show q + k - 2 = (k : Int) + (q - 2) by omega, zpow_add₀ (by norm_num), zpow_natCast,
    ← mul_assoc]
  push_cast
  rfl

/-- **Where two intervals meet**: the upper end of the one is not above the lower end of the other,
and where the two ends are the same one of the mantissas is odd. -/
theorem high_le_low {m m' : Nat} {q q' : Int} (h : IsCanonical m q) (h' : IsCanonical m' q')
    (hlt : q < q' ∨ (q = q' ∧ m < m')) :
    ((ofParts m q).high : ℚ) * 2 ^ (q - 2) ≤ (ofParts m' q').low * 2 ^ (q' - 2) ∧
      (((ofParts m q).high : ℚ) * 2 ^ (q - 2) = (ofParts m' q').low * 2 ^ (q' - 2) →
        m % 2 = 1 ∨ m' % 2 = 1) := by
  have hunit : (0 : ℚ) < 2 ^ (q - 2) := by positivity
  obtain ⟨k, hk, hlow⟩ := exists_low_eq (show q ≤ q' by omega) (ofParts m' q').low
  rw [hlow, mul_le_mul_iff_left₀ hunit, mul_left_inj' hunit.ne', Nat.cast_le, Nat.cast_inj]
  have hm := h.lt
  rcases hlt with hq | ⟨rfl, hm'⟩
  · -- the second mantissa has all its bits, and its unit is at least twice as large
    have hbottom := h.bottom
    have hfull := h'.full (by omega)
    obtain ⟨l, rfl⟩ : ∃ l, k = l + 1 := ⟨k - 1, by omega⟩
    have hlow' : 2 ^ 54 - 1 ≤ (ofParts m' q').low := by
      unfold ofParts
      dsimp only
      rw [Nat.pow_eq]
      split <;> omega
    have hhigh : (ofParts m q).high = 4 * m + 2 := rfl
    have hpow : (ofParts m' q').low * 1 ≤ (ofParts m' q').low * 2 ^ l :=
      Nat.mul_le_mul_left _ Nat.one_le_two_pow
    rw [Nat.pow_succ, ← Nat.mul_assoc, hhigh]
    omega
  · -- with one unit, the ends are two quarters from mantissas that are at least four apart
    obtain rfl : k = 0 := hk.mpr rfl
    unfold ofParts
    dsimp only
    split <;> omega

/-- **Intervals of different floats have nothing in common**, and they lie in the order of the
floats. -/
theorem lt_of_covers {m m' : Nat} {q q' : Int} (h : IsCanonical m q) (h' : IsCanonical m' q')
    (hlt : q < q' ∨ (q = q' ∧ m < m')) {x x' : ℚ} (hx : (ofParts m q).Covers (q - 2) x)
    (hx' : (ofParts m' q').Covers (q' - 2) x') : x < x' := by
  obtain ⟨hle, hodd⟩ := high_le_low h h' hlt
  have hchain : x ≤ x' := hx.upper.trans (hle.trans hx'.lower)
  refine lt_of_le_of_ne hchain fun heq => ?_
  have hends := le_antisymm hle (hx'.lower.trans (heq ▸ hx.upper))
  rcases hodd hends with hm | hm'
  · have hopen : (ofParts m q).closed = false := by simp [ofParts, hm]
    exact absurd (hle.trans hx'.lower) (not_le.mpr (heq ▸ (hx.strict hopen).2))
  · have hopen : (ofParts m' q').closed = false := by simp [ofParts, hm']
    exact absurd (hx.upper.trans hle) (not_le.mpr (heq ▸ (hx'.strict hopen).1))

end RoundingInterval

/-- **A float can be told from its shortest decimal**, whichever way ties go. -/
theorem shortest_injective {m m' : Nat} {q q' : Int} {tie : Tie} (h : Binary.IsCanonical m q)
    (h' : Binary.IsCanonical m' q')
    (heq : (shortest tie m q).toRat = (shortest tie m' q').toRat) : m = m' ∧ q = q' := by
  have hx := covers_shortest tie h.pos q
  have hx' := covers_shortest tie h'.pos q'
  rcases Int.lt_trichotomy q q' with hq | hq | hq
  · exact absurd heq (RoundingInterval.lt_of_covers h h' (.inl hq) hx hx').ne
  · rcases Nat.lt_trichotomy m m' with hm | hm | hm
    · exact absurd heq (RoundingInterval.lt_of_covers h h' (.inr ⟨hq, hm⟩) hx hx').ne
    · exact ⟨hm, hq⟩
    · exact absurd heq (RoundingInterval.lt_of_covers h' h (.inr ⟨hq.symm, hm⟩) hx' hx).ne'
  · exact absurd heq (RoundingInterval.lt_of_covers h' h (.inl hq) hx' hx).ne'

end DataQuality
