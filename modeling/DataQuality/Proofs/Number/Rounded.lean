import DataQuality.Proofs.Number.Nearest

/-!
# Rounded products and quotients

A product or a quotient of floats is worked out exactly first, as a mantissa with an exponent and a
note on what is left behind the mantissa, and rounded then: bits are shifted out of the mantissa
until the exponent is the one that the grid of the floats has at this place, and what is left
decides the last step. This file shows that rounding ends on the point of the grid whose rounding
interval the exact number lies in (`DataQuality.Binary.RoundsInto`), provided that the mantissa is
long enough to begin with (`DataQuality.Binary.roundsInto_roundWithAccuracy`), as it is in quotients
always (`DataQuality.Binary.roundsInto_div`).

Shifting one bit out halves the number, and the note follows it: the bit shifted out says whether at
least one half is left, and a second one whether there is anything besides
(`DataQuality.Binary.locates_shiftRightOne`). Rounding up may fill the mantissa; then the number is
the next power of two, which has one bit and a greater exponent.
-/

namespace DataQuality.Binary

open Float.Model Float.Model.UnpackedFloat

/-! ### What is left behind a mantissa -/

/-- The place of a number **behind a mantissa**, to which it is next from above: at it, in the first
half of the gap, in the middle, or in the second half. -/
def Locates (m : Nat) (x : ℚ) : Accuracy → Prop
  | .exact => x = m
  | .inexact .lt => m < x ∧ x < m + 1 / 2
  | .inexact .eq => x = m + 1 / 2
  | .inexact .gt => m + 1 / 2 < x ∧ x < m + 1

theorem Locates.le_and_lt {m : Nat} {x : ℚ} {a : Accuracy} (h : Locates m x a) :
    (m : ℚ) ≤ x ∧ x < m + 1 := by
  rcases a with _ | _ | _ | _ <;> simp only [Locates] at h <;> constructor <;> linarith

/-- The same, told by the two bits that are kept. -/
def LocatesBits (em : ExtendedMantissa) (x : ℚ) : Prop := Locates em.mantissa x em.accuracy

theorem locatesBits_ofMantissaAndAccuracy {m : Nat} {x : ℚ} {a : Accuracy} (h : Locates m x a) :
    LocatesBits (.ofMantissaAndAccuracy m a) x := by
  rcases a with _ | _ | _ | _ <;> exact h

/-- **One bit less**: half the mantissa is in front of half the number. -/
theorem locates_shiftRightOne {em : ExtendedMantissa} {x : ℚ} (h : LocatesBits em x) :
    LocatesBits em.shiftRightOne (x / 2) := by
  obtain ⟨m, roundBit, stickyBit⟩ := em
  rcases Nat.even_or_odd' m with ⟨k, rfl | rfl⟩
  · have hdiv : 2 * k / 2 = k := by omega
    cases roundBit <;> cases stickyBit <;>
      simp [LocatesBits, ExtendedMantissa.accuracy, Locates, ExtendedMantissa.shiftRightOne,
        hdiv] at h ⊢ <;>
      first | linarith | (constructor <;> linarith)
  · have hdiv : (2 * k + 1) / 2 = k := by omega
    cases roundBit <;> cases stickyBit <;>
      simp [LocatesBits, ExtendedMantissa.accuracy, Locates, ExtendedMantissa.shiftRightOne,
        hdiv, Nat.add_mod] at h ⊢ <;>
      first | linarith | (constructor <;> linarith)

/-- **Several bits less.** -/
theorem locates_shiftRight {em : ExtendedMantissa} {x : ℚ} (h : LocatesBits em x) (k : Nat) :
    LocatesBits (em >>> k) (x / 2 ^ k) := by
  induction k with
  | zero =>
    rw [pow_zero, div_one]
    exact h
  | succ k ih =>
    rw [pow_succ, ← div_div]
    exact locates_shiftRightOne ih

/-- A natural number **nearest to a rational one**, the even one of two. -/
structure IsRounded (n : Nat) (x : ℚ) : Prop where
  /-- The number is at most one half below. -/
  lower : n ≤ x + 1 / 2
  /-- It is at most one half above. -/
  upper : x ≤ n + 1 / 2
  /-- It is nearer than that to an odd number. -/
  strict : n % 2 = 1 → n < x + 1 / 2 ∧ x < n + 1 / 2

/-- **The note is enough to round.** -/
theorem isRounded_roundToNearestEven {m : Nat} {x : ℚ} {a : Accuracy} (h : Locates m x a) :
    IsRounded (a.roundToNearestEven m) x ∧
      (a.roundToNearestEven m = m ∨ a.roundToNearestEven m = m + 1) := by
  rcases a with _ | _ | _ | _ <;> simp only [Locates] at h
  · refine ⟨⟨?_, ?_, fun _ => ⟨?_, ?_⟩⟩, .inl rfl⟩ <;> rw [Accuracy.roundToNearestEven] <;> linarith
  · refine ⟨⟨?_, ?_, fun _ => ⟨?_, ?_⟩⟩, .inl rfl⟩ <;> rw [Accuracy.roundToNearestEven] <;> linarith
  · -- halfway, rounding goes to the even one of the two
    rcases Nat.mod_two_eq_zero_or_one m with hm | hm
    · have hround : Accuracy.roundToNearestEven m (.inexact .eq) = m := by
        rw [Accuracy.roundToNearestEven, hm, Nat.add_zero]
      rw [hround]
      exact ⟨⟨by linarith, by linarith, fun hodd => absurd hm (by omega)⟩, .inl rfl⟩
    · have hround : Accuracy.roundToNearestEven m (.inexact .eq) = m + 1 := by
        rw [Accuracy.roundToNearestEven, hm]
      rw [hround]
      refine ⟨⟨?_, ?_, fun hodd => absurd hm (by omega)⟩, .inr rfl⟩ <;> push_cast <;> linarith
  · refine ⟨⟨?_, ?_, fun _ => ⟨?_, ?_⟩⟩, .inr rfl⟩ <;> rw [Accuracy.roundToNearestEven] <;>
      push_cast <;> linarith

/-! ### Rounding to the grid -/

/-- A point of the grid with a sign, as a result of arithmetic. -/
def point (s : UnpackedFloat.Sign) (m : Nat) (q : Int) : UnpackedFloat :=
  if h : m = 0 then .zero s else .finite s m q (Nat.pos_of_ne_zero h)

/-- A magnitude is **rounded into** the point of the grid whose rounding interval it lies in. -/
def RoundsInto (s : UnpackedFloat.Sign) (v : ℚ) (u : UnpackedFloat) : Prop :=
  ∃ m q, u = point s m q ∧ OnGrid m q ∧ (RoundingInterval.ofParts m q).Covers (q - 2) v

/-- A number of quarters of a unit. -/
theorem mul_zpow_sub_two (c : Nat) (q : Int) : (c : ℚ) * 2 ^ (q - 2) = c / 4 * 2 ^ q := by
  rw [zpow_sub₀ two_ne_zero]
  ring

/-- What is rounded to a mantissa lies in its rounding interval. The lower half of the interval is
shorter at a power of two, which only numbers behind it must be rounded to. -/
theorem IsRounded.covers {n : Nat} {q : Int} {y : ℚ} (h : IsRounded n y) (hpos : 0 ≤ y)
    (hpower : n = 2 ^ 52 → -1074 < q → (2 : ℚ) ^ 52 ≤ y) :
    (RoundingInterval.ofParts n q).Covers (q - 2) (y * 2 ^ q) := by
  have hunit : (0 : ℚ) < 2 ^ q := by positivity
  have hlow : (RoundingInterval.ofParts n q).low =
      4 * n - (if n = 2 ^ 52 ∧ -1074 < q then 1 else 2) := rfl
  have hhigh : (RoundingInterval.ofParts n q).high = 4 * n + 2 := rfl
  have hupper : ((4 * n + 2 : Nat) : ℚ) / 4 = n + 1 / 2 := by
    push_cast
    ring
  have hlower : ((RoundingInterval.ofParts n q).low : ℚ) / 4 ≤ y ∧
      (n % 2 = 1 → ((RoundingInterval.ofParts n q).low : ℚ) / 4 < y) := by
    rw [hlow]
    split
    · next hn =>
      obtain ⟨rfl, hq⟩ := hn
      have hy := hpower rfl hq
      constructor
      · norm_num at hy ⊢
        linarith
      · intro hodd
        omega
    · rcases Nat.eq_zero_or_pos n with rfl | hn
      · exact ⟨by simpa using hpos, fun hodd => absurd hodd (by decide)⟩
      · have hcast : ((4 * n - 2 : Nat) : ℚ) / 4 = n - 1 / 2 := by
          rw [Nat.cast_sub (by omega)]
          push_cast
          ring
        rw [hcast]
        have hlower := h.lower
        exact ⟨by linarith, fun hodd => by linarith [(h.strict hodd).1]⟩
  refine ⟨?_, ?_, fun hopen => ?_⟩
  · rw [mul_zpow_sub_two]
    exact mul_le_mul_of_nonneg_right hlower.1 hunit.le
  · rw [mul_zpow_sub_two, hhigh, hupper]
    exact mul_le_mul_of_nonneg_right h.upper hunit.le
  · have hodd : n % 2 = 1 := by
      have hclosed : decide (n % 2 = 0) = false := hopen
      have hne := of_decide_eq_false hclosed
      omega
    rw [mul_zpow_sub_two, mul_zpow_sub_two, hhigh, hupper]
    exact ⟨mul_lt_mul_of_pos_right (hlower.2 hodd) hunit,
      mul_lt_mul_of_pos_right (h.strict hodd).2 hunit⟩

/-- The same for a mantissa that is filled by rounding up. -/
theorem IsRounded.covers_of_full {q : Int} {y : ℚ} (h : IsRounded (2 ^ 53) y) (hlt : y < 2 ^ 53)
    (hq : -1074 ≤ q) :
    (RoundingInterval.ofParts (2 ^ 52) (q + 1)).Covers (q + 1 - 2) (y * 2 ^ q) := by
  have hunit : (0 : ℚ) < 2 ^ q := by positivity
  have hlow : (RoundingInterval.ofParts (2 ^ 52) (q + 1)).low = 2 ^ 54 - 1 := by
    have hq' : -1074 < q + 1 := by omega
    rw [RoundingInterval.ofParts]
    simp [hq']
  have hhigh : (RoundingInterval.ofParts (2 ^ 52) (q + 1)).high = 2 ^ 54 + 2 := rfl
  have hends : ∀ c : Nat, (c : ℚ) * 2 ^ (q + 1 - 2) = c / 2 * 2 ^ q := by
    intro c
    rw [mul_zpow_sub_two, zpow_add_one₀ two_ne_zero]
    ring
  have hlower := h.lower
  norm_num at hlower
  refine ⟨?_, ?_, fun hopen => absurd hopen (by simp [RoundingInterval.ofParts])⟩
  · rw [hends, hlow]
    refine mul_le_mul_of_nonneg_right ?_ hunit.le
    norm_num
    linarith
  · rw [hends, hhigh]
    refine mul_le_mul_of_nonneg_right ?_ hunit.le
    norm_num
    linarith

/-- A mantissa on the grid is not shifted again, and a full one by one bit. -/
theorem shiftToTargetExponent_of_lt {n : Nat} {q : Int} (hn : n < 2 ^ 53) (hq : -1074 ≤ q) :
    shiftToTargetExponent .binary64 n q .exact = (.ofMantissaAndAccuracy n .exact, q) := by
  have hlog : n.log2 ≤ 52 := by
    rcases Nat.eq_zero_or_pos n with rfl | hpos
    · decide
    · exact Nat.le_of_lt_succ ((Nat.log2_lt hpos.ne').mpr hn)
  have htarget : Format.binary64.targetExponent (totalExponent n q) ≤ q := by
    change max ((n.log2 : Int) + 1 + q - 53) (-1074) ≤ q
    omega
  have hshift : (Format.binary64.targetExponent (totalExponent n q) - q).toNat = 0 := by omega
  rw [shiftToTargetExponent, shiftToExponent, hshift, Nat.cast_zero, add_zero]
  rfl

theorem shiftToTargetExponent_of_full {q : Int} (hq : -1074 ≤ q) :
    shiftToTargetExponent .binary64 (2 ^ 53) q .exact =
      (.ofMantissaAndAccuracy (2 ^ 52) .exact, q + 1) := by
  have htarget : Format.binary64.targetExponent (totalExponent (2 ^ 53) q) = q + 1 := by
    have hlog : (2 ^ 53).log2 = 53 := Nat.log2_two_pow
    rw [totalExponent, hlog]
    change max (((53 : Nat) : Int) + 1 + q - 53) (-1074) = q + 1
    omega
  have hshift : (q + 1 - q).toNat = 1 := by omega
  rw [shiftToTargetExponent, htarget, shiftToExponent, hshift]
  rfl

/-- The exponent that rounding aims at leaves a number with **as many bits as the grid has**. -/
theorem Locates.bits {m k : Nat} {e : Int} {a : Accuracy} {x : ℚ} (hx : Locates m x a)
    (hk : Format.binary64.targetExponent (totalExponent m e) = e + k) :
    x / 2 ^ k < 2 ^ 53 ∧ (-1074 < e + k → (2 : ℚ) ^ 52 ≤ x / 2 ^ k) := by
  have htarget : max ((m.log2 : Int) + 1 + e - 53) (-1074) = e + k := hk
  obtain ⟨hle, hlt⟩ := hx.le_and_lt
  constructor
  · have hm : m + 1 ≤ 2 ^ (m.log2 + 1) := Nat.lt_log2_self
    have hm' : 2 ^ (m.log2 + 1) ≤ 2 ^ (53 + k) := Nat.pow_le_pow_right (by decide) (by omega)
    have hcast : (m : ℚ) + 1 ≤ 2 ^ (53 + k) := by exact_mod_cast hm.trans hm'
    rw [div_lt_iff₀ (by positivity), ← pow_add]
    linarith
  · intro hq
    have hm : m ≠ 0 := by
      rintro rfl
      have hlog : Nat.log2 0 = 0 := rfl
      rw [hlog] at htarget
      omega
    have hexponent : m.log2 = 52 + k := by omega
    have hcast : (2 : ℚ) ^ (52 + k) ≤ m := by
      rw [← hexponent]
      exact_mod_cast Nat.log2_self_le hm
    rw [le_div_iff₀ (by positivity), ← pow_add]
    linarith

/-- **Rounding ends on the right point**: a number behind a mantissa is rounded into the point whose
interval it lies in, if the exponent is not above the one that the grid has there. -/
theorem roundsInto_roundWithAccuracy {s : UnpackedFloat.Sign} {m : Nat} {e : Int} {a : Accuracy}
    {x : ℚ} (hx : Locates m x a)
    (he : e ≤ Format.binary64.targetExponent (totalExponent m e)) :
    RoundsInto s (x * 2 ^ e) (roundWithAccuracy .binary64 s m e a) := by
  obtain ⟨k, hk⟩ : ∃ k : Nat, Format.binary64.targetExponent (totalExponent m e) = e + k :=
    ⟨(Format.binary64.targetExponent (totalExponent m e) - e).toNat, by omega⟩
  have hbottom : -1074 ≤ e + k := hk ▸ le_max_right _ _
  -- the number and its mantissa in units of the grid
  have hvalue : x * 2 ^ e = x / 2 ^ k * 2 ^ (e + k) := by
    rw [zpow_add₀ two_ne_zero, zpow_natCast]
    field_simp
  obtain ⟨em, hem⟩ : ∃ em, em = ExtendedMantissa.ofMantissaAndAccuracy m a >>> k := ⟨_, rfl⟩
  have hfirst : shiftToTargetExponent .binary64 m e a = (em, e + k) := by
    have hshift : (e + k - e).toNat = k := by omega
    rw [shiftToTargetExponent, hk, shiftToExponent, hshift, hem]
  have hplace : LocatesBits em (x / 2 ^ k) :=
    hem ▸ locates_shiftRight (locatesBits_ofMantissaAndAccuracy hx) k
  obtain ⟨hle, hlt⟩ := hplace.le_and_lt
  obtain ⟨hround, hnext⟩ := isRounded_roundToNearestEven hplace
  obtain ⟨hupper, hfull⟩ := hx.bits hk
  have hupper' : em.mantissa < 2 ^ 53 := by exact_mod_cast lt_of_le_of_lt hle hupper
  have hfull' : -1074 < e + k → 2 ^ 52 ≤ em.mantissa := by
    intro hq
    have hnat : 2 ^ 52 < em.mantissa + 1 := by exact_mod_cast lt_of_le_of_lt (hfull hq) hlt
    omega
  obtain ⟨n, hn⟩ : ∃ n, n = em.roundedMantissa := ⟨_, rfl⟩
  change IsRounded em.roundedMantissa _ at hround
  change em.roundedMantissa = _ ∨ em.roundedMantissa = _ at hnext
  rw [← hn] at hround hnext
  rw [roundWithAccuracy, hfirst, hvalue]
  dsimp only
  rw [← hn]
  rcases Nat.lt_or_ge n (2 ^ 53) with hlt | hge
  · have hpos : 0 ≤ x / 2 ^ k := le_trans (Nat.cast_nonneg _) hle
    refine ⟨n, e + k, ?_, ⟨hlt, hbottom, fun hq => ?_⟩, hround.covers hpos fun _ => hfull⟩
    · simp only [shiftToTargetExponent_of_lt hlt hbottom]
      rfl
    · have hmantissa := hfull' hq
      omega
  · -- rounding up has filled the mantissa
    obtain rfl : n = 2 ^ 53 := by omega
    refine ⟨2 ^ 52, e + k + 1, ?_, ⟨by decide, by omega, fun _ => le_refl _⟩,
      hround.covers_of_full hupper hbottom⟩
    simp only [shiftToTargetExponent_of_full hbottom]
    rfl

/-! ### Products and quotients -/

/-- **A product of long mantissas is rounded correctly.** Short ones are lengthened first. -/
theorem roundsInto_mul (s t : UnpackedFloat.Sign) {a b : Nat} (q r : Int) (ha : 0 < a) (hb : 0 < b)
    (hlong : 2 ^ 52 ≤ a * b) :
    RoundsInto (s * t) ((a * 2 ^ q) * (b * 2 ^ r))
      (UnpackedFloat.mul .binary64 (.finite s a q ha) (.finite t b r hb)) := by
  have hlog : 52 ≤ (a * b).log2 := (Nat.le_log2 (Nat.mul_pos ha hb).ne').mpr hlong
  have hvalue : ((a : ℚ) * 2 ^ q) * (b * 2 ^ r) = ((a * b : Nat) : ℚ) * 2 ^ (q + r) := by
    rw [zpow_add₀ two_ne_zero]
    push_cast
    ring
  have htarget : q + r ≤ Format.binary64.targetExponent (totalExponent (a * b) (q + r)) := by
    change q + r ≤ max (((a * b).log2 : Int) + 1 + (q + r) - 53) (-1074)
    omega
  rw [hvalue]
  exact roundsInto_roundWithAccuracy rfl htarget

/-- A quotient lies behind its whole part as its remainder says. -/
theorem locates_accuracyOfFraction (n : Nat) {d : Nat} (hd : 0 < d) :
    Locates (n / d) ((n : ℚ) / d) (accuracyOfFraction (n % d) d) := by
  have hd' : (0 : ℚ) < d := Nat.cast_pos.mpr hd
  have hvalue : (n : ℚ) / d = (n / d : Nat) + ((n % d : Nat) : ℚ) / d := by
    rw [div_eq_iff hd'.ne', add_mul, div_mul_cancel₀ _ hd'.ne']
    exact_mod_cast (Nat.div_add_mod' n d).symm
  have hlt : ((n % d : Nat) : ℚ) / d < 1 := by
    rw [div_lt_one hd']
    exact_mod_cast Nat.mod_lt n hd
  rw [hvalue, accuracyOfFraction]
  split
  · next hzero => rw [hzero, Nat.cast_zero, zero_div, add_zero, Locates]
  · next hne =>
    have hrest : 0 < n % d := Nat.pos_of_ne_zero hne
    have hpos : 0 < ((n % d : Nat) : ℚ) / d := by positivity
    rcases Nat.lt_trichotomy (2 * (n % d)) d with h | h | h
    · have hcast : 2 * ((n % d : Nat) : ℚ) < d := by exact_mod_cast h
      have hhalf : ((n % d : Nat) : ℚ) / d < 1 / 2 := by
        rw [div_lt_iff₀ hd']
        linarith
      rw [compare_lt_iff_lt.mpr h]
      constructor <;> linarith
    · have hcast : 2 * ((n % d : Nat) : ℚ) = d := by exact_mod_cast h
      have hhalf : ((n % d : Nat) : ℚ) / d = 1 / 2 := by
        rw [div_eq_iff hd'.ne']
        linarith
      rw [compare_eq_iff_eq.mpr h, Locates, hhalf]
    · have hcast : (d : ℚ) < 2 * ((n % d : Nat) : ℚ) := by exact_mod_cast h
      have hhalf : 1 / 2 < ((n % d : Nat) : ℚ) / d := by
        rw [lt_div_iff₀ hd']
        linarith
      rw [compare_gt_iff_gt.mpr h]
      constructor <;> linarith

/-- A quotient has **at least fifty-three bits** when the dividend is lengthened by as many bits as
the divisor is longer, and by fifty-three more. -/
theorem le_div_of_log2 {a b k : Nat} (ha : 0 < a) (hb : 0 < b)
    (hk : (53 : Int) + b.log2 ≤ a.log2 + k) : 2 ^ 52 ≤ a * 2 ^ k / b := by
  have hlong : 2 ^ (53 + b.log2) ≤ a * 2 ^ k := by
    calc 2 ^ (53 + b.log2) ≤ 2 ^ (a.log2 + k) := Nat.pow_le_pow_right (by decide) (by omega)
      _ = 2 ^ a.log2 * 2 ^ k := Nat.pow_add 2 _ _
      _ ≤ a * 2 ^ k := Nat.mul_le_mul_right _ (Nat.log2_self_le ha.ne')
  rw [Nat.le_div_iff_mul_le hb]
  calc 2 ^ 52 * b ≤ 2 ^ 52 * 2 ^ (b.log2 + 1) := Nat.mul_le_mul_left _ Nat.lt_log2_self.le
    _ = 2 ^ (53 + b.log2) := by rw [← Nat.pow_add, ← Nat.add_assoc, Nat.add_right_comm]
    _ ≤ a * 2 ^ k := hlong

/-- **A quotient is rounded correctly.** -/
theorem roundsInto_div (s t : UnpackedFloat.Sign) {a b : Nat} (q r : Int) (ha : 0 < a)
    (hb : 0 < b) :
    RoundsInto (s / t) ((a * 2 ^ q) / (b * 2 ^ r))
      (UnpackedFloat.div .binary64 (.finite s a q ha) (.finite t b r hb)) := by
  obtain ⟨e, he⟩ : ∃ e, e = min (q - r)
    (Format.binary64.targetExponent (totalExponent a q - totalExponent b r)) := ⟨_, rfl⟩
  have htarget : e = min (q - r)
      (max (((a.log2 : Int) + 1 + q) - ((b.log2 : Int) + 1 + r) - 53) (-1074)) := he
  obtain ⟨k, hk⟩ : ∃ k : Nat, q - r = e + k := ⟨(q - r - e).toNat, by omega⟩
  have hcore : divCore .binary64 a q b r =
      (a * 2 ^ k / b, e, accuracyOfFraction (a * 2 ^ k % b) b) := by
    have hshift : (q - r - e).toNat = k := by omega
    rw [divCore, ← he, hshift, Nat.shiftLeft_eq]
  have hvalue : (a * 2 ^ q) / (b * 2 ^ r) = ((a * 2 ^ k : Nat) : ℚ) / b * 2 ^ e := by
    have hpow : (2 : ℚ) ^ q = 2 ^ k * 2 ^ e * 2 ^ r := by
      rw [← zpow_natCast, ← zpow_add₀ two_ne_zero, ← zpow_add₀ two_ne_zero]
      congr 1
      omega
    rw [hpow]
    push_cast
    field_simp
  have hexponent : e ≤ Format.binary64.targetExponent (totalExponent (a * 2 ^ k / b) e) := by
    change e ≤ max (((a * 2 ^ k / b).log2 : Int) + 1 + e - 53) (-1074)
    rcases le_or_gt e (-1074) with hle | hgt
    · omega
    · have hlong := le_div_of_log2 (k := k) ha hb (by omega)
      have hlog : 52 ≤ (a * 2 ^ k / b).log2 := (Nat.le_log2 (by omega)).mpr hlong
      omega
  rw [UnpackedFloat.div, hcore, hvalue]
  exact roundsInto_roundWithAccuracy (locates_accuracyOfFraction _ hb) hexponent

end DataQuality.Binary
