import DataQuality.Proofs.Number.Value

/-!
# Sums that need no rounding

The sum of two floats is the float nearest to the sum of their values. When that is the value of a
float already, nothing is rounded (`DataQuality.Number.add_eq_of_toRat?`). Two cases are needed:

* adding a zero changes no number and takes the sign off a zero, so that two sums with zero are one
  float exactly when the numbers have one value (`DataQuality.Number.add_zero_eq_iff`);
* whole numbers up to `2 ^ 53` are floats, and are added without rounding
  (`DataQuality.Number.ofNat_add_ofNat`). From there on not every whole number is a float.

A number has many forms `m · 2 ^ q`, and one canonical form. Rounding first brings the exponent to
the canonical one. For a representable number this writes zeros behind the mantissa or takes zeros
off it, and leaves nothing to round (`DataQuality.Binary.IsCanonical.round_eq`).
-/

namespace DataQuality

open Float.Model Float.Model.UnpackedFloat

/-! ### Rounding what needs no rounding -/

theorem log2_mul_two_pow {m : Nat} (hm : 0 < m) (k : Nat) : (m * 2 ^ k).log2 = m.log2 + k := by
  have hpos : m * 2 ^ k ≠ 0 := (Nat.mul_pos hm (Nat.two_pow_pos k)).ne'
  obtain ⟨hle, hlt⟩ := (Nat.log2_eq_iff hm.ne').mp rfl
  rw [Nat.log2_eq_iff hpos, Nat.pow_add, Nat.add_right_comm, Nat.pow_add _ _ k]
  exact ⟨Nat.mul_le_mul_right _ hle, Nat.mul_lt_mul_of_pos_right hlt (Nat.two_pow_pos k)⟩

namespace Binary

/-- The exponent that rounding aims at does not change when zeros are written behind a mantissa. -/
theorem totalExponent_mul_two_pow {m : Nat} (hm : 0 < m) (k : Nat) (q : Int) :
    totalExponent (m * 2 ^ k) (q - k) = totalExponent m q := by
  rw [totalExponent, totalExponent, log2_mul_two_pow hm]
  push_cast
  omega

/-- In canonical form, a number has the exponent that rounding aims at. -/
theorem IsCanonical.targetExponent_eq {m : Nat} {q : Int} (h : IsCanonical m q) :
    Format.binary64.targetExponent (totalExponent m q) = q := by
  have hlt : m.log2 < 53 := (Nat.log2_lt h.pos.ne').mpr h.lt
  have hbottom := h.bottom
  have hfull : -1074 < q → 52 ≤ m.log2 := fun hq => (Nat.le_log2 h.pos.ne').mpr (h.full hq)
  change max ((m.log2 : Int) + 1 + q - 53) (-1074) = q
  omega

/-- Zeros behind a mantissa are shifted out without a trace. -/
theorem shiftRight_mul_two_pow (m k : Nat) :
    ExtendedMantissa.ofMantissaAndAccuracy (m * 2 ^ k) .exact >>> k =
      ExtendedMantissa.ofMantissaAndAccuracy m .exact := by
  induction k generalizing m with
  | zero => rw [Nat.pow_zero, Nat.mul_one]; rfl
  | succ k ih =>
    have hshift := ih (m * 2)
    rw [Nat.mul_assoc, Nat.mul_comm 2, ← Nat.pow_succ] at hshift
    change ExtendedMantissa.shiftRightOne
      (ExtendedMantissa.ofMantissaAndAccuracy (m * 2 ^ (k + 1)) .exact >>> k) = _
    rw [hshift]
    simp [ExtendedMantissa.ofMantissaAndAccuracy, ExtendedMantissa.shiftRightOne]

theorem IsCanonical.shiftToTargetExponent_eq {m : Nat} {q : Int} (h : IsCanonical m q) (k : Nat) :
    shiftToTargetExponent .binary64 (m * 2 ^ k) (q - k) .exact =
      (ExtendedMantissa.ofMantissaAndAccuracy m .exact, q) := by
  have hshift : (q - (q - k)).toNat = k := by omega
  rw [shiftToTargetExponent, totalExponent_mul_two_pow h.pos, h.targetExponent_eq, shiftToExponent,
    hshift, shiftRight_mul_two_pow, sub_add_cancel]

/-- **A number in canonical form is not rounded**, whatever zeros are written behind it. -/
theorem IsCanonical.roundWithAccuracy_eq {m : Nat} {q : Int} (h : IsCanonical m q)
    (s : UnpackedFloat.Sign) (k : Nat) :
    roundWithAccuracy .binary64 s (m * 2 ^ k) (q - k) .exact = .finite s m q h.pos := by
  have hagain := h.shiftToTargetExponent_eq 0
  rw [Nat.pow_zero, Nat.mul_one, Nat.cast_zero, sub_zero] at hagain
  have hrounded : (ExtendedMantissa.ofMantissaAndAccuracy m .exact).roundedMantissa = m := rfl
  rw [roundWithAccuracy, h.shiftToTargetExponent_eq k]
  dsimp only
  -- what was shifted into place is shifted once more, by nothing
  simp only [hrounded, hagain]
  exact dif_neg h.pos.ne'

/-- **A representable magnitude is not rounded**, in whatever form it is given. -/
theorem IsCanonical.round_eq {m m' : Nat} {q q' : Int} (h : IsCanonical m q)
    (heq : (m' : ℚ) * 2 ^ q' = m * 2 ^ q) (s : UnpackedFloat.Sign) :
    UnpackedFloat.round .binary64 s m' q' = .finite s m q h.pos := by
  rcases le_total q' q with hle | hle
  · -- there are more digits than needed
    obtain ⟨k, rfl⟩ : ∃ k : Nat, q' = q - k := ⟨(q - q').toNat, by omega⟩
    obtain rfl : m' = m * 2 ^ k := by
      have hpow : (2 : ℚ) ^ (q - k) ≠ 0 := by positivity
      have heq : (m' : ℚ) * 2 ^ (q - k) = m * 2 ^ k * 2 ^ (q - k) := by
        rw [heq, mul_assoc, ← zpow_natCast, ← zpow_add₀ two_ne_zero, add_sub_cancel]
      exact_mod_cast mul_right_cancel₀ hpow heq
    have hnone : (q - k - q).toNat = 0 := by omega
    rw [UnpackedFloat.round, totalExponent_mul_two_pow h.pos, h.targetExponent_eq, decreaseExponent]
    dsimp only
    rw [hnone, Nat.shiftLeft_zero, Nat.cast_zero, sub_zero]
    exact h.roundWithAccuracy_eq s k
  · -- there are fewer
    obtain ⟨k, rfl⟩ : ∃ k : Nat, q' = q + k := ⟨(q' - q).toNat, by omega⟩
    obtain rfl : m = m' * 2 ^ k := by
      have hpow : (2 : ℚ) ^ q ≠ 0 := by positivity
      rw [zpow_add₀ two_ne_zero, zpow_natCast] at heq
      have heq : (m' : ℚ) * 2 ^ k * 2 ^ q = m * 2 ^ q := by rw [← heq]; ring
      exact_mod_cast (mul_right_cancel₀ hpow heq).symm
    have hm' : 0 < m' := Nat.pos_of_mul_pos_right h.pos
    have htotal := totalExponent_mul_two_pow hm' k (q + k)
    rw [add_sub_cancel_right] at htotal
    have hshift : (q + k - q).toNat = k := by omega
    rw [UnpackedFloat.round, ← htotal, h.targetExponent_eq, decreaseExponent]
    dsimp only
    rw [hshift, Nat.shiftLeft_eq, add_sub_cancel_right]
    have hround := h.roundWithAccuracy_eq s 0
    rwa [Nat.pow_zero, Nat.mul_one, Nat.cast_zero, sub_zero] at hround

end Binary

namespace Number

theorem normalize_natCast {n : Nat} (hn : 0 < n) (q : Int) (t : UnpackedFloat.Sign) :
    UnpackedFloat.normalize .binary64 n q t = UnpackedFloat.round .binary64 .positive n q := by
  rw [UnpackedFloat.normalize, compare_gt_iff_gt.mpr (Int.natCast_pos.mpr hn)]
  rfl

theorem normalize_neg_natCast {n : Nat} (hn : 0 < n) (q : Int) (t : UnpackedFloat.Sign) :
    UnpackedFloat.normalize .binary64 (-n) q t = UnpackedFloat.round .binary64 .negative n q := by
  have hneg : -(n : Int) < 0 := by omega
  rw [UnpackedFloat.normalize, compare_lt_iff_lt.mpr hneg]
  simp only [Int.neg_neg, Int.toNat_natCast]

/-- **A representable number is not rounded**, in whatever form it is given. -/
theorem normalize_eq_unpack {z : Float} {p : ℚ} (hz : toRat? z = some p) (hp : p ≠ 0) {M q : Int}
    (hM : (M : ℚ) * 2 ^ q = p) (t : UnpackedFloat.Sign) :
    UnpackedFloat.normalize .binary64 M q t = z.toModel.unpack := by
  have hpow : (0 : ℚ) < 2 ^ q := by positivity
  rcases unpack_cases hz with ⟨s, -, rfl⟩ | ⟨s, m, q', hm, hu, hcanonical, hvalue⟩
  · exact absurd rfl hp
  have hpos : (0 : ℚ) < m * 2 ^ q' := by positivity
  rw [hu]
  cases s with
  | negative =>
    have hM : (M : ℚ) * 2 ^ q = -(m * 2 ^ q') := hM.trans hvalue
    have hneg : (M : ℚ) < 0 := by nlinarith
    have hneg' : M < 0 := by exact_mod_cast hneg
    obtain ⟨n, rfl⟩ : ∃ n : Nat, M = -n := ⟨M.natAbs, by omega⟩
    rw [Int.cast_neg, Int.cast_natCast, neg_mul, neg_inj] at hM
    rw [Int.cast_neg, Int.cast_natCast, neg_lt_zero, Nat.cast_pos] at hneg
    rw [normalize_neg_natCast hneg, hcanonical.round_eq hM]
  | positive =>
    have hM : (M : ℚ) * 2 ^ q = m * 2 ^ q' := hM.trans hvalue
    have hpos : (0 : ℚ) < M := by nlinarith
    have hpos' : 0 < M := by exact_mod_cast hpos
    obtain ⟨n, rfl⟩ : ∃ n : Nat, M = n := ⟨M.natAbs, by omega⟩
    rw [Int.cast_natCast] at hM
    rw [Int.cast_natCast, Nat.cast_pos] at hpos
    rw [normalize_natCast hpos, hcanonical.round_eq hM]

/-! ### Telling floats apart by their values -/

/-- The zeros are the floats with the value zero. -/
theorem toRat?_zero : toRat? 0 = some 0 := by
  have hzero : Binary.ofFloat 0 = .zero false := by decide
  rw [toRat?, hzero]
  rfl

theorem toRat?_neg_zero : toRat? (-0) = some 0 := by
  have hzero : Binary.ofFloat (-0) = .zero true := by decide
  rw [toRat?, hzero]
  rfl

/-- A value other than zero belongs to **one float** only. -/
theorem eq_of_toRat?_eq {x y : Float} {p : ℚ} (hx : toRat? x = some p) (hy : toRat? y = some p)
    (hp : p ≠ 0) : x = y := by
  have hbeq : (x == y) = true := (beq_iff_of_toRat? hx hy).mpr rfl
  rcases Float.beq_iff_ne_nan_and_eq.mp hbeq with ⟨-, -, heq | ⟨rfl, -⟩ | ⟨rfl, -⟩⟩
  · exact heq
  · rw [toRat?_zero] at hx
    exact absurd (Option.some.inj hx).symm hp
  · rw [toRat?_neg_zero] at hx
    exact absurd (Option.some.inj hx).symm hp

/-! ### Sums -/

/-- Packing what was unpacked gives the float back. -/
theorem ofModel_pack_unpack (x : Float) :
    Float.ofModel (Float.Model.pack x.toModel.unpack) = x := by
  have hbits : UnpackedFloat.pack .binary64 x.toModel.unpack = x.toModel.toBits.toBitVec :=
    pack_unpack_of_valid x.toModel.valid
  refine Float.toBits_inj.mp (UInt64.toBitVec_inj.mp ?_)
  exact hbits

/-- The signed mantissa of a number, written with a lower exponent. -/
theorem cast_apply_decreaseExponent (s : UnpackedFloat.Sign) (m : Nat) {q q' : Int} (h : q' ≤ q) :
    ((s.apply ((decreaseExponent m q q').1 : Int) : Int) : ℚ) * 2 ^ q' =
      if Binary.isMinus s then -((m : ℚ) * 2 ^ q) else (m : ℚ) * 2 ^ q := by
  obtain ⟨k, rfl⟩ : ∃ k : Nat, q = q' + k := ⟨(q - q').toNat, by omega⟩
  have hshift : (q' + k - q').toNat = k := by omega
  rw [decreaseExponent, hshift, Nat.shiftLeft_eq]
  rw [zpow_add₀ two_ne_zero, zpow_natCast]
  cases s <;>
    simp only [UnpackedFloat.Sign.apply, Binary.isMinus] <;>
    push_cast <;> ring

/-- **A sum that is a float is not rounded.** -/
theorem add_eq_of_toRat? {x y z : Float} {p r : ℚ} (hx : toRat? x = some p) (hy : toRat? y = some r)
    (hz : toRat? z = some (p + r)) (hne : p + r ≠ 0) : x + y = z := by
  have hadd : x + y = Float.ofModel (Float.Model.pack
    (UnpackedFloat.add .binary64 x.toModel.unpack y.toModel.unpack)) := rfl
  rcases unpack_cases hx with ⟨s, hu, rfl⟩ | ⟨s, m, q, hm, hu, -, hp⟩
  · rcases unpack_cases hy with ⟨t, hv, rfl⟩ | ⟨t, m', q', hm', hv, -, hr⟩
    · exact absurd (zero_add 0) hne
    · rw [zero_add] at hz hne
      rw [hadd, hu, hv]
      change Float.ofModel (Float.Model.pack (.finite t m' q' hm')) = z
      rw [← hv, ofModel_pack_unpack]
      exact eq_of_toRat?_eq hy hz hne
  · rcases unpack_cases hy with ⟨t, hv, rfl⟩ | ⟨t, m', q', hm', hv, -, hr⟩
    · rw [add_zero] at hz hne
      rw [hadd, hu, hv]
      change Float.ofModel (Float.Model.pack (.finite s m q hm)) = z
      rw [← hu, ofModel_pack_unpack]
      exact eq_of_toRat?_eq hx hz hne
    · rw [hadd, hu, hv, UnpackedFloat.add]
      dsimp only
      rw [normalize_eq_unpack hz hne, ofModel_pack_unpack]
      rw [Int.cast_add, add_mul, cast_apply_decreaseExponent s m (min_le_left q q'),
        cast_apply_decreaseExponent t m' (min_le_right q q'), ← hp, ← hr]

/-- Adding a zero changes no number other than zero, and makes every zero the positive one. -/
theorem add_zero_eq {x : Float} {p : ℚ} (hx : toRat? x = some p) :
    x + 0.0 = if p = 0 then 0 else x := by
  split
  · next hp =>
    rcases unpack_cases hx with ⟨s, hu, -⟩ | ⟨s, m, q, hm, -, -, rfl⟩
    · change Float.ofModel (Float.Model.pack (UnpackedFloat.add .binary64 x.toModel.unpack
        (0.0 : Float).toModel.unpack)) = 0
      rw [hu]
      cases s <;> decide
    · have hpos : (0 : ℚ) < m * 2 ^ q := by positivity
      split at hp <;> linarith
  · next hp =>
    have hzero : toRat? 0.0 = some 0 := toRat?_zero
    exact add_eq_of_toRat? hx hzero (by rw [add_zero, hx]) (by rwa [add_zero])

/-- **Sums with zero tell values apart**, and nothing else. -/
theorem add_zero_eq_iff {x y : Float} (hx : x.isFinite = true) (hy : y.isFinite = true) :
    x + 0.0 = y + 0.0 ↔ toRat? x = toRat? y := by
  have hkeep : ∀ {z : Float} {p : ℚ}, toRat? z = some p → toRat? (z + 0.0) = some p := by
    intro z p hz
    rw [add_zero_eq hz]
    split
    · next hp => rw [hp, toRat?_zero]
    · exact hz
  obtain ⟨p, hp⟩ := isFinite_iff.mp hx
  obtain ⟨r, hr⟩ := isFinite_iff.mp hy
  constructor
  · intro h
    rw [hp, hr, ← hkeep hp, ← hkeep hr, h]
  · intro h
    obtain rfl : p = r := Option.some.inj (hp.symm.trans (h.trans hr))
    rw [add_zero_eq hp, add_zero_eq hr]
    split
    · rfl
    · next hne => exact eq_of_toRat?_eq hp hr hne

/-! ### Whole numbers -/

/-- A number with all its bits is packed with its exponent, and without its first bit. -/
theorem pack_of_isCanonical {m e : Nat} {q : Int} (h : Binary.IsCanonical m q) (hfull : 2 ^ 52 ≤ m)
    (he : (e : Int) = q + 1075) (hlarge : e < 2047) (s : UnpackedFloat.Sign) :
    UnpackedFloat.pack .binary64 (.finite s m q h.pos) =
      packComponents .binary64 s (BitVec.ofNat 11 e) (BitVec.ofNat 52 m) := by
  have hlog : m.log2 + 1 = Format.binary64.mantissaBits := by
    have hlt : m.log2 < 53 := (Nat.log2_lt h.pos.ne').mpr h.lt
    have hle : 52 ≤ m.log2 := (Nat.le_log2 h.pos.ne').mpr hfull
    change m.log2 + 1 = 53
    omega
  have hbiased : (q + Format.binary64.exponentBias + (52 : Nat)).toNat = e := by
    change (q + (1023 : Nat) + (52 : Nat)).toNat = e
    omega
  rw [UnpackedFloat.pack]
  dsimp only
  rw [hbiased, if_neg (by omega), if_pos hlog]

/-- **A number in canonical form is a float**, with all its bits and an exponent in range. -/
theorem unpack_pack_of_isCanonical {m : Nat} {q : Int} (h : Binary.IsCanonical m q)
    (hfull : 2 ^ 52 ≤ m) (hq : q ≤ 971) (s : UnpackedFloat.Sign) :
    (Float.Model.pack (.finite s m q h.pos)).unpack = .finite s m q h.pos := by
  have hbottom := h.bottom
  obtain ⟨e, he⟩ : ∃ e : Nat, (e : Int) = q + 1075 := ⟨(q + 1075).toNat, by omega⟩
  have hexponent : (BitVec.ofNat 11 e).toNat = e := by
    rw [BitVec.toNat_ofNat, Nat.mod_eq_of_lt (by omega)]
  have hmantissa : (1#1 ++ BitVec.ofNat 52 m).toNat = m := by
    have hlt := h.lt
    rw [BitVec.toNat_append, ← Nat.shiftLeft_add_eq_or_of_lt (BitVec.ofNat 52 m).isLt,
      BitVec.toNat_ofNat]
    change 2 ^ 52 + m % 2 ^ 52 = m
    omega
  -- the exponent is neither the one of what is no number nor the one of small numbers
  have hlast : BitVec.ofNat 11 e ≠ -1#11 := by
    intro heq
    have hnat : (BitVec.ofNat 11 e).toNat = 2047 := congrArg BitVec.toNat heq
    omega
  have hfirst : BitVec.ofNat 11 e ≠ 0#11 := by
    intro heq
    have hnat : (BitVec.ofNat 11 e).toNat = 0 := congrArg BitVec.toNat heq
    omega
  have hunbiased : (e : Int) - (Format.binary64.exponentBias + (52 : Nat)) = q := by
    change (e : Int) - ((1023 : Nat) + (52 : Nat)) = q
    omega
  change UnpackedFloat.unpack .binary64 (UnpackedFloat.pack .binary64 (.finite s m q h.pos)) = _
  rw [pack_of_isCanonical h hfull he (by omega), UnpackedFloat.unpack]
  simp only [unpackExponent_packComponents, unpackMantissa_packComponents,
    unpackSign_packComponents, UnpackedFloat.Sign.ofBitVec_toBitVec]
  rw [if_neg hlast, if_neg hfirst]
  simp only [hmantissa, hexponent, hunbiased]

/-- A whole number of fifty-three bits at most **has a canonical form**: zeros are written behind it
until it has all its bits. -/
theorem exists_isCanonical_natCast {n : Nat} (hpos : 0 < n) (hlt : n < 2 ^ 53) :
    ∃ m q, Binary.IsCanonical m q ∧ 2 ^ 52 ≤ m ∧ q ≤ 0 ∧ (m : ℚ) * 2 ^ q = n := by
  obtain ⟨hle, hlt'⟩ := (Nat.log2_eq_iff hpos.ne').mp rfl
  obtain ⟨k, hk⟩ : ∃ k, n.log2 + k = 52 := by
    have hlog := (Nat.log2_lt hpos.ne').mpr hlt
    exact ⟨52 - n.log2, by omega⟩
  have hfull : 2 ^ 52 ≤ n * 2 ^ k := by
    rw [← hk, Nat.pow_add]
    exact Nat.mul_le_mul_right _ hle
  have hbits : n * 2 ^ k < 2 ^ 53 := by
    calc n * 2 ^ k < 2 ^ (n.log2 + 1) * 2 ^ k :=
          Nat.mul_lt_mul_of_pos_right hlt' (Nat.two_pow_pos k)
      _ = 2 ^ 53 := by rw [← Nat.pow_add, Nat.add_right_comm, hk]
  refine ⟨n * 2 ^ k, -k, ⟨Nat.mul_pos hpos (Nat.two_pow_pos k), hbits, by omega, fun _ => hfull⟩,
    hfull, by omega, ?_⟩
  rw [zpow_neg, zpow_natCast]
  push_cast
  field_simp

/-- One more factor one changes nothing. -/
theorem mul_one_of_isFinite {x : Float} (hx : x.isFinite = true) :
    x * Float.ofBits 0x3FF0000000000000 = x := by
  have hone : (Float.ofBits 0x3FF0000000000000).toModel.unpack =
      .finite .positive (2 ^ 52) (-52) (by decide) := rfl
  have hsign : ∀ s : UnpackedFloat.Sign, s * .positive = s := by
    rintro (_ | _) <;> rfl
  obtain ⟨p, hp⟩ := isFinite_iff.mp hx
  have hmul : UnpackedFloat.mul .binary64 x.toModel.unpack
      (.finite .positive (2 ^ 52) (-52) (by decide)) = x.toModel.unpack := by
    rcases unpack_cases hp with ⟨s, hu, -⟩ | ⟨s, m, q, hm, hu, hcanonical, -⟩
    · rw [hu, UnpackedFloat.mul, hsign]
    · have hround := hcanonical.roundWithAccuracy_eq s 52
      rw [hu, UnpackedFloat.mul, hsign]
      exact hround
  change Float.ofModel (Float.Model.pack
    (UnpackedFloat.mul .binary64 x.toModel.unpack (Float.ofBits _).toModel.unpack)) = x
  rw [hone, hmul, ofModel_pack_unpack]

/-- A machine word with fifty-three bits at most is converted without rounding. -/
theorem toRat?_toFloat {w : UInt64} (hpos : 0 < w.toNat) (hlt : w.toNat < 2 ^ 53) :
    toRat? w.toFloat = some (w.toNat : ℚ) := by
  obtain ⟨m, q, hcanonical, hfull, hq, hvalue⟩ := exists_isCanonical_natCast hpos hlt
  have hround : UnpackedFloat.ofUInt64 .binary64 w = .finite .positive m q hcanonical.pos := by
    rw [UnpackedFloat.ofUInt64, UnpackedFloat.ofNat, UnpackedFloat.ofInt, normalize_natCast hpos]
    refine hcanonical.round_eq ?_ _
    rw [hvalue, zpow_zero, mul_one]
  have hunpack : w.toFloat.toModel.unpack = .finite .positive m q hcanonical.pos := by
    change (Float.Model.pack (UnpackedFloat.ofUInt64 .binary64 w)).unpack = _
    rw [hround]
    exact unpack_pack_of_isCanonical hcanonical hfull (by omega) _
  rw [toRat?, Binary.ofFloat, hunpack, ← hvalue]
  rfl

/-- **Whole numbers up to `2 ^ 53` are floats.** -/
theorem toRat?_ofNat {n : Nat} (hn : n ≤ 2 ^ 53) : toRat? (Float.ofNat n) = some (n : ℚ) := by
  rcases Nat.eq_zero_or_pos n with rfl | hpos
  · exact toRat?_zero
  rcases Nat.eq_or_lt_of_le hn with rfl | hlt
  · have hlast : Binary.ofFloat (Float.ofNat (2 ^ 53)) = .finite false (2 ^ 52) 1 := by
      decide +kernel
    rw [toRat?, hlast]
    norm_num [Binary.toRat?]
  · have hword : n.toUInt64.toNat = n := by
      rw [Nat.toUInt64, UInt64.toNat_ofNat', Nat.mod_eq_of_lt (by omega)]
    have hvalue : toRat? n.toUInt64.toFloat = some (n : ℚ) := by
      rw [toRat?_toFloat (by rwa [hword]) (by rwa [hword]), hword]
    have hofNat : Float.ofNat n = n.toUInt64.toFloat * Float.ofBits 0x3FF0000000000000 := by
      change Float.ofScientific n false 0 = _
      rw [Float.ofScientific, dif_pos ⟨hlt, Nat.zero_le 22⟩]
      rfl
    rw [hofNat, mul_one_of_isFinite (isFinite_iff.mpr ⟨_, hvalue⟩), hvalue]

/-- **Whole numbers up to `2 ^ 53` are added without rounding.** -/
theorem ofNat_add_ofNat {m n : Nat} (h : m + n ≤ 2 ^ 53) :
    Float.ofNat m + Float.ofNat n = Float.ofNat (m + n) := by
  rcases Nat.eq_zero_or_pos (m + n) with hzero | hpos
  · obtain ⟨rfl, rfl⟩ := Nat.add_eq_zero_iff.mp hzero
    decide
  · have hsum := toRat?_ofNat h
    rw [Nat.cast_add] at hsum
    exact add_eq_of_toRat? (toRat?_ofNat (by omega)) (toRat?_ofNat (by omega)) hsum
      (by exact_mod_cast hpos.ne')

end Number

end DataQuality
