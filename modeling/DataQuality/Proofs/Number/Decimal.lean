import DataQuality.Proofs.Number.Layout
import DataQuality.Proofs.Number.Rounded

/-!
# Decimals are read as the nearest float

The float that a literal denotes is the one that its number is rounded to, of all floats
(`DataQuality.Literal.roundsTo_iff`). It is worked out in one of two ways. If the digits and the
power of ten are floats themselves, one product or one quotient of floats is enough, since this is
the only step at which something is rounded. Otherwise the arithmetic is done on natural numbers.
Both ways end with the rounding of one exact number, which
`DataQuality.Binary.roundsInto_mul` and `DataQuality.Binary.roundsInto_div` are about.

What is left is how a point of the grid is packed into the bits of a float: in range it comes out as
it went in (`DataQuality.Binary.unpack_pack_point`), and out of range it comes out as an infinity.
So a literal has a finite float exactly if its number is in range
(`DataQuality.Literal.isFinite_toFloat_iff`).
-/

namespace DataQuality

open Float.Model Float.Model.UnpackedFloat

/-! ### Packing the points of the grid -/

namespace Binary

theorem unpack_pack_infinity (s : UnpackedFloat.Sign) :
    (Float.Model.pack (.infinity s)).unpack = .infinity s := by
  have hexponent : unpackExponent (packedInfinity .binary64 s) = -1#11 :=
    unpackExponent_packComponents
  have hmantissa : unpackMantissa (packedInfinity .binary64 s) = 0#52 :=
    unpackMantissa_packComponents
  change UnpackedFloat.unpack .binary64 (packedInfinity .binary64 s) = _
  rw [UnpackedFloat.unpack]
  dsimp only
  rw [if_pos hexponent, if_pos hmantissa, packedInfinity, unpackSign_packComponents,
    UnpackedFloat.Sign.ofBitVec_toBitVec]

/-- A number with fewer bits is packed as it is, with the least exponent. -/
theorem unpack_pack_of_lt {m : Nat} (hpos : 0 < m) (hlt : m < 2 ^ 52) (s : UnpackedFloat.Sign) :
    (Float.Model.pack (.finite s m (-1074) hpos)).unpack = .finite s m (-1074) hpos := by
  have hlog : m.log2 < 52 := (Nat.log2_lt hpos.ne').mpr hlt
  have hbits : UnpackedFloat.pack .binary64 (.finite s m (-1074) hpos) =
      packComponents .binary64 s 0#11 (BitVec.ofNat 52 m) := by
    have hbiased : ((-1074 : Int) + Format.binary64.exponentBias + (52 : Nat)).toNat = 1 := rfl
    have hfew : ¬ m.log2 + 1 = Format.binary64.mantissaBits := by
      change ¬ m.log2 + 1 = 53
      omega
    rw [UnpackedFloat.pack]
    dsimp only
    rw [hbiased, if_neg (by decide), if_neg hfew]
  have hmantissa : (BitVec.ofNat 52 m).toNat = m := by
    rw [BitVec.toNat_ofNat, Nat.mod_eq_of_lt hlt]
  have hne : BitVec.ofNat 52 m ≠ 0#52 := by
    intro heq
    rw [heq] at hmantissa
    exact hpos.ne hmantissa
  change UnpackedFloat.unpack .binary64 (UnpackedFloat.pack .binary64 _) = _
  rw [hbits, UnpackedFloat.unpack]
  simp only [unpackExponent_packComponents, unpackMantissa_packComponents,
    unpackSign_packComponents, UnpackedFloat.Sign.ofBitVec_toBitVec]
  rw [if_neg (by decide), if_true, dif_neg hne]
  simp only [hmantissa]
  rfl

/-- **A point in range is a float.** -/
theorem unpack_pack_point {m : Nat} {q : Int} (h : OnGrid m q) (hq : q ≤ 971)
    (s : UnpackedFloat.Sign) : (Float.Model.pack (point s m q)).unpack = point s m q := by
  rcases Nat.eq_zero_or_pos m with rfl | hpos
  · rw [point, dif_pos rfl]
    exact unpack_packedZero
  · rw [point, dif_neg hpos.ne']
    rcases Nat.lt_or_ge m (2 ^ 52) with hlt | hge
    · obtain rfl : q = -1074 := by
        by_contra hne
        have hfull := h.full (lt_of_le_of_ne h.bottom (Ne.symm hne))
        omega
      exact unpack_pack_of_lt hpos hlt s
    · exact Number.unpack_pack_of_isCanonical (h.isCanonical hpos) hge hq s

/-- **A point out of range is infinite.** -/
theorem unpack_pack_point_of_gt {m : Nat} {q : Int} (h : OnGrid m q) (hq : 971 < q)
    (s : UnpackedFloat.Sign) : (Float.Model.pack (point s m q)).unpack = .infinity s := by
  have hfull := h.full (by omega)
  have hne : m ≠ 0 := by omega
  have hbits : UnpackedFloat.pack .binary64 (.finite s m q (Nat.pos_of_ne_zero hne)) =
      packedInfinity .binary64 s := by
    rw [UnpackedFloat.pack]
    refine if_pos ?_
    change 2 ^ 11 ≤ (q + (1023 : Nat) + (52 : Nat)).toNat + 1
    omega
  have hinfinity := unpack_pack_infinity s
  rw [point, dif_neg hne]
  change UnpackedFloat.unpack .binary64 (UnpackedFloat.pack .binary64 _) = _
  rw [hbits]
  exact hinfinity

/-- What is at most half the least number is rounded to zero. -/
theorem roundsInto_zero (s : UnpackedFloat.Sign) {v : ℚ} (hpos : 0 ≤ v)
    (hle : v ≤ 2 ^ (-1075 : Int)) : RoundsInto s v (.zero s) := by
  refine ⟨0, -1074, rfl, onGrid_zero, ?_, ?_, fun hopen => absurd hopen (by decide)⟩
  · have hlow : (RoundingInterval.ofParts 0 (-1074)).low = 0 := rfl
    rw [hlow, Nat.cast_zero, zero_mul]
    exact hpos
  · have hhigh : (RoundingInterval.ofParts 0 (-1074)).high = 2 := rfl
    have hhalf : (2 : ℚ) ^ (-1075 : Int) = 2 ^ (-1074 : Int) * 2⁻¹ :=
      zpow_sub_one₀ two_ne_zero (-1074)
    rw [hhigh, mul_zpow_sub_two]
    rw [hhalf] at hle
    generalize (2 : ℚ) ^ (-1074 : Int) = u at hle ⊢
    push_cast
    linarith

/-! ### Digits with a power of ten -/

/-- A power of ten that is out of range makes every number infinite. -/
theorem overflowBound_le {m : Nat} (hm : 0 < m) {e : Int} (he : 2 ^ 11 < e) :
    Number.overflowBound ≤ m * 10 ^ e := by
  have hm' : (1 : ℚ) ≤ m := by exact_mod_cast hm
  have hbound : Number.overflowBound ≤ 2 ^ (1024 : Int) := sub_le_self _ (by positivity)
  calc Number.overflowBound ≤ 2 ^ (1024 : Int) := hbound
    _ ≤ 2 ^ e := zpow_le_zpow_right₀ one_le_two (by omega)
    _ ≤ 10 ^ e := zpow_le_zpow_left₀ (by omega) zero_le_two (by norm_num)
    _ ≤ m * 10 ^ e := le_mul_of_one_le_left (by positivity) hm'

/-- A power of ten that is too small makes a number zero, the more digits the smaller. -/
theorem mul_zpow_le {m : Nat} {e : Int} (he : e < -(2 ^ 11 + m.log2)) :
    (m : ℚ) * 10 ^ e ≤ 2 ^ (-1075 : Int) := by
  obtain ⟨k, rfl⟩ : ∃ k : Nat, e = -k := ⟨e.natAbs, by omega⟩
  have hm : (m : ℚ) ≤ 2 ^ (m.log2 + 1) := by exact_mod_cast Nat.lt_log2_self.le
  have hten : (10 : ℚ) ^ (-(k : Int)) ≤ 2 ^ (-(k : Int)) := by
    rw [zpow_neg, zpow_neg, zpow_natCast, zpow_natCast]
    exact inv_anti₀ (by positivity) (pow_le_pow_left₀ zero_le_two (by norm_num) k)
  calc (m : ℚ) * 10 ^ (-(k : Int)) ≤ 2 ^ (m.log2 + 1) * 2 ^ (-(k : Int)) :=
        mul_le_mul hm hten (by positivity) (by positivity)
    _ = 2 ^ (((m.log2 + 1 : Nat) : Int) + -(k : Int)) := by
        rw [zpow_add₀ two_ne_zero, zpow_natCast]
    _ ≤ 2 ^ (-1075 : Int) := zpow_le_zpow_right₀ one_le_two (by push_cast; omega)

/-- **Decimals are rounded correctly**, as long as there is anything to round: no power of ten is
worked out that would make the number infinite or zero at once. -/
theorem roundsInto_ofScientific (m : Nat) (e : Int) :
    RoundsInto .positive (m * 10 ^ e) (UnpackedFloat.ofScientific .binary64 m e) ∨
      (UnpackedFloat.ofScientific .binary64 m e = .infinity .positive ∧
        Number.overflowBound ≤ m * 10 ^ e) := by
  rcases Nat.eq_zero_or_pos m with rfl | hm
  · refine .inl ?_
    rw [Nat.cast_zero, zero_mul]
    exact roundsInto_zero .positive (le_refl 0) (by positivity)
  rw [UnpackedFloat.ofScientific, dif_neg hm.ne']
  split
  · next hlarge => exact .inr ⟨rfl, overflowBound_le hm hlarge⟩
  split
  · next hsmall => exact .inl (roundsInto_zero .positive (by positivity) (mul_zpow_le hsmall))
  refine .inl ?_
  split
  · next hnonneg =>
    obtain ⟨k, rfl⟩ := Int.eq_ofNat_of_zero_le hnonneg
    have hdigits : 0 < m <<< 53 := by
      rw [Nat.shiftLeft_eq]
      exact Nat.mul_pos hm (Nat.two_pow_pos 53)
    have hpow : 0 < 10 ^ k := Nat.pow_pos (by decide)
    have hlong : 2 ^ 52 ≤ m <<< 53 * 10 ^ k := by
      rw [Nat.shiftLeft_eq]
      calc 2 ^ 52 ≤ m * 2 ^ 53 := by omega
        _ ≤ m * 2 ^ 53 * 10 ^ k := Nat.le_mul_of_pos_right _ hpow
    have hvalue : (m : ℚ) * (10 : ℚ) ^ (k : Int) =
        ((m <<< 53 : Nat) * 2 ^ (-53 : Int)) * ((10 ^ k : Nat) * 2 ^ (0 : Int)) := by
      rw [Nat.shiftLeft_eq, zpow_natCast]
      push_cast
      norm_num
      ring
    rw [hvalue]
    exact roundsInto_mul .positive .positive (-53) 0 hdigits hpow hlong
  · next hneg =>
    obtain ⟨k, rfl⟩ : ∃ k : Nat, e = -k := ⟨e.natAbs, by omega⟩
    have hvalue : (m : ℚ) * 10 ^ (-(k : Int)) =
        ((m : ℚ) * 2 ^ (0 : Int)) / ((10 ^ (- -(k : Int)).toNat : Nat) * 2 ^ (0 : Int)) := by
      rw [Int.neg_neg, Int.toNat_natCast, zpow_neg, zpow_natCast, div_eq_mul_inv]
      push_cast
      norm_num
    rw [hvalue]
    exact roundsInto_div .positive .positive 0 0 hm (Nat.pow_pos (by decide))

/-! ### Floats with a power of ten -/

/-- A float other than zero, told by its parts. -/
theorem unpack_of_ofFloat {x : Float} {m : Nat} {q : Int} (h : ofFloat x = .finite false m q) :
    ∃ hm : 0 < m, x.toModel.unpack = .finite .positive m q hm := by
  unfold ofFloat at h
  split at h
  · cases h
  · cases h
  · cases h
  · next s m' q' hm' hu =>
    obtain ⟨hsign, rfl, rfl⟩ := Binary.finite.inj h
    obtain rfl : s = .positive := isMinus_injective hsign
    exact ⟨hm', hu⟩

/-- **The powers of ten that are floats**, with all their bits. -/
theorem unpack_powerOfTen {k : Nat} (hk : k < Float.exactlyRepresentablePowersOfTen.size) :
    ∃ m q, ∃ hm : 0 < m, Float.exactlyRepresentablePowersOfTen[k].toModel.unpack =
      .finite .positive m q hm ∧ 2 ^ 52 ≤ m ∧ (m : ℚ) * 2 ^ q = 10 ^ k := by
  have htable : ∀ i : Fin 23,
      ofFloat (getElem Float.exactlyRepresentablePowersOfTen i.val i.isLt) =
        .finite false (5 ^ i.val * 2 ^ (52 - (5 ^ i.val).log2))
          ((i.val : Int) - (52 - (5 ^ i.val).log2 : Nat)) := by
    decide +kernel
  have hbits : ∀ i : Fin 23, 2 ^ 52 ≤ 5 ^ i.val * 2 ^ (52 - (5 ^ i.val).log2) := by
    decide +kernel
  obtain ⟨hm, hu⟩ := unpack_of_ofFloat (htable ⟨k, hk⟩)
  refine ⟨_, _, hm, hu, hbits ⟨k, hk⟩, ?_⟩
  dsimp only
  generalize 52 - (5 ^ k).log2 = j
  rw [zpow_sub₀ two_ne_zero, zpow_natCast, zpow_natCast]
  have hten : (10 : ℚ) ^ k = 5 ^ k * 2 ^ k := by
    rw [← mul_pow]
    norm_num
  rw [hten]
  push_cast
  field_simp

/-- A machine word with fifty-three bits at most, unpacked. -/
theorem unpack_toFloat {m : Nat} (hm : 0 < m) (hlt : m < 2 ^ 53) :
    ∃ n q, ∃ hn : 0 < n, m.toUInt64.toFloat.toModel.unpack = .finite .positive n q hn ∧
      (n : ℚ) * 2 ^ q = m := by
  have hword : m.toUInt64.toNat = m := by
    rw [Nat.toUInt64, UInt64.toNat_ofNat', Nat.mod_eq_of_lt (by omega)]
  have hvalue := Number.toRat?_toFloat (w := m.toUInt64) (by rwa [hword]) (by rwa [hword])
  have hpos : (0 : ℚ) < m := Nat.cast_pos.mpr hm
  rw [hword] at hvalue
  rcases Number.unpack_cases hvalue with ⟨s, -, hzero⟩ | ⟨s, n, q, hn, hu, -, hm'⟩
  · exact absurd hzero hpos.ne'
  · cases s with
    | negative =>
      have hneg : (m : ℚ) = -(n * 2 ^ q) := hm'
      have hpos' : (0 : ℚ) < n * 2 ^ q := by positivity
      linarith
    | positive => exact ⟨n, q, hn, hu, hm'.symm⟩

/-- A power of ten is its numerator, or one over its denominator. -/
theorem zpow_eq_of_lt {e : Int} (he : e < 0) : (10 : ℚ) ^ e = 1 / 10 ^ e.natAbs := by
  obtain ⟨k, rfl⟩ : ∃ k : Nat, e = -k := ⟨e.natAbs, by omega⟩
  rw [Int.natAbs_neg, Int.natAbs_natCast, zpow_neg, zpow_natCast, one_div]

theorem zpow_eq_of_le {e : Int} (he : 0 ≤ e) : (10 : ℚ) ^ e = 10 ^ e.natAbs := by
  obtain ⟨k, rfl⟩ := Int.eq_ofNat_of_zero_le he
  rw [Int.natAbs_natCast, zpow_natCast]

/-- The product of a word and a power of ten, both of them floats: **only the product is rounded.**
-/
theorem roundsInto_word_mul {m k : Nat} (hm : m < 2 ^ 53)
    (hk : k < Float.exactlyRepresentablePowersOfTen.size) :
    RoundsInto .positive (m * 10 ^ k) (UnpackedFloat.mul .binary64 m.toUInt64.toFloat.toModel.unpack
      Float.exactlyRepresentablePowersOfTen[k].toModel.unpack) := by
  obtain ⟨n, r, hn, hpower, hlong, hten⟩ := unpack_powerOfTen hk
  rcases Nat.eq_zero_or_pos m with rfl | hpos
  · rw [hpower, Nat.cast_zero, zero_mul]
    exact roundsInto_zero .positive (le_refl 0) (by positivity)
  · obtain ⟨a, q, ha, hu, hvalue⟩ := unpack_toFloat hpos hm
    rw [hu, hpower, ← hvalue, ← hten]
    exact roundsInto_mul .positive .positive q r ha hn
      (hlong.trans (Nat.le_mul_of_pos_left n ha))

/-- Their quotient: **only the quotient is rounded.** -/
theorem roundsInto_word_div {m k : Nat} (hm : m < 2 ^ 53)
    (hk : k < Float.exactlyRepresentablePowersOfTen.size) :
    RoundsInto .positive (m / 10 ^ k) (UnpackedFloat.div .binary64 m.toUInt64.toFloat.toModel.unpack
      Float.exactlyRepresentablePowersOfTen[k].toModel.unpack) := by
  obtain ⟨n, r, hn, hpower, -, hten⟩ := unpack_powerOfTen hk
  rcases Nat.eq_zero_or_pos m with rfl | hpos
  · rw [hpower, Nat.cast_zero, zero_div]
    exact roundsInto_zero .positive (le_refl 0) (by positivity)
  · obtain ⟨a, q, ha, hu, hvalue⟩ := unpack_toFloat hpos hm
    rw [hu, hpower, ← hvalue, ← hten]
    exact roundsInto_div .positive .positive q r ha hn

/-- **Both ways to read a decimal end with one rounding** of its number. -/
theorem exists_roundsInto_ofScientific (m : Nat) (e : Int) :
    ∃ u, Float.ofScientific m (e < 0) e.natAbs = Float.ofModel (Float.Model.pack u) ∧
      (RoundsInto .positive (m * 10 ^ e) u ∨
        (u = .infinity .positive ∧ Number.overflowBound ≤ m * 10 ^ e)) := by
  rw [Float.ofScientific]
  split
  · next hshort =>
    obtain ⟨hm, hk⟩ := hshort
    split
    · next hneg =>
      refine ⟨_, rfl, .inl ?_⟩
      rw [zpow_eq_of_lt (of_decide_eq_true hneg), mul_one_div]
      exact roundsInto_word_div hm (Nat.lt_succ_of_le hk)
    · next hnonneg =>
      refine ⟨_, rfl, .inl ?_⟩
      rw [zpow_eq_of_le (not_lt.mp (of_decide_eq_false (Bool.not_eq_true _ ▸ hnonneg)))]
      exact roundsInto_word_mul hm (Nat.lt_succ_of_le hk)
  · have hexponent : (if decide (e < 0) = true then Int.negOfNat e.natAbs
        else Int.ofNat e.natAbs) = e := by
      split
      · next hneg =>
        have hlt := of_decide_eq_true hneg
        rw [Int.negOfNat_eq, Int.ofNat_eq_natCast]
        omega
      · next hnonneg =>
        have hle : ¬ e < 0 := fun hlt => hnonneg (decide_eq_true hlt)
        rw [Int.ofNat_eq_natCast]
        omega
    refine ⟨_, rfl, ?_⟩
    rw [hexponent]
    exact roundsInto_ofScientific m e

/-- **What a decimal is read as**: a point of the grid whose rounding interval the number lies in,
or an infinity when the number is out of range. -/
theorem unpack_ofScientific (m : Nat) (e : Int) :
    ((m : ℚ) * 10 ^ e < Number.overflowBound ∧ ∃ n q,
      (Float.ofScientific m (e < 0) e.natAbs).toModel.unpack = point .positive n q ∧
        OnGrid n q ∧ q ≤ 971 ∧ (RoundingInterval.ofParts n q).Covers (q - 2) (m * 10 ^ e)) ∨
      (Number.overflowBound ≤ m * 10 ^ e ∧
        (Float.ofScientific m (e < 0) e.natAbs).toModel.unpack = .infinity .positive) := by
  obtain ⟨u, hu, hround⟩ := exists_roundsInto_ofScientific m e
  have hunpack : (Float.ofScientific m (e < 0) e.natAbs).toModel.unpack =
      (Float.Model.pack u).unpack := by rw [hu]
  rw [hunpack]
  rcases hround with ⟨n, q, rfl, hgrid, hcovers⟩ | ⟨rfl, hlarge⟩
  · have hrange := hgrid.lt_overflowBound_iff hcovers
    rcases le_or_gt q 971 with hq | hq
    · exact .inl ⟨hrange.mpr hq, n, q, unpack_pack_point hgrid hq .positive, hgrid, hq, hcovers⟩
    · exact .inr ⟨not_lt.mp fun hlt => absurd (hrange.mp hlt) (not_le.mpr hq),
        unpack_pack_point_of_gt hgrid hq .positive⟩
  · exact .inr ⟨hlarge, unpack_pack_infinity .positive⟩

/-! ### Signs -/

theorem ofFloat_of_unpack_eq_point {x : Float} {s : UnpackedFloat.Sign} {m : Nat} {q : Int}
    (h : x.toModel.unpack = point s m q) : ofFloat x = ofGrid (isMinus s) m q := by
  rw [ofFloat, h, point, ofGrid]
  by_cases hm : m = 0
  · rw [dif_pos hm, if_pos hm]
  · rw [dif_neg hm, if_neg hm]

/-- **A minus in front of a point changes its sign** and nothing else. -/
theorem unpack_neg_of_point {x : Float} {s : UnpackedFloat.Sign} {m : Nat} {q : Int}
    (hgrid : OnGrid m q) (hq : q ≤ 971) (hx : x.toModel.unpack = point s m q) :
    (-x).toModel.unpack = point (-s) m q := by
  have hneg : (point s m q).neg = point (-s) m q := by
    rw [point, point]
    split <;> rfl
  change (Float.Model.pack x.toModel.unpack.neg).unpack = _
  rw [hx, hneg, unpack_pack_point hgrid hq]

theorem unpack_neg_of_infinity {x : Float} {s : UnpackedFloat.Sign}
    (hx : x.toModel.unpack = .infinity s) : (-x).toModel.unpack = .infinity (-s) := by
  change (Float.Model.pack x.toModel.unpack.neg).unpack = _
  rw [hx]
  exact unpack_pack_infinity (-s)

end Binary

/-! ### Literals -/

namespace Literal

variable {l : Literal}

/-- **A literal in range** has a point of the grid as its float, with the sign that is written. -/
theorem exists_ofFloat_toFloat (h : l.magnitude < Number.overflowBound) :
    ∃ m q, Binary.ofFloat l.toFloat = .ofGrid l.isNegative m q ∧ Binary.OnGrid m q ∧
      (RoundingInterval.ofParts m q).Covers (q - 2) l.magnitude := by
  rcases Binary.unpack_ofScientific l.significand l.scale with
    ⟨-, m, q, hx, hgrid, hq, hcovers⟩ | ⟨hlarge, -⟩
  · refine ⟨m, q, ?_, hgrid, hcovers⟩
    rw [toFloat]
    cases l.isNegative with
    | false => exact Binary.ofFloat_of_unpack_eq_point hx
    | true => exact Binary.ofFloat_of_unpack_eq_point (Binary.unpack_neg_of_point hgrid hq hx)
  · exact absurd h (not_lt.mpr hlarge)

/-- **A literal out of range** is infinite. -/
theorem ofFloat_toFloat_of_le (h : Number.overflowBound ≤ l.magnitude) :
    Binary.ofFloat l.toFloat = .infinite l.isNegative := by
  rcases Binary.unpack_ofScientific l.significand l.scale with ⟨hlt, -⟩ | ⟨-, hx⟩
  · exact absurd h (not_le.mpr hlt)
  · rw [toFloat]
    cases l.isNegative with
    | false =>
      change Binary.ofFloat (Float.ofScientific _ _ _) = _
      rw [Binary.ofFloat, hx]
      rfl
    | true =>
      change Binary.ofFloat (-Float.ofScientific _ _ _) = _
      rw [Binary.ofFloat, Binary.unpack_neg_of_infinity hx]
      rfl

/-- **A literal has a finite float exactly if its number is in range.** -/
theorem isFinite_toFloat_iff : l.toFloat.isFinite = true ↔ l.magnitude < Number.overflowBound := by
  constructor
  · intro hfinite
    by_contra hlarge
    have hinfinite := ofFloat_toFloat_of_le (not_lt.mp hlarge)
    exact (Binary.isFinite_iff.mp hfinite).2 _ hinfinite
  · intro hrange
    obtain ⟨m, q, hparts, -, -⟩ := exists_ofFloat_toFloat hrange
    exact Number.isFinite_iff.mpr ⟨_, by rw [Number.toRat?, hparts, Binary.toRat?_ofGrid]⟩

/-- **The float of a literal is what its number is rounded to**, and no other float is. -/
theorem roundsTo_iff {x : Float} : Number.RoundsTo l.isNegative l.magnitude x ↔
    l.toFloat.isFinite = true ∧ x = l.toFloat := by
  constructor
  · intro hround
    obtain ⟨m, q, hparts, hgrid, hcovers⟩ := exists_ofFloat_toFloat hround.inRange
    exact ⟨isFinite_toFloat_iff.mpr hround.inRange, hround.eq_of_covers hparts hgrid hcovers⟩
  · rintro ⟨hfinite, rfl⟩
    have hrange := isFinite_toFloat_iff.mp hfinite
    obtain ⟨m, q, hparts, hgrid, hcovers⟩ := exists_ofFloat_toFloat hrange
    exact Number.roundsTo_of_covers hparts hgrid hcovers hrange

end Literal

end DataQuality
