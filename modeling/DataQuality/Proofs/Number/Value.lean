import DataQuality.Proofs.Number.Binary
import Mathlib.Algebra.Order.Field.Power
import Mathlib.Algebra.Order.Ring.Rat
import Mathlib.Tactic.GCongr
import Mathlib.Tactic.Positivity
import Mathlib.Tactic.Ring

/-!
# The values of floats

A finite float stands for a rational number, its value (`DataQuality.Number.toRat?`), and floats are
compared by their values (`DataQuality.Number.compare_unpack`): the canonical form of a number makes
it enough to look at the exponents first and at the mantissas then. So the order of the finite
floats is total, and a negative zero and a positive one are equal in it.

Sums and differences are rounded, and nothing is said here about how far they are off. What is said
is that they are numbers where they have to be (`DataQuality.Number.add_ne_notANumber` and its
companions), so that comparisons with them can be turned around; that a difference of equal numbers
is zero (`DataQuality.Number.abs_sub_of_beq`); and that dropping a sign is exact
(`DataQuality.Number.toRat?_abs`).
-/

namespace DataQuality

open Float.Model Float.Model.UnpackedFloat

/-! ### Values -/

/-- The **value** of the parts of a float, if they are those of a finite number. -/
def Binary.toRat? : Binary → Option ℚ
  | .nan => none
  | .infinite _ => none
  | .zero _ => some 0
  | .finite negative m q => some (if negative then -(m * 2 ^ q) else m * 2 ^ q)

namespace Number

/-- The **value** of a float, if it is finite. -/
def toRat? (x : Float) : Option ℚ := (Binary.ofFloat x).toRat?

theorem isFinite_iff {x : Float} : x.isFinite = true ↔ ∃ p, toRat? x = some p := by
  rw [Float.isFinite, Float.Model.isFinite, toRat?, Binary.ofFloat]
  cases x.toModel.unpack <;> simp [UnpackedFloat.isFinite, Binary.toRat?]

/-- A float with a value is a zero or a number in canonical form. -/
theorem unpack_cases {x : Float} {p : ℚ} (h : toRat? x = some p) :
    (∃ s, x.toModel.unpack = .zero s ∧ p = 0) ∨
      ∃ s m q, ∃ hm : 0 < m, x.toModel.unpack = .finite s m q hm ∧ Binary.IsCanonical m q ∧
        p = if Binary.isMinus s then -((m : ℚ) * 2 ^ q) else (m : ℚ) * 2 ^ q := by
  rw [toRat?, Binary.ofFloat] at h
  rcases hu : x.toModel.unpack with s | _ | s | ⟨s, m, q, hm⟩
  · rw [hu] at h
    cases h
  · rw [hu] at h
    cases h
  · rw [hu] at h
    exact .inl ⟨s, rfl, (Option.some.inj h).symm⟩
  · rw [hu] at h
    exact .inr ⟨s, m, q, hm, rfl, Binary.isCanonical_of_unpack hu, (Option.some.inj h).symm⟩

/-! ### Order -/

/-- Of two magnitudes in canonical form the one with the smaller exponent is the smaller one: its
mantissa has at most as many bits. -/
theorem mul_zpow_lt_of_exponent_lt {m m' : Nat} {q q' : Int} (h : Binary.IsCanonical m q)
    (h' : Binary.IsCanonical m' q') (hlt : q < q') : (m : ℚ) * 2 ^ q < m' * 2 ^ q' := by
  have hm : (m : ℚ) < 2 ^ 53 := by exact_mod_cast h.lt
  have hm' : (2 : ℚ) ^ 52 ≤ m' := by exact_mod_cast h'.full (lt_of_le_of_lt h.bottom hlt)
  calc (m : ℚ) * 2 ^ q < 2 ^ 53 * 2 ^ q := mul_lt_mul_of_pos_right hm (by positivity)
    _ = 2 ^ 52 * 2 ^ (q + 1) := by rw [zpow_add₀ two_ne_zero]; ring
    _ ≤ 2 ^ 52 * 2 ^ q' := by
      gcongr
      · exact one_le_two
      · exact hlt
    _ ≤ m' * 2 ^ q' := by gcongr

/-- **Magnitudes in canonical form are compared by their exponents first.** -/
theorem compare_mul_zpow {m m' : Nat} {q q' : Int} (h : Binary.IsCanonical m q)
    (h' : Binary.IsCanonical m' q') :
    compare ((m : ℚ) * 2 ^ q) (m' * 2 ^ q') = (compare q q').then (compare m m') := by
  rcases lt_trichotomy q q' with hlt | rfl | hlt
  · rw [compare_lt_iff_lt.mpr hlt, compare_lt_iff_lt.mpr (mul_zpow_lt_of_exponent_lt h h' hlt)]
    rfl
  · have hpow : (0 : ℚ) < 2 ^ q := by positivity
    rw [compare_eq_iff_eq.mpr rfl, Ordering.eq_then]
    rcases lt_trichotomy m m' with hlt | rfl | hlt
    · rw [compare_lt_iff_lt.mpr hlt, compare_lt_iff_lt]
      exact mul_lt_mul_of_pos_right (Nat.cast_lt.mpr hlt) hpow
    · rw [compare_eq_iff_eq.mpr rfl, compare_eq_iff_eq.mpr rfl]
    · rw [compare_gt_iff_gt.mpr hlt, compare_gt_iff_gt]
      exact mul_lt_mul_of_pos_right (Nat.cast_lt.mpr hlt) hpow
  · rw [compare_gt_iff_gt.mpr hlt, compare_gt_iff_gt.mpr (mul_zpow_lt_of_exponent_lt h' h hlt)]
    rfl

theorem compare_neg_neg (p r : ℚ) : compare (-p) (-r) = compare r p := by
  rcases lt_trichotomy r p with hlt | rfl | hlt
  · rw [compare_lt_iff_lt.mpr hlt, compare_lt_iff_lt.mpr (neg_lt_neg hlt)]
  · rw [compare_eq_iff_eq.mpr rfl, compare_eq_iff_eq.mpr rfl]
  · rw [compare_gt_iff_gt.mpr hlt, compare_gt_iff_gt.mpr (neg_lt_neg hlt)]

/-- **Finite floats are compared by their values.** -/
theorem compare_unpack {x y : Float} {p r : ℚ} (hx : toRat? x = some p) (hy : toRat? y = some r) :
    x.toModel.unpack.compare y.toModel.unpack = some (compare p r) := by
  rcases unpack_cases hx with ⟨s, hu, rfl⟩ | ⟨s, m, q, hm, hu, hcanonical, rfl⟩
  · rcases unpack_cases hy with ⟨t, hv, rfl⟩ | ⟨t, m', q', hm', hv, -, rfl⟩
    · rw [hu, hv, compare_eq_iff_eq.mpr rfl]
      rfl
    · have hpos : (0 : ℚ) < m' * 2 ^ q' := by positivity
      rw [hu, hv]
      cases t with
      | negative => exact congrArg some (compare_gt_iff_gt.mpr (neg_lt_zero.mpr hpos)).symm
      | positive => exact congrArg some (compare_lt_iff_lt.mpr hpos).symm
  · have hpos : (0 : ℚ) < m * 2 ^ q := by positivity
    rcases unpack_cases hy with ⟨t, hv, rfl⟩ | ⟨t, m', q', hm', hv, hcanonical', rfl⟩
    · rw [hu, hv]
      cases s with
      | negative => exact congrArg some (compare_lt_iff_lt.mpr (neg_lt_zero.mpr hpos)).symm
      | positive => exact congrArg some (compare_gt_iff_gt.mpr hpos).symm
    · have hpos' : (0 : ℚ) < m' * 2 ^ q' := by positivity
      rw [hu, hv]
      cases s with
      | negative =>
        cases t with
        | negative =>
          -- behind a minus the order is turned around
          refine congrArg some (Eq.trans ?_ (compare_neg_neg _ _).symm)
          rw [compare_mul_zpow hcanonical' hcanonical, Ordering.swap_then, Int.compare_swap,
            Nat.compare_swap]
        | positive =>
          exact congrArg some (compare_lt_iff_lt.mpr ((neg_lt_zero.mpr hpos).trans hpos')).symm
      | positive =>
        cases t with
        | negative =>
          exact congrArg some (compare_gt_iff_gt.mpr ((neg_lt_zero.mpr hpos').trans hpos)).symm
        | positive => exact congrArg some (compare_mul_zpow hcanonical hcanonical').symm

/-- A finite float lies between the infinities. -/
theorem compare_infinity {x : Float} {p : ℚ} (hx : toRat? x = some p) :
    x.toModel.unpack.compare (.infinity .positive) = some .lt ∧
      (UnpackedFloat.infinity .negative).compare x.toModel.unpack = some .lt := by
  rcases unpack_cases hx with ⟨s, hu, -⟩ | ⟨s, m, q, hm, hu, -, -⟩
  · rw [hu]
    exact ⟨rfl, rfl⟩
  · rw [hu]
    cases s <;> exact ⟨rfl, rfl⟩

/-! ### Comparisons -/

theorem lt_iff_compare {x y : Float} :
    x < y ↔ x.toModel.unpack.compare y.toModel.unpack = some .lt := by
  change decide (x.toModel.unpack.lt y.toModel.unpack = true) = true ↔ _
  rw [decide_eq_true_eq, UnpackedFloat.lt, beq_iff_eq]

theorem le_iff_compare {x y : Float} :
    x ≤ y ↔ (x.toModel.unpack.compare y.toModel.unpack).any (·.isLE) = true := by
  change decide (x.toModel.unpack.le y.toModel.unpack = true) = true ↔ _
  rw [decide_eq_true_eq, UnpackedFloat.le]

theorem beq_iff_compare {x y : Float} :
    (x == y) = true ↔ x.toModel.unpack.compare y.toModel.unpack = some .eq := by
  change x.toModel.unpack.beq y.toModel.unpack = true ↔ _
  rw [UnpackedFloat.beq, beq_iff_eq]

section Values

variable {x y : Float} {p r : ℚ} (hx : toRat? x = some p) (hy : toRat? y = some r)

include hx hy

theorem lt_iff_of_toRat? : x < y ↔ p < r := by
  rw [lt_iff_compare, compare_unpack hx hy, Option.some.injEq, compare_lt_iff_lt]

theorem le_iff_of_toRat? : x ≤ y ↔ p ≤ r := by
  rw [le_iff_compare, compare_unpack hx hy, Option.any_some, Ordering.isLE_iff_ne_gt]
  exact compare_gt_iff_gt.not.trans not_lt

theorem beq_iff_of_toRat? : (x == y) = true ↔ p = r := by
  rw [beq_iff_compare, compare_unpack hx hy, Option.some.injEq, compare_eq_iff_eq]

end Values

/-- **Two floats that are numbers are in some order**, and in the opposite one the other way
round. Infinities count as numbers here. -/
theorem exists_compare_eq {u v : UnpackedFloat} (hu : u ≠ .notANumber) (hv : v ≠ .notANumber) :
    ∃ o, u.compare v = some o ∧ v.compare u = some o.swap := by
  cases u with
  | notANumber => exact absurd rfl hu
  | infinity s =>
    cases v with
    | notANumber => exact absurd rfl hv
    | infinity t => cases s <;> cases t <;> exact ⟨_, rfl, rfl⟩
    | zero t => cases s <;> exact ⟨_, rfl, rfl⟩
    | finite t m' q' hm' => cases s <;> exact ⟨_, rfl, rfl⟩
  | zero s =>
    cases v with
    | notANumber => exact absurd rfl hv
    | infinity t => cases t <;> exact ⟨_, rfl, rfl⟩
    | zero t => exact ⟨_, rfl, rfl⟩
    | finite t m' q' hm' => cases t <;> exact ⟨_, rfl, rfl⟩
  | finite s m q hm =>
    have hswap : ∀ m' q', (compare q q').then (compare m m') =
        ((compare q' q).then (compare m' m)).swap := fun m' q' => by
      rw [Ordering.swap_then, Int.compare_swap, Nat.compare_swap]
    cases v with
    | notANumber => exact absurd rfl hv
    | infinity t => cases s <;> cases t <;> exact ⟨_, rfl, rfl⟩
    | zero t => cases s <;> exact ⟨_, rfl, rfl⟩
    | finite t m' q' hm' =>
      cases s with
      | negative =>
        cases t with
        | negative => exact ⟨_, rfl, congrArg some (by rw [Ordering.swap_swap, hswap])⟩
        | positive => exact ⟨_, rfl, rfl⟩
      | positive =>
        cases t with
        | negative => exact ⟨_, rfl, rfl⟩
        | positive => exact ⟨_, rfl, congrArg some (by rw [hswap, Ordering.swap_swap])⟩

/-- The order of numbers is total. -/
theorem not_lt_iff_le {x y : Float} (hx : x.toModel.unpack ≠ .notANumber)
    (hy : y.toModel.unpack ≠ .notANumber) : ¬x < y ↔ y ≤ x := by
  obtain ⟨o, ho, hswap⟩ := exists_compare_eq hx hy
  rw [lt_iff_compare, le_iff_compare, ho, hswap]
  cases o <;> decide

/-- What is no number is **one float only**. -/
theorem isNaN_iff {x : Float} : x.isNaN = true ↔ x = Float.nan := by
  constructor
  · intro h
    rw [Float.isNaN, Float.Model.isNaN] at h
    apply Binary.eq_of_unpack_eq
    cases hu : x.toModel.unpack <;> rw [hu] at h <;> first | rfl | cases h
  · rintro rfl
    decide

theorem isNaN_of_isFinite {x : Float} (h : x.isFinite = true) : x.isNaN = false := by
  rw [← Bool.not_eq_true, isNaN_iff]
  rintro rfl
  exact absurd h (by decide)

/-! ### Rounded arithmetic -/

/-- What is no number is packed from nothing else. -/
theorem unpack_pack_ne_notANumber {u : UnpackedFloat} (hu : u ≠ .notANumber) :
    (Float.Model.pack u).unpack ≠ .notANumber := by
  intro h
  have hbits : UnpackedFloat.pack .binary64 u = packedNaN .binary64 :=
    (unpack_eq_notANumber_iff_of_valid valid_pack).mp h
  have hmantissa := congrArg unpackMantissa hbits
  have hexponent := congrArg unpackExponent hbits
  rw [packedNaN, unpackMantissa_packComponents] at hmantissa
  rw [packedNaN, unpackExponent_packComponents] at hexponent
  have hinfinity : ∀ s, unpackMantissa (packedInfinity .binary64 s) = 0 :=
    fun s => unpackMantissa_packComponents
  cases u with
  | notANumber => exact hu rfl
  | infinity s =>
    rw [UnpackedFloat.pack, hinfinity] at hmantissa
    exact absurd hmantissa (by decide)
  | zero s =>
    rw [UnpackedFloat.pack, packedZero, unpackExponent_packComponents] at hexponent
    exact absurd hexponent (by decide)
  | finite s m q hm =>
    rw [UnpackedFloat.pack] at hmantissa hexponent
    dsimp only at hmantissa hexponent
    split at hmantissa
    · rw [hinfinity] at hmantissa
      exact absurd hmantissa (by decide)
    · next hsmall =>
      -- the exponent is too small for the bits of what is no number
      rw [if_neg hsmall] at hexponent
      split at hexponent
      · rw [unpackExponent_packComponents] at hexponent
        have hnat := congrArg BitVec.toNat hexponent
        rw [BitVec.toNat_ofNat, Nat.mod_eq_of_lt (by omega)] at hnat
        refine hsmall ?_
        rw [hnat]
        decide
      · rw [unpackExponent_packComponents] at hexponent
        exact absurd hexponent (by decide)

theorem normalize_ne_notANumber (spec : Format) (m q : Int) (s : UnpackedFloat.Sign) :
    UnpackedFloat.normalize spec m q s ≠ .notANumber := by
  have hround : ∀ t n, UnpackedFloat.round spec t n q ≠ .notANumber := by
    intro t n
    rw [UnpackedFloat.round]
    dsimp only
    rw [roundWithAccuracy]
    dsimp only
    split <;> simp
  rw [UnpackedFloat.normalize]
  split
  · exact hround _ _
  · simp
  · exact hround _ _

section NotANumber

variable {x y : Float} (hx : x.isFinite = true) (hy : y.toModel.unpack ≠ .notANumber)

include hx

theorem unpack_ne_notANumber_of_isFinite : x.toModel.unpack ≠ .notANumber := by
  intro h
  rw [Float.isFinite, Float.Model.isFinite, h] at hx
  cases hx

include hy

/-- **A finite float and another number have a sum.** -/
theorem add_ne_notANumber : (x + y).toModel.unpack ≠ .notANumber := by
  refine unpack_pack_ne_notANumber ?_
  rw [Float.isFinite, Float.Model.isFinite] at hx
  generalize x.toModel.unpack = u, y.toModel.unpack = v at hx hy
  cases u <;> cases v <;>
    simp_all [UnpackedFloat.isFinite, UnpackedFloat.add, normalize_ne_notANumber]
  split <;> simp

/-- **A finite float and another number have a difference.** -/
theorem sub_ne_notANumber : (x - y).toModel.unpack ≠ .notANumber := by
  refine unpack_pack_ne_notANumber ?_
  rw [Float.isFinite, Float.Model.isFinite] at hx
  generalize x.toModel.unpack = u, y.toModel.unpack = v at hx hy
  cases u <;> cases v <;>
    simp_all [UnpackedFloat.isFinite, UnpackedFloat.sub, normalize_ne_notANumber]
  split <;> simp

end NotANumber

theorem abs_ne_notANumber {x : Float} (hx : x.toModel.unpack ≠ .notANumber) :
    x.abs.toModel.unpack ≠ .notANumber := by
  refine unpack_pack_ne_notANumber ?_
  rcases hu : x.toModel.unpack with s | _ | s | ⟨s, m, q, hm⟩
  · simp [UnpackedFloat.abs]
  · exact absurd hu hx
  · simp [UnpackedFloat.abs]
  · simp [UnpackedFloat.abs]

/-- Infinite boundaries around a finite float. -/
theorem unpack_add_infinity {x y : Float} {p : ℚ} (hx : toRat? x = some p)
    (hy : y.toModel.unpack = .infinity .positive) :
    (x + y).toModel.unpack = .infinity .positive ∧
      (x - y).toModel.unpack = .infinity .negative := by
  have hpack : ∀ s, (Float.Model.pack (.infinity s)).unpack = .infinity s := by
    intro s
    have hexponent : unpackExponent (packedInfinity .binary64 s) = -1#11 :=
      unpackExponent_packComponents
    have hmantissa : unpackMantissa (packedInfinity .binary64 s) = 0#52 :=
      unpackMantissa_packComponents
    change UnpackedFloat.unpack .binary64 (packedInfinity .binary64 s) = _
    rw [UnpackedFloat.unpack]
    dsimp only
    rw [if_pos hexponent, if_pos hmantissa, packedInfinity, unpackSign_packComponents,
      UnpackedFloat.Sign.ofBitVec_toBitVec]
  change (Float.Model.pack (UnpackedFloat.add .binary64 _ _)).unpack = _ ∧
    (Float.Model.pack (UnpackedFloat.sub .binary64 _ _)).unpack = _
  rw [hy]
  rcases unpack_cases hx with ⟨s, hu, -⟩ | ⟨s, m, q, hm, hu, -, -⟩
  · rw [hu]
    exact ⟨hpack _, hpack _⟩
  · rw [hu]
    exact ⟨hpack _, hpack _⟩

/-! ### Signs -/

/-- The sign of a bit pattern can be replaced. -/
theorem unpack_packComponents {b : BitVec Format.binary64.numBits} {s : UnpackedFloat.Sign}
    {m : Nat} {q : Int} {hm : 0 < m} (t : UnpackedFloat.Sign)
    (h : UnpackedFloat.unpack .binary64 b = .finite s m q hm) :
    UnpackedFloat.unpack .binary64
      (packComponents .binary64 t (unpackExponent b) (unpackMantissa b)) = .finite t m q hm := by
  rw [UnpackedFloat.unpack] at h ⊢
  simp only [unpackExponent_packComponents, unpackMantissa_packComponents,
    unpackSign_packComponents, UnpackedFloat.Sign.ofBitVec_toBitVec]
  dsimp only at h
  split at h
  · split at h <;> cases h
  · next hfinite =>
    rw [if_neg hfinite]
    split at h
    · next hsubnormal =>
      rw [if_pos hsubnormal]
      split at h
      · cases h
      · next hmantissa =>
        rw [dif_neg hmantissa]
        cases h
        rfl
    · next hnormal =>
      rw [if_neg hnormal]
      cases h
      rfl

/-- Packed with either sign, a number has the same exponent and the same mantissa. -/
theorem pack_finite (s t : UnpackedFloat.Sign) (m : Nat) (q : Int) (hm : 0 < m) :
    UnpackedFloat.pack .binary64 (.finite t m q hm) =
      packComponents .binary64 t
        (unpackExponent (UnpackedFloat.pack .binary64 (.finite s m q hm)))
        (unpackMantissa (UnpackedFloat.pack .binary64 (.finite s m q hm))) := by
  rw [UnpackedFloat.pack, UnpackedFloat.pack]
  dsimp only
  split
  · rw [packedInfinity, packedInfinity, unpackExponent_packComponents,
      unpackMantissa_packComponents]
  · split <;> rw [unpackExponent_packComponents, unpackMantissa_packComponents]

/-- **Dropping the sign is exact.** -/
theorem toRat?_abs {x : Float} {p : ℚ} (hx : toRat? x = some p) : toRat? x.abs = some |p| := by
  rcases unpack_cases hx with ⟨s, hu, rfl⟩ | ⟨s, m, q, hm, hu, -, rfl⟩
  · have habs : x.abs.toModel.unpack = .zero .positive := by
      change (Float.Model.pack x.toModel.unpack.abs).unpack = _
      rw [hu]
      exact unpack_packedZero
    rw [toRat?, Binary.ofFloat, habs, abs_zero]
    rfl
  · have hpacked : UnpackedFloat.pack .binary64 (.finite s m q hm) =
        x.toModel.toBits.toBitVec := by
      rw [← hu]
      exact pack_unpack_of_valid x.toModel.valid
    have habs : x.abs.toModel.unpack = .finite .positive m q hm := by
      change (Float.Model.pack x.toModel.unpack.abs).unpack = _
      rw [hu]
      change UnpackedFloat.unpack .binary64
        (UnpackedFloat.pack .binary64 (.finite .positive m q hm)) = _
      rw [pack_finite s, hpacked]
      exact unpack_packComponents .positive hu
    have hpos : (0 : ℚ) < m * 2 ^ q := by positivity
    rw [toRat?, Binary.ofFloat, habs]
    cases s with
    | negative => exact congrArg some ((abs_neg _).trans (abs_of_pos hpos)).symm
    | positive => exact congrArg some (abs_of_pos hpos).symm

/-- **Equal numbers differ by nothing.** -/
theorem abs_sub_of_beq {x y : Float} (hx : x.isFinite = true) (h : (x == y) = true) :
    (x - y).abs = 0 := by
  rcases Float.beq_iff_ne_nan_and_eq.mp h with ⟨-, -, rfl | ⟨rfl, rfl⟩ | ⟨rfl, rfl⟩⟩
  · have hsub :
        UnpackedFloat.sub .binary64 x.toModel.unpack x.toModel.unpack = .zero .positive := by
      rw [Float.isFinite, Float.Model.isFinite] at hx
      rcases hu : x.toModel.unpack with s | _ | s | ⟨s, m, q, hm⟩
      · rw [hu] at hx
        cases hx
      · rw [hu] at hx
        cases hx
      · cases s <;> rfl
      · simp [UnpackedFloat.sub, UnpackedFloat.normalize]
    change (Float.ofModel (Float.Model.pack
      (UnpackedFloat.sub .binary64 x.toModel.unpack x.toModel.unpack))).abs = 0
    rw [hsub]
    decide
  · decide
  · decide

end Number

end DataQuality
