import DataQuality.Number.Rounding
import Mathlib

/-!
# Floats and their parts

A float is its sixty-four bits, and `DataQuality.Binary` is what these bits stand for. This file
says that nothing is lost on the way from the one to the other
(`DataQuality.Binary.ofFloat_injective`), and that a number comes out in its one canonical form
(`DataQuality.Binary.isCanonical_of_ofFloat`).
-/

namespace DataQuality.Binary

open Float.Model Float.Model.UnpackedFloat

/-! ### Telling floats apart -/

theorem isMinus_injective {s t : UnpackedFloat.Sign} (h : isMinus s = isMinus t) : s = t := by
  cases s with
  | negative => cases t with
    | negative => rfl
    | positive => exact absurd h (by decide)
  | positive => cases t with
    | negative => exact absurd h (by decide)
    | positive => rfl

theorem eq_of_unpack_eq {x y : Float} (h : x.toModel.unpack = y.toModel.unpack) : x = y :=
  Float.toBits_inj.mp (UInt64.toBitVec_inj.mp
    ((unpack_inj_of_valid x.toModel.valid y.toModel.valid).mp h))

/-- **A float can be told from its parts.** -/
theorem ofFloat_injective {x y : Float} (h : ofFloat x = ofFloat y) : x = y := by
  apply eq_of_unpack_eq
  unfold ofFloat at h
  generalize x.toModel.unpack = u at h ⊢
  generalize y.toModel.unpack = v at h ⊢
  cases u with
  | notANumber =>
    cases v with
    | notANumber => rfl
    | _ => exact absurd h (by simp)
  | infinity s =>
    cases v with
    | infinity t => rw [isMinus_injective (Binary.infinite.inj h)]
    | _ => exact absurd h (by simp)
  | zero s =>
    cases v with
    | zero t => rw [isMinus_injective (Binary.zero.inj h)]
    | _ => exact absurd h (by simp)
  | finite s m q hm =>
    cases v with
    | finite t m' q' hm' =>
      obtain ⟨hsign, rfl, rfl⟩ := Binary.finite.inj h
      rw [isMinus_injective hsign]
    | _ => exact absurd h (by simp)

theorem isFinite_iff {x : Float} :
    x.isFinite = true ↔ ofFloat x ≠ .nan ∧ ∀ negative, ofFloat x ≠ .infinite negative := by
  rw [Float.isFinite, Float.Model.isFinite, ofFloat]
  cases x.toModel.unpack <;> simp [UnpackedFloat.isFinite]

/-! ### Canonical forms -/

/-- The **canonical form** of a number `m · 2 ^ q`: fifty-three bits, the first of which is one
unless the exponent is the least there is. -/
structure IsCanonical (m : Nat) (q : Int) : Prop where
  /-- The number is not zero. -/
  pos : 0 < m
  /-- The mantissa has at most fifty-three bits. -/
  lt : m < 2 ^ 53
  /-- The exponent is not too small. -/
  bottom : -1074 ≤ q
  /-- Above the least exponent there are no fewer bits. -/
  full : -1074 < q → 2 ^ 52 ≤ m

/-- A bit pattern with the least exponent has no more than the written bits of its mantissa; with
any other one it has one more, which is not written. -/
theorem isCanonical_of_unpack {b : BitVec Format.binary64.numBits} {s : UnpackedFloat.Sign}
    {m : Nat} {q : Int} {hm : 0 < m}
    (h : UnpackedFloat.unpack .binary64 b = .finite s m q hm) : IsCanonical m q := by
  have hbias : (Format.binary64.exponentBias : Int) + Format.binary64.mantissaBitsWithoutImplicit =
      1075 := rfl
  have hwritten : (unpackMantissa b).toNat < 2 ^ 52 := (unpackMantissa b).isLt
  rw [UnpackedFloat.unpack] at h
  split at h
  · split at h
    · exact absurd h (by simp)
    · exact absurd h (by simp)
  · split at h
    · next hexponent =>
      -- subnormal: the mantissa as written, with the least exponent
      split at h
      · exact absurd h (by simp)
      · simp only [hbias, hexponent] at h
        obtain ⟨-, rfl, rfl⟩ := UnpackedFloat.finite.inj h
        exact ⟨hm, by omega, by decide, fun hq => absurd hq (by decide)⟩
    · next hbottom =>
      -- normal: one bit more, in front
      have hlow : 0 < (unpackExponent b).toNat :=
        Nat.pos_of_ne_zero fun h => hbottom (BitVec.eq_of_toNat_eq h)
      have hmantissa : (1#1 ++ unpackMantissa b).toNat = 2 ^ 52 + (unpackMantissa b).toNat := by
        rw [BitVec.toNat_append, ← Nat.shiftLeft_add_eq_or_of_lt (unpackMantissa b).isLt]
        rfl
      simp only [hbias, hmantissa] at h
      obtain ⟨-, rfl, rfl⟩ := UnpackedFloat.finite.inj h
      exact ⟨hm, by omega, by omega, fun _ => by omega⟩

/-- **A float that is a number comes out in its canonical form.** -/
theorem isCanonical_of_ofFloat {x : Float} {negative : Bool} {m : Nat} {q : Int}
    (h : ofFloat x = .finite negative m q) : IsCanonical m q := by
  unfold ofFloat at h
  split at h
  · exact absurd h (by simp)
  · exact absurd h (by simp)
  · exact absurd h (by simp)
  · next hunpack =>
    obtain ⟨-, rfl, rfl⟩ := Binary.finite.inj h
    exact isCanonical_of_unpack hunpack

end DataQuality.Binary
