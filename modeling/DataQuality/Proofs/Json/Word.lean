import DataQuality.Proofs.Json.RoundTrip

/-!
# Natural numbers in JSON documents

A natural number below `2 ^ 64` is written by its digits, which the strict reader takes
(`DataQuality.Json.readableAtom_ofNat`) and which denote the number again
(`DataQuality.Json.word?_ofNat`). Digits of a natural number do not begin with a zero, unless there
is only one of them, and as long as the number fits into 64 bits none of them is merely counted.
-/

namespace DataQuality

/-! ### The first digit -/

namespace Digit

theorem getLast?_ofNatRev {n : Nat} {d : Digit} (h : (ofNatRev n).getLast? = some d) :
    d ≠ zero := by
  induction n using Nat.strongRecOn with
  | _ n ih =>
    rw [ofNatRev] at h
    split at h
    · exact absurd h (by simp)
    · next hn =>
      by_cases hsmall : n / 10 = 0
      · -- a single digit, which is the number itself
        have hnil : ofNatRev (n / 10) = [] := by rw [hsmall, ofNatRev, dif_pos rfl]
        rw [hnil, List.getLast?_singleton, Option.some.injEq] at h
        rintro rfl
        have hzero : n % 10 = 0 := congrArg Fin.val h
        omega
      · rw [List.getLast?_cons_of_ne_nil (ofNatRev_ne_nil hsmall)] at h
        exact ih (n / 10) (by omega) h

/-- **The digits of a number do not begin with a zero**, unless the number is zero. -/
theorem head?_ofNat {n : Nat} (h : n ≠ 0) {d : Digit} (hd : (ofNat n).head? = some d) :
    d ≠ zero := by
  rw [ofNat, if_neg h, List.head?_reverse] at hd
  exact getLast?_ofNatRev hd

end Digit

namespace Json

theorem isNumber_ofNat (n : Nat) : isNumber (.ofNat n) = true := by
  by_cases h : n = 0
  · subst h
    decide
  · have hfirst := @Digit.head?_ofNat n h
    have hne := Digit.ofNat_ne_nil n
    simp only [isNumber, Literal.ofNat]
    generalize Digit.ofNat n = ds at hfirst hne
    match ds with
    | [] => exact absurd rfl hne
    | [_] => rfl
    | d :: _ :: _ => simp [hfirst rfl]

/-! ### Collecting the digits -/

/-- Further digits do not make a number smaller. -/
theorem le_foldl_digits (n : Nat) (ds : List Digit) :
    n ≤ ds.foldl (fun n d => 10 * n + d.val) n := by
  induction ds generalizing n with
  | nil => exact Nat.le_refl n
  | cons d ds ih => exact Nat.le_trans (by omega) (ih (10 * n + d.val))

/-- **All digits are collected** when the number fits. -/
theorem collectWhole_eq {n : Nat} {ds : List Digit}
    (h : ds.foldl (fun n d => 10 * n + d.val) n ≤ wordMax) :
    collectWhole n ds = (ds.foldl (fun n d => 10 * n + d.val) n, 0) := by
  induction ds generalizing n with
  | nil => rfl
  | cons d ds ih =>
    have hle : 10 * n + d.val ≤ wordMax := Nat.le_trans (le_foldl_digits _ ds) h
    rw [collectWhole, if_pos hle, ih h, List.foldl_cons]

theorem isSome_numberValue?_ofNat {n : Nat} (h : n ≤ wordMax) :
    (numberValue? (.ofNat n)).isSome = true := by
  have hvalue : (Digit.ofNat n).foldl (fun n d => 10 * n + d.val) 0 = n := Digit.value_ofNat n
  have hcollect := @collectWhole_eq 0 (Digit.ofNat n) (by rwa [hvalue])
  simp [numberValue?, stepwise?, Literal.ofNat, hcollect, Literal.fractionDigits, collectFraction,
    scale?]

/-! ### Identities -/

theorem toNat_le_wordMax (n : UInt64) : n.toNat ≤ wordMax := Nat.le_pred_of_lt n.toNat_lt

/-- The strict reader takes every number of 64 bits. -/
theorem readableAtom_ofNat (n : UInt64) : ReadableAtom (.ofNat n.toNat) :=
  .number ⟨Digit.ofNat_ne_nil _, fun _ he => absurd he (by simp [Literal.ofNat])⟩
    (isNumber_ofNat _) (isSome_numberValue?_ofNat (toNat_le_wordMax n))

/-- **A number of 64 bits is read back.** -/
theorem word?_ofNat (n : UInt64) : word? (.ofNat n.toNat) = some n := by
  have hdigits : (Digit.ofNat n.toNat).isEmpty = false := by
    simpa using Digit.ofNat_ne_nil n.toNat
  simp [word?, Literal.ofNat, Literal.isNatural, hdigits, Digit.value_ofNat, toNat_le_wordMax]

end Json

end DataQuality
