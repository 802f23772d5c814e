import DataQuality.Number.Literal
import Mathlib.Algebra.Ring.Nat
import Mathlib.Data.List.Induction

/-!
# Reading a written literal back

The scan for a literal takes a written literal off the front of a text, no more and no less
(`DataQuality.Literal.scan_chars`), as long as the text goes on with something that does not belong
to a literal. So a literal can be told from its characters, and a text with a literal in it has one
reading at that place.

What has to be there for this is `DataQuality.Literal.IsWhole`: digits before the point, since a
sign alone or an empty text would be taken for less or more than it is, and digits behind an `e`.
-/

namespace DataQuality

/-! ### Digits -/

namespace Digit

@[simp] theorem ofChar?_char (d : Digit) : ofChar? d.char = some d := by
  revert d
  decide

/-- Whether a text does **not begin with a digit**. -/
def Ends (cs : List Char) : Prop := ∀ c ∈ cs.head?, ofChar? c = none

/-- Written digits are scanned up to the first character that is no digit. -/
theorem scan_append (ds : List Digit) {rest : List Char} (h : Ends rest) :
    scan (ds.map char ++ rest) = (ds, rest) := by
  induction ds with
  | nil =>
    cases rest with
    | nil => rfl
    | cons c cs =>
      have hc : ofChar? c = none := h c rfl
      simp [scan, hc]
  | cons d ds ih => simp [scan, ih]

theorem ofNatRev_ne_nil {n : Nat} (h : n ≠ 0) : ofNatRev n ≠ [] := by
  rw [ofNatRev, dif_neg h]
  exact List.cons_ne_nil _ _

theorem ofNat_ne_nil (n : Nat) : ofNat n ≠ [] := by
  unfold ofNat
  split
  · exact List.cons_ne_nil _ _
  · next h => exact fun hnil => ofNatRev_ne_nil h (List.reverse_eq_nil_iff.mp hnil)

/-! ### The number of some digits -/

theorem value_append (ds es : List Digit) :
    value (ds ++ es) = value ds * 10 ^ es.length + value es := by
  induction es using List.reverseRecOn generalizing ds with
  | nil => simp [value]
  | append_singleton es e ih =>
    have hconcat : ∀ fs : List Digit, value (fs ++ [e]) = 10 * value fs + e.val := by
      intro fs
      simp [value]
    rw [← List.append_assoc, hconcat, ih, hconcat, List.length_append, List.length_singleton,
      Nat.pow_succ, Nat.mul_add, ← Nat.mul_assoc, Nat.mul_comm 10 (value ds), Nat.mul_assoc,
      Nat.mul_comm 10 (10 ^ es.length), Nat.add_assoc]

theorem value_replicate_zero (k : Nat) : value (List.replicate k zero) = 0 := by
  induction k with
  | zero => rfl
  | succ k ih =>
    rw [List.replicate_succ', value_append, ih]
    rfl

/-- The digits of a number denote that number. -/
theorem value_ofNat (n : Nat) : value (ofNat n) = n := by
  have hrev : ∀ n, value (ofNatRev n).reverse = n := by
    intro n
    induction n using Nat.strongRecOn with
    | _ n ih =>
      rw [ofNatRev]
      split
      · next h => exact h.symm
      · next h =>
        rw [List.reverse_cons, value_append, ih (n / 10) (by omega)]
        simp only [value, List.foldl_cons, List.foldl_nil, List.length_singleton]
        omega
  unfold ofNat
  split
  · next h => exact h.symm
  · exact hrev n

end Digit

/-! ### Literals -/

namespace Literal

/-- A literal with **nothing missing**: there are digits before the point, and digits in the
exponent. -/
structure IsWhole (l : Literal) : Prop where
  /-- There are digits before the point. -/
  whole : l.whole ≠ []
  /-- There are digits in the exponent. -/
  exponent : ∀ e ∈ l.exponent, e.digits ≠ []

/-- A character that a literal may go on with. -/
def continues (c : Char) : Bool := (Digit.ofChar? c).isSome || c = '.' || c = 'e' || c = 'E'

/-- Whether a text **does not go on with a literal** that stands before it. -/
def Ends (rest : List Char) : Prop := ∀ c ∈ rest.head?, continues c = false

theorem ends_nil : Ends [] := by
  intro c hc
  exact absurd hc (by simp)

theorem ends_cons {c : Char} (hc : continues c = false) (cs : List Char) : Ends (c :: cs) := by
  intro d hd
  rwa [← Option.some.inj hd]

/-- What does not go on with a literal does not begin with a digit. -/
theorem Ends.digits {rest : List Char} (h : Ends rest) : Digit.Ends rest := by
  intro c hc
  have hcontinues := h c hc
  rw [continues, Bool.or_eq_false_iff, Bool.or_eq_false_iff, Bool.or_eq_false_iff] at hcontinues
  exact Option.isNone_iff_eq_none.mp (Option.isSome_eq_false_iff.mp hcontinues.1.1.1)

/-- A written sign is scanned in front of a digit. -/
theorem sign_scan_append (sign : Option Sign) (d : Digit) (cs : List Char) :
    Sign.scan (signChars sign ++ d.char :: cs) = (sign, d.char :: cs) := by
  have hplus : d.char ≠ '+' := by
    revert d
    decide
  have hminus : d.char ≠ '-' := by
    revert d
    decide
  cases sign with
  | none =>
    rw [signChars, List.nil_append]
    unfold Sign.scan
    split
    · next heq => exact absurd (List.cons.inj heq).1 hplus
    · next heq => exact absurd (List.cons.inj heq).1 hminus
    · rfl
  | some s => cases s <;> rfl

/-- The characters of a fraction. -/
def fractionChars : Option (List Digit) → List Char
  | none => []
  | some ds => '.' :: ds.map Digit.char

/-- The characters of a power of ten. -/
def exponentChars : Option Exponent → List Char
  | none => []
  | some e => 'e' :: (signChars e.sign ++ e.digits.map Digit.char)

theorem chars_eq (l : Literal) :
    l.chars = signChars l.sign ++ (l.whole.map Digit.char ++
      (fractionChars l.fraction ++ exponentChars l.exponent)) := by
  simp only [chars, List.append_assoc]
  rfl

theorem scanExponent_append {exponent : Option Exponent} (h : ∀ e ∈ exponent, e.digits ≠ [])
    {rest : List Char} (hrest : Ends rest) :
    scanExponent (exponentChars exponent ++ rest) = (exponent, rest) := by
  cases exponent with
  | none =>
    cases rest with
    | nil => rfl
    | cons c cs =>
      have hcontinues := hrest c rfl
      have hletter : ¬(c = 'e' ∨ c = 'E') := by
        rintro (rfl | rfl) <;> exact absurd hcontinues (by decide)
      simp [exponentChars, scanExponent, hletter]
  | some e =>
    obtain ⟨sign, digits⟩ := e
    obtain ⟨d, ds, rfl⟩ := List.exists_cons_of_ne_nil (h _ rfl)
    have hscan := Digit.scan_append (d :: ds) hrest.digits
    rw [List.map_cons, List.cons_append] at hscan
    simp [exponentChars, scanExponent, sign_scan_append, hscan]

theorem scanFraction_append (fraction : Option (List Digit)) {rest : List Char}
    (hdigits : Digit.Ends rest) (hpoint : ∀ c ∈ rest.head?, c ≠ '.') :
    scanFraction (fractionChars fraction ++ rest) = (fraction, rest) := by
  cases fraction with
  | none =>
    rw [fractionChars, List.nil_append]
    unfold scanFraction
    split
    · exact absurd rfl (hpoint _ rfl)
    · rfl
  | some ds => simp [fractionChars, scanFraction, Digit.scan_append ds hdigits]

/-- **A written literal is scanned back**, up to the first character that it cannot go on with. -/
theorem scan_chars {l : Literal} (h : l.IsWhole) {rest : List Char} (hrest : Ends rest) :
    scan (l.chars ++ rest) = (l, rest) := by
  obtain ⟨sign, whole, fraction, exponent⟩ := l
  obtain ⟨d, ds, rfl⟩ := List.exists_cons_of_ne_nil h.whole
  -- what follows the whole part begins with a point, with an `e`, or as the rest does
  have hexponent : ∀ c ∈ (exponentChars exponent ++ rest).head?,
      Digit.ofChar? c = none ∧ c ≠ '.' := by
    cases exponent with
    | none =>
      intro c hc
      refine ⟨hrest.digits c hc, ?_⟩
      rintro rfl
      exact absurd (hrest '.' hc) (by decide)
    | some e =>
      intro c hc
      obtain rfl := Option.some.inj hc
      decide
  have hfraction : Digit.Ends (fractionChars fraction ++ (exponentChars exponent ++ rest)) := by
    cases fraction with
    | none => exact fun c hc => (hexponent c hc).1
    | some es =>
      intro c hc
      obtain rfl := Option.some.inj hc
      decide
  have hwhole := Digit.scan_append (d :: ds) hfraction
  have hsign := sign_scan_append sign d
    (ds.map Digit.char ++ (fractionChars fraction ++ (exponentChars exponent ++ rest)))
  rw [List.map_cons, List.cons_append] at hwhole
  simp only [scan, chars_eq, List.append_assoc, List.map_cons, List.cons_append, hsign, hwhole,
    scanFraction_append fraction (fun c hc => (hexponent c hc).1) (fun c hc => (hexponent c hc).2),
    scanExponent_append h.exponent hrest]

/-- A character that a literal may begin with. -/
def opens (c : Char) : Bool := (Digit.ofChar? c).isSome || c = '+' || c = '-'

theorem ne_of_opens {c d : Char} (hc : opens c = true) (hd : opens d = false) : c ≠ d := by
  rintro rfl
  exact absurd hc (by simp [hd])

theorem exists_chars_eq_cons {l : Literal} (h : l.IsWhole) :
    ∃ c cs, l.chars = c :: cs ∧ opens c = true := by
  obtain ⟨sign, whole, fraction, exponent⟩ := l
  obtain ⟨d, ds, rfl⟩ := List.exists_cons_of_ne_nil h.whole
  rw [chars_eq]
  cases sign with
  | none => exact ⟨d.char, _, rfl, by simp [opens]⟩
  | some s => exact ⟨s.char, _, rfl, by cases s <;> decide⟩

end Literal

end DataQuality
