import DataQuality.Number.Layout
import DataQuality.Proofs.Number.Literal
import DataQuality.Proofs.Number.Shortest

/-!
# A written float tells which float it is

A layout moves the digits of a decimal about, adds zeros to them and may write a power of ten behind
them, but the number that the literal denotes is the decimal
(`DataQuality.Layout.magnitude_literal`). Since a float can be told from its shortest decimal, it
can be told from its literal (`DataQuality.Layout.ofFloat?_injective`), the two zeros by their
sign. This is so for every layout: for the one of documents, the one of log events and the one for
people.
-/

namespace DataQuality

/-! ### The value of a literal -/

/-- The **magnitude** that a literal denotes. -/
def Literal.magnitude (l : Literal) : ℚ := l.significand * (10 : ℚ) ^ l.scale

/-- A literal denotes a decimal if it has the digits of it and `f` zeros behind them, and a scale
that is lower by as much. -/
theorem Literal.magnitude_eq_toRat {l : Literal} {d : Decimal} (f : Nat)
    (hdigits : l.significand = d.significand * 10 ^ f) (hscale : l.scale = d.exponent - f) :
    l.magnitude = d.toRat := by
  have hten : (10 : ℚ) ^ f ≠ 0 := by positivity
  calc l.magnitude
      = (d.significand * 10 ^ f) * (10 : ℚ) ^ (d.exponent - f) := by
        rw [magnitude, hdigits, hscale, Nat.cast_mul, Nat.cast_pow, Nat.cast_ofNat]
    _ = (d.significand * 10 ^ f) * ((10 : ℚ) ^ d.exponent / 10 ^ f) := by
        rw [zpow_sub₀ (by norm_num), zpow_natCast]
    _ = d.toRat := by
        rw [Decimal.toRat, mul_assoc, mul_div_cancel₀ _ hten]

/-- The digits of a number with zeros before and behind them. -/
theorem Digit.value_pad (k : Nat) (ds : List Digit) (f : Nat) :
    value (List.replicate k zero ++ ds ++ List.replicate f zero) = value ds * 10 ^ f := by
  rw [value_append, value_append, value_replicate_zero, value_replicate_zero, Nat.zero_mul,
    Nat.zero_add, Nat.add_zero, List.length_replicate]

namespace Layout

variable (layout : Layout)

/-- The fraction of a whole number consists of zeros. -/
theorem exists_emptyFraction_eq :
    ∃ f, layout.emptyFraction.getD [] = List.replicate f Digit.zero := by
  unfold emptyFraction
  split
  · exact ⟨1, rfl⟩
  · exact ⟨0, rfl⟩

/-- Digits in their places denote the decimal. -/
theorem magnitude_place (sign : Option Sign) (d : Decimal) :
    (layout.place sign d).magnitude = d.toRat := by
  obtain ⟨n, e⟩ := d
  unfold place
  dsimp only
  split
  · next he =>
    -- the zeros on both sides of the point change digits and scale together
    obtain ⟨k, rfl⟩ := Int.eq_ofNat_of_zero_le he
    obtain ⟨f, hf⟩ := layout.exists_emptyFraction_eq
    rw [Int.toNat_natCast]
    refine Literal.magnitude_eq_toRat (k + f) ?_ ?_
    · have hpad := Digit.value_pad 0 (Digit.ofNat n) (k + f)
      rw [List.replicate_zero, List.nil_append, Digit.value_ofNat, List.replicate_add,
        ← List.append_assoc] at hpad
      rw [Literal.significand, Literal.fractionDigits, hf, hpad]
    · rw [Literal.scale, Literal.fractionDigits, hf, List.length_replicate]
      dsimp only
      omega
  · next he =>
    split
    · next hplaces =>
      -- the point stands among the digits
      refine Literal.magnitude_eq_toRat 0 ?_ ?_
      · rw [Literal.significand, Literal.fractionDigits, Option.getD_some, List.take_append_drop,
          Digit.value_ofNat, Nat.pow_zero, Nat.mul_one]
      · rw [Literal.scale, Literal.fractionDigits, Option.getD_some, List.length_drop]
        dsimp only
        omega
    · next hplaces =>
      -- zeros stand between the point and the digits
      refine Literal.magnitude_eq_toRat 0 ?_ ?_
      · have hpad := Digit.value_pad (1 + ((-e).toNat - (Digit.ofNat n).length)) (Digit.ofNat n) 0
        rw [List.replicate_zero, List.append_nil, List.replicate_add, Digit.value_ofNat,
          List.append_assoc] at hpad
        rw [Literal.significand, Literal.fractionDigits, Option.getD_some]
        exact hpad
      · rw [Literal.scale, Literal.fractionDigits, Option.getD_some, List.length_append,
          List.length_replicate]
        dsimp only
        omega

/-- A written power of ten denotes its exponent, with or without a plus. -/
theorem value_exponent (lead : Int) :
    (Exponent.mk
      (if lead < 0 then some .minus else if layout.signsExponent then some .plus else none)
      (Digit.ofNat lead.natAbs)).value = lead := by
  by_cases hlead : lead < 0
  · simp only [Exponent.value, hlead, if_true, Digit.value_ofNat]
    omega
  · cases layout.signsExponent <;>
      simp only [Exponent.value, hlead, if_false, if_true, Bool.false_eq_true,
        Digit.value_ofNat] <;>
      omega

/-- Digits with a power of ten denote the decimal. -/
theorem magnitude_scientific (sign : Option Sign) (n : Nat) (e : Int) :
    (layout.scientific sign (Digit.ofNat n) (e + (Digit.ofNat n).length - 1)).magnitude =
      (Decimal.mk n e).toRat := by
  have hlength : 0 < (Digit.ofNat n).length := List.length_pos_iff.mpr (Digit.ofNat_ne_nil n)
  have hfraction : (if ((Digit.ofNat n).drop 1).isEmpty then none
      else some ((Digit.ofNat n).drop 1)).getD [] = (Digit.ofNat n).drop 1 := by
    split
    · next h => exact (List.isEmpty_iff.mp h).symm
    · rfl
  refine Literal.magnitude_eq_toRat 0 ?_ ?_
  · rw [scientific, Literal.significand, Literal.fractionDigits, hfraction, List.take_append_drop,
      Digit.value_ofNat, Nat.pow_zero, Nat.mul_one]
  · rw [scientific, Literal.scale, Literal.fractionDigits, hfraction, List.length_drop]
    dsimp only
    rw [layout.value_exponent]
    omega

/-- **A laid-out literal denotes its decimal**, whatever the layout. -/
theorem magnitude_literal (negative : Bool) (d : Decimal) :
    (layout.literal negative d).magnitude = d.toRat := by
  unfold literal
  dsimp only
  split
  · exact layout.magnitude_place _ d
  · exact layout.magnitude_scientific _ d.significand d.exponent

/-! ### What a layout writes -/

theorem sign_place (sign : Option Sign) (d : Decimal) : (layout.place sign d).sign = sign := by
  unfold place
  dsimp only
  split
  · rfl
  · split <;> rfl

theorem sign_literal (negative : Bool) (d : Decimal) :
    (layout.literal negative d).sign = if negative then some .minus else none := by
  unfold literal
  dsimp only
  split
  · exact layout.sign_place _ d
  · rfl

theorem isWhole_place (sign : Option Sign) (d : Decimal) : (layout.place sign d).IsWhole := by
  have hdigits := Digit.ofNat_ne_nil d.significand
  unfold place
  dsimp only
  split
  · refine ⟨?_, by simp⟩
    simp [hdigits]
  · split
    · refine ⟨?_, by simp⟩
      simp only [ne_eq, List.take_eq_nil_iff, hdigits, or_false]
      omega
    · exact ⟨List.cons_ne_nil _ _, by simp⟩

/-- **Nothing is missing** in what a layout writes. -/
theorem isWhole_literal (negative : Bool) (d : Decimal) : (layout.literal negative d).IsWhole := by
  unfold literal
  dsimp only
  split
  · exact layout.isWhole_place _ d
  · refine ⟨?_, ?_⟩
    · simp [scientific, Digit.ofNat_ne_nil]
    · intro e he
      obtain rfl := Option.some.inj he
      exact Digit.ofNat_ne_nil _

/-! ### Floats -/

variable {layout}

theorem ofFloat?_eq_none_iff {x : Float} : layout.ofFloat? x = none ↔ x.isFinite = false := by
  rw [← Bool.not_eq_true, Binary.isFinite_iff, ofFloat?]
  cases Binary.ofFloat x <;> simp

theorem isWhole_ofFloat? {x : Float} {l : Literal} (h : layout.ofFloat? x = some l) :
    l.IsWhole := by
  unfold ofFloat? at h
  split at h
  · exact absurd h (by simp)
  · exact absurd h (by simp)
  · obtain rfl := Option.some.inj h
    exact layout.isWhole_place _ _
  · obtain rfl := Option.some.inj h
    exact layout.isWhole_literal _ _

/-- What the literal of a float says of its sign and of its magnitude. -/
theorem ofFloat?_eq_some {x : Float} {l : Literal} (h : layout.ofFloat? x = some l) :
    ∃ negative, l.sign = (if negative then some .minus else none) ∧
      ((Binary.ofFloat x = .zero negative ∧ l.magnitude = 0) ∨
        ∃ m q, Binary.ofFloat x = .finite negative m q ∧
          l.magnitude = (shortest layout.tie m q).toRat) := by
  unfold ofFloat? at h
  split at h
  · exact absurd h (by simp)
  · exact absurd h (by simp)
  · next negative hzero =>
    obtain rfl := Option.some.inj h
    refine ⟨negative, layout.sign_place _ _, .inl ⟨hzero, ?_⟩⟩
    rw [magnitude_place, Decimal.toRat, Nat.cast_zero, zero_mul]
  · next negative m q hfinite =>
    obtain rfl := Option.some.inj h
    exact ⟨negative, layout.sign_literal _ _,
      .inr ⟨m, q, hfinite, layout.magnitude_literal _ _⟩⟩

/-- **A float can be told from its literal**: from the sign and from the magnitude, which is zero
for the zeros only. -/
theorem ofFloat?_injective {x y : Float} {l : Literal} (hx : layout.ofFloat? x = some l)
    (hy : layout.ofFloat? y = some l) : x = y := by
  obtain ⟨negative, hsign, hmagnitude⟩ := ofFloat?_eq_some hx
  obtain ⟨negative', hsign', hmagnitude'⟩ := ofFloat?_eq_some hy
  obtain rfl : negative = negative' := by
    rw [hsign] at hsign'
    cases negative <;> cases negative' <;> first | rfl | exact absurd hsign' (by decide)
  have hpos : ∀ {z : Float} {m q}, Binary.ofFloat z = .finite negative m q →
      0 < (shortest layout.tie m q).toRat := fun hz =>
    have hm := (Binary.isCanonical_of_ofFloat hz).pos
    RoundingInterval.pos_of_covers hm (covers_shortest _ hm _)
  apply Binary.ofFloat_injective
  rcases hmagnitude with ⟨hzero, hl⟩ | ⟨m, q, hfinite, hl⟩
  · rcases hmagnitude' with ⟨hzero', -⟩ | ⟨m', q', hfinite', hl'⟩
    · rw [hzero, hzero']
    · exact absurd (hl.symm.trans hl') (hpos hfinite').ne
  · rcases hmagnitude' with ⟨-, hl'⟩ | ⟨m', q', hfinite', hl'⟩
    · exact absurd (hl'.symm.trans hl) (hpos hfinite).ne
    · obtain ⟨rfl, rfl⟩ := shortest_injective (Binary.isCanonical_of_ofFloat hfinite)
        (Binary.isCanonical_of_ofFloat hfinite') (hl.symm.trans hl')
      rw [hfinite, hfinite']

end Layout

end DataQuality
