import DataQuality.Proofs.Number.Cell
import DataQuality.Proofs.Number.Value

/-!
# A displayed number tells which number it is

A float can be told from its text in any layout (`DataQuality.Number.write_injective`): a text with
digits has one reading as a literal, and the three texts without digits have letters in them that
no literal has. What a cell displays is the plain text, except that a zero has no sign there. So two
numbers are displayed alike exactly when they are equal as numbers, or both no numbers
(`DataQuality.Number.display_eq_iff`).
-/

namespace DataQuality

/-- **A literal can be told from its text.** -/
theorem Literal.eq_of_text_eq {l l' : Literal} (h : l.IsWhole) (h' : l'.IsWhole)
    (htext : l.text = l'.text) : l = l' := by
  have hchars : l.chars = l'.chars := by
    rw [text, text] at htext
    exact String.ofList_injective htext
  have hscan := scan_chars h ends_nil
  rw [hchars, scan_chars h' ends_nil] at hscan
  exact (Prod.mk.inj hscan).1.symm

namespace Number

/-! ### Texts without digits -/

/-- What has no digits is no number or an infinity, and **has a text of its own**. -/
theorem specialText_cases {x : Float} (h : x.isFinite = false) :
    Binary.ofFloat x = .nan ∧ specialText x = "NaN" ∨
      Binary.ofFloat x = .infinite true ∧ specialText x = "-inf" ∨
      Binary.ofFloat x = .infinite false ∧ specialText x = "inf" := by
  have hzero : (0 : Float).toModel.unpack = .zero .positive := rfl
  rw [Float.isFinite, Float.Model.isFinite] at h
  simp only [Binary.ofFloat, specialText, Float.isNaN, Float.Model.isNaN, lt_iff_compare, hzero]
  rcases hu : x.toModel.unpack with s | _ | s | ⟨s, m, q, hm⟩
  · cases s with
    | negative => exact .inr (.inl ⟨rfl, rfl⟩)
    | positive => exact .inr (.inr ⟨rfl, rfl⟩)
  · exact .inl ⟨rfl, rfl⟩
  · rw [hu] at h
    cases h
  · rw [hu] at h
    cases h

/-- A text without digits has **a letter that is in no literal**. -/
theorem specialText_ne_text {x : Float} (h : x.isFinite = false) (l : Literal) :
    specialText x ≠ l.text := by
  have hletter : ∀ {c : Char}, (∀ d : Digit, c ≠ d.char) → c ∉ ['+', '-', '.', 'e'] →
      c ∈ (specialText x).toList → specialText x ≠ l.text := by
    intro c hdigit hmark hmem htext
    rw [htext, Literal.text, String.toList_ofList] at hmem
    exact Literal.notMem_chars hdigit hmark l hmem
  rcases specialText_cases h with ⟨-, htext⟩ | ⟨-, htext⟩ | ⟨-, htext⟩
  · exact hletter (c := 'N') (by decide) (by decide) (by simp [htext])
  · exact hletter (c := 'n') (by decide) (by decide) (by simp [htext])
  · exact hletter (c := 'n') (by decide) (by decide) (by simp [htext])

theorem specialText_injective {x y : Float} (hx : x.isFinite = false) (hy : y.isFinite = false)
    (h : specialText x = specialText y) : x = y := by
  apply Binary.ofFloat_injective
  rcases specialText_cases hx with ⟨hbinary, htext⟩ | ⟨hbinary, htext⟩ | ⟨hbinary, htext⟩ <;>
    rcases specialText_cases hy with
      ⟨hbinary', htext'⟩ | ⟨hbinary', htext'⟩ | ⟨hbinary', htext'⟩ <;>
    rw [htext, htext'] at h <;>
    first
      | exact absurd h (by decide)
      | rw [hbinary, hbinary']

/-! ### Telling floats apart -/

/-- **A float can be told from its text**, whatever the layout. -/
theorem write_injective (layout : Layout) : Function.Injective (write layout) := by
  intro x y h
  rw [write, write] at h
  cases hx : layout.ofFloat? x with
  | none =>
    have hxinfinite := Layout.ofFloat?_eq_none_iff.mp hx
    cases hy : layout.ofFloat? y with
    | none =>
      rw [hx, hy] at h
      exact specialText_injective hxinfinite (Layout.ofFloat?_eq_none_iff.mp hy) h
    | some l =>
      rw [hx, hy] at h
      exact absurd h (specialText_ne_text hxinfinite l)
  | some l =>
    cases hy : layout.ofFloat? y with
    | none =>
      rw [hx, hy] at h
      exact absurd h.symm (specialText_ne_text (Layout.ofFloat?_eq_none_iff.mp hy) l)
    | some l' =>
      rw [hx, hy] at h
      have hl := Layout.isWhole_ofFloat? hx
      have hl' := Layout.isWhole_ofFloat? hy
      obtain rfl := Literal.eq_of_text_eq hl hl' h
      exact Layout.ofFloat?_injective hx hy

/-! ### Displayed numbers -/

/-- Two floats that are **the same number**, or both no numbers. A zero has no sign. -/
def Same (x y : Float) : Prop := (x == y) = true ∨ x.isNaN = true ∧ y.isNaN = true

/-- A float whose zero has no sign. -/
def unsignedZero (x : Float) : Float := if x == 0 then 0 else x

theorem display_eq_plain (x : Float) : display x = plain (unsignedZero x) := by
  rw [display, unsignedZero]
  split
  · decide
  · rfl

/-- Taking the sign off zeros identifies **the same numbers**. -/
theorem unsignedZero_eq_iff {x y : Float} : unsignedZero x = unsignedZero y ↔ Same x y := by
  have hzero : ∀ {z : Float}, (z == 0) = true → z = 0 ∨ z = -0 := by
    intro z hz
    rcases Float.beq_iff_ne_nan_and_eq.mp hz with ⟨-, -, h | ⟨h, -⟩ | ⟨h, -⟩⟩
    · exact .inl h
    · exact .inl h
    · exact .inr h
  constructor
  · intro h
    rw [unsignedZero, unsignedZero] at h
    split at h
    · next hx =>
      left
      split at h
      · next hy =>
        rcases hzero hx with rfl | rfl <;> rcases hzero hy with rfl | rfl <;> decide
      · rwa [← h]
    · next hx =>
      split at h
      · next hy =>
        rw [h] at hx
        exact absurd (by decide) hx
      · obtain rfl := h
        rcases Decidable.em (x = Float.nan) with hnan | hnumber
        · exact .inr ⟨isNaN_iff.mpr hnan, isNaN_iff.mpr hnan⟩
        · exact .inl (Float.beq_iff_ne_nan_and_eq.mpr ⟨hnumber, hnumber, .inl rfl⟩)
  · rintro (h | ⟨hx, hy⟩)
    · rcases Float.beq_iff_ne_nan_and_eq.mp h with ⟨-, -, rfl | ⟨rfl, rfl⟩ | ⟨rfl, rfl⟩⟩
      · rfl
      · decide
      · decide
    · rw [isNaN_iff.mp hx, isNaN_iff.mp hy]

/-- **Numbers are displayed alike exactly when they are the same.** -/
theorem display_eq_iff {x y : Float} : display x = display y ↔ Same x y := by
  rw [display_eq_plain, display_eq_plain, ← unsignedZero_eq_iff]
  exact (write_injective .plain).eq_iff

end Number

end DataQuality
