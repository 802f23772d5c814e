import DataQuality.Rule.Basic
import Mathlib.Data.List.DropRight

/-!
# The identifiers of operators

An operator is read leniently and written by its identifier. This file says that reading the
identifier of an operator that was read gives the operator again
(`DataQuality.Operator.parse_id_parse`, `DataQuality.AggregateOperator.parse_id_parse`), so the
operators that some text names are those that their own identifiers name
(`DataQuality.Operator.isNamed_iff`).

There are two reasons. The identifiers of known operators name these operators, which is a matter of
looking. The name of an unknown operator is its text without blank characters around it, and a text
names what it names without them, since they are taken away first anyway.
-/

namespace DataQuality

/-! ### Trimming twice -/

namespace Text

theorem trimEndChars_eq (cs : List Char) : trimEndChars cs = cs.rdropWhile isBlank := rfl

/-- A text that begins with no blank character still does so when its end is trimmed. -/
theorem trimStartChars_trimEndChars {cs : List Char} (h : trimStartChars cs = cs) :
    trimStartChars (trimEndChars cs) = trimEndChars cs := by
  rw [trimStartChars, List.dropWhile_eq_self_iff] at h ⊢
  intro hpos
  have hprefix : trimEndChars cs <+: cs := List.rdropWhile_prefix isBlank cs
  have hfirst := hprefix.getElem hpos
  rw [hfirst]
  exact h (Nat.lt_of_lt_of_le hpos hprefix.length_le)

/-- **Trimming a second time changes nothing.** -/
theorem trimChars_trimChars (cs : List Char) : trimChars (trimChars cs) = trimChars cs := by
  have hstart : trimStartChars (trimStartChars cs) = trimStartChars cs :=
    List.dropWhile_idempotent isBlank cs
  rw [trimChars, trimChars, trimStartChars_trimEndChars hstart, trimEndChars_eq, trimEndChars_eq,
    List.rdropWhile_idempotent]

@[simp] theorem trim_trim (s : String) : trim (trim s) = trim s := by
  rw [trim, toList_trim, trimChars_trimChars, trim]

end Text

/-- Blank characters around an identifier do not matter. -/
@[simp] theorem normalizeId_trim (raw : String) :
    normalizeId (Text.trim raw) = normalizeId raw := by
  rw [normalizeId, Text.trim_trim, normalizeId]

theorem Comparator.parse?_id (c : Comparator) : parse? c.id = some c := by
  cases c <;> decide +kernel

/-! ### Operators of row rules -/

namespace Operator

/-- **An operator that some text names.** -/
def IsNamed (op : Operator) : Prop := ∃ raw, parse raw = op

theorem isNamed_parse (raw : String) : (parse raw).IsNamed := ⟨raw, rfl⟩

@[simp] theorem parse_trim (raw : String) : parse (Text.trim raw) = parse raw := by
  unfold parse Comparator.parse?
  rw [normalizeId_trim, Text.trim_trim]

/-- The identifier of a known operator names it. -/
theorem parse_id {op : Operator} (h : op.isKnown = true) : parse op.id = op := by
  cases op with
  | compare c =>
    have hread : Comparator.parse? (compare c).id = some c := c.parse?_id
    unfold parse
    rw [hread]
  | unknown name => exact absurd h Bool.false_ne_true
  | _ => decide +kernel

/-- A text that names no known operator is the name of an unknown one. -/
theorem parse_eq_unknown {raw : String} (h : (parse raw).isKnown = false) :
    parse raw = .unknown (Text.trim raw) := by
  unfold parse at h ⊢
  split at h
  · exact Bool.noConfusion h
  · split at h
    · next op hlookup =>
      have hknown : ∀ entry ∈ named, entry.2.isKnown = true := by decide
      obtain ⟨before, after, hnamed, -⟩ := List.lookup_eq_some_iff.mp hlookup
      have hop := hknown (normalizeId raw, op) (by simp [hnamed])
      exact absurd (h.symm.trans hop) (by decide)
    · rfl

/-- **The identifier of an operator that was read names that operator.** -/
theorem parse_id_parse (raw : String) : parse (parse raw).id = parse raw := by
  cases hknown : (parse raw).isKnown with
  | true => exact parse_id hknown
  | false =>
    calc parse (parse raw).id = parse (Text.trim raw) := by rw [parse_eq_unknown hknown]; rfl
      _ = parse raw := parse_trim raw

theorem isNamed_iff {op : Operator} : op.IsNamed ↔ parse op.id = op := by
  constructor
  · rintro ⟨raw, rfl⟩
    exact parse_id_parse raw
  · exact fun h => ⟨op.id, h⟩

end Operator

/-! ### Operators of aggregate rules -/

namespace AggregateOperator

/-- **An aggregate operator that some text names.** -/
def IsNamed (op : AggregateOperator) : Prop := ∃ raw, parse raw = op

theorem isNamed_parse (raw : String) : (parse raw).IsNamed := ⟨raw, rfl⟩

@[simp] theorem parse_trim (raw : String) : parse (Text.trim raw) = parse raw := by
  rw [parse, normalizeId_trim, Text.trim_trim, parse]

/-- The identifier of a known operator names it. -/
theorem parse_id {op : AggregateOperator} (h : op.isKnown = true) : parse op.id = op := by
  cases op with
  | compare kind comparator => cases kind <;> cases comparator <;> decide +kernel
  | unknown name => exact absurd h Bool.false_ne_true

/-- A text that names no known operator is the name of an unknown one. -/
theorem parse_eq_unknown {raw : String} (h : (parse raw).isKnown = false) :
    parse raw = .unknown (Text.trim raw) := by
  unfold parse at h ⊢
  cases hop : ofNormalized? (normalizeId raw) with
  | none => rfl
  | some op =>
    have hknown : op.isKnown = true := by
      simp only [ofNormalized?, Option.bind_eq_bind, Option.bind_eq_some_iff, Option.pure_def,
        Option.some.injEq] at hop
      obtain ⟨_, -, kind, -, comparator, -, rfl⟩ := hop
      rfl
    rw [hop, Option.getD_some, hknown] at h
    exact absurd h (by decide)

/-- **The identifier of an operator that was read names that operator.** -/
theorem parse_id_parse (raw : String) : parse (parse raw).id = parse raw := by
  cases hknown : (parse raw).isKnown with
  | true => exact parse_id hknown
  | false =>
    calc parse (parse raw).id = parse (Text.trim raw) := by rw [parse_eq_unknown hknown]; rfl
      _ = parse raw := parse_trim raw

theorem isNamed_iff {op : AggregateOperator} : op.IsNamed ↔ parse op.id = op := by
  constructor
  · rintro ⟨raw, rfl⟩
    exact parse_id_parse raw
  · exact fun h => ⟨op.id, h⟩

end AggregateOperator

end DataQuality
