import DataQuality.Row.Signature
import DataQuality.Proofs.Json.RoundTrip
import DataQuality.Proofs.Number.Layout

/-!
# What a signature tells of a row

A signature is a text, and two rows repeat one another when their texts are the same. This file
says what the text tells of the row: its names, their order, and of each cell
`DataQuality.Cell.shown`, which is the cell itself unless that is a number without digits: the
infinities and what is not a number are shown like nothing at all. So the signatures of two rows are
the same exactly when the rows show the same (`DataQuality.Row.signature_eq_iff`), and rows of
finite numbers can be told apart by them (`DataQuality.Row.signature_eq_iff_of_isFinite`).

The proof reads the text back. The reader of objects does not ask which reader it is given for the
values, so it is given one that takes every number (`DataQuality.Json.content?`); the range of a
number does not matter here.
-/

namespace DataQuality

/-! ### Reading the values of cells -/

namespace Json

/-- The value of a cell, read without a look at the range of numbers. Nothing but a number begins
with digits behind an optional sign. -/
def content? : ReaderOf Json := fun cs =>
  if (Literal.scan cs).1.whole.isEmpty then atom? cs
  else some (.number (Literal.scan cs).1, (Literal.scan cs).2)

theorem content?_of_not_digit {c : Char} (hplus : c ≠ '+') (hminus : c ≠ '-')
    (hdigit : Digit.ofChar? c = none) (cs : List Char) :
    content? (c :: cs) = atom? (c :: cs) := by
  have hsign : Sign.scan (c :: cs) = (none, c :: cs) := by
    unfold Sign.scan
    split
    · next heq => exact absurd (List.cons.inj heq).1 hplus
    · next heq => exact absurd (List.cons.inj heq).1 hminus
    · rfl
  simp [content?, Literal.scan, hsign, Digit.scan, hdigit]

theorem reads_content?_number {l : Literal} (h : l.IsWhole) : Reads content? (.number l) := by
  intro rest hrest
  have hscan := Literal.scan_chars h hrest
  have hwhole : l.whole.isEmpty = false := by
    simpa using h.whole
  simp [chars, content?, hscan, hwhole]

/-- **Every cell is read back from its JSON value.** -/
theorem reads_content? (c : Cell) : Reads content? c.toJson := by
  have hatom : ∀ (first : Char) (cs : List Char) (v : Json), ReadableAtom v →
      v.chars = first :: cs → first ≠ '+' → first ≠ '-' → Digit.ofChar? first = none →
      Reads content? v := by
    intro first cs v hv hchars hplus hminus hdigit rest hrest
    have hread := reads_atom? hv rest hrest
    rw [hchars, List.cons_append] at hread ⊢
    rw [content?_of_not_digit hplus hminus hdigit, hread]
  cases c with
  | null => exact hatom 'n' _ _ .null rfl (by decide) (by decide) (by decide)
  | bool b =>
    cases b with
    | true => exact hatom 't' _ _ (.bool true) rfl (by decide) (by decide) (by decide)
    | false => exact hatom 'f' _ _ (.bool false) rfl (by decide) (by decide) (by decide)
  | text s => exact hatom '"' _ _ (.string s) rfl (by decide) (by decide) (by decide)
  | number x =>
    rw [Cell.toJson, ofFloat]
    split
    · next l hl => exact reads_content?_number (Layout.isWhole_ofFloat? hl)
    · exact hatom 'n' _ _ .null rfl (by decide) (by decide) (by decide)

end Json

/-! ### What is shown of a cell -/

namespace Cell

/-- What a signature **shows** of a cell: a number without digits is shown as nothing. -/
def shown : Cell → Cell
  | .number x => if x.isFinite then .number x else .null
  | .null => .null
  | .bool b => .bool b
  | .text s => .text s

/-- A number cell is **finite**; any other cell is so anyway. -/
def isFinite : Cell → Bool
  | .number x => x.isFinite
  | .null => true
  | .bool _ => true
  | .text _ => true

theorem shown_of_isFinite {c : Cell} (h : c.isFinite = true) : c.shown = c := by
  cases c with
  | number x => exact if_pos h
  | _ => rfl

theorem toJson_number_of_isFinite {x : Float} (h : x.isFinite = true) :
    ∃ l, Layout.json.ofFloat? x = some l ∧ (number x).toJson = .number l := by
  cases hl : Layout.json.ofFloat? x with
  | none =>
    rw [Layout.ofFloat?_eq_none_iff, h] at hl
    exact absurd hl (by decide)
  | some l => exact ⟨l, rfl, by rw [toJson, Json.ofFloat, hl]⟩

theorem toJson_number_of_not_isFinite {x : Float} (h : ¬ x.isFinite = true) :
    (number x).toJson = .null := by
  have hnone : Layout.json.ofFloat? x = none :=
    Layout.ofFloat?_eq_none_iff.mpr (by simpa using h)
  rw [toJson, Json.ofFloat, hnone]

/-- The value of a cell depends on what is shown of it. -/
theorem toJson_shown (c : Cell) : c.shown.toJson = c.toJson := by
  cases c with
  | number x =>
    by_cases h : x.isFinite = true
    · rw [shown, if_pos h]
    · rw [shown, if_neg h, toJson_number_of_not_isFinite h, toJson]
  | _ => rfl

theorem isFinite_shown (c : Cell) : c.shown.isFinite = true := by
  cases c with
  | number x =>
    by_cases h : x.isFinite = true
    · rw [shown, if_pos h, isFinite, h]
    · rw [shown, if_neg h, isFinite]
  | _ => rfl

/-- Only numbers are shown as numbers. -/
theorem toJson_number_ne {x : Float} (h : x.isFinite = true) {d : Cell}
    (hd : ∀ y, d ≠ .number y) : (number x).toJson ≠ d.toJson := by
  obtain ⟨l, -, hjson⟩ := toJson_number_of_isFinite h
  rw [hjson]
  cases d with
  | number y => exact absurd rfl (hd y)
  | _ => exact Json.noConfusion

theorem eq_of_toJson_eq {c d : Cell} (hc : c.isFinite = true) (hd : d.isFinite = true)
    (h : c.toJson = d.toJson) : c = d := by
  cases c with
  | number x =>
    cases d with
    | number y =>
      obtain ⟨l, hl, hjson⟩ := toJson_number_of_isFinite hc
      obtain ⟨l', hl', hjson'⟩ := toJson_number_of_isFinite hd
      obtain rfl : l = l' := Json.number.inj (hjson.symm.trans (h.trans hjson'))
      rw [Layout.ofFloat?_injective hl hl']
    | _ => exact absurd h (toJson_number_ne hc fun _ => Cell.noConfusion)
  | null =>
    cases d with
    | null => rfl
    | number y => exact absurd h.symm (toJson_number_ne hd fun _ => Cell.noConfusion)
    | _ => exact Json.noConfusion h
  | bool b =>
    cases d with
    | bool b' => rw [Json.bool.inj h]
    | number y => exact absurd h.symm (toJson_number_ne hd fun _ => Cell.noConfusion)
    | _ => exact Json.noConfusion h
  | text s =>
    cases d with
    | text s' => rw [Json.string.inj h]
    | number y => exact absurd h.symm (toJson_number_ne hd fun _ => Cell.noConfusion)
    | _ => exact Json.noConfusion h

/-- **The value of a cell tells what is shown of it**, and nothing else. -/
theorem toJson_eq_iff {c d : Cell} : c.toJson = d.toJson ↔ c.shown = d.shown := by
  constructor
  · intro h
    rw [← toJson_shown c, ← toJson_shown d] at h
    exact eq_of_toJson_eq (isFinite_shown c) (isFinite_shown d) h
  · intro h
    rw [← toJson_shown c, ← toJson_shown d, h]

/-- Cells that **coincide**: of one kind and with one content, number cells with one bit pattern. -/
inductive Coincides : Cell → Cell → Prop
  /-- Nothing on both sides. -/
  | null : Coincides .null .null
  /-- The same truth value. -/
  | bool (b : Bool) : Coincides (.bool b) (.bool b)
  /-- Numbers with the same bits. -/
  | number {x y : Float} (h : x.toBits = y.toBits) : Coincides (.number x) (.number y)
  /-- The same text. -/
  | text (s : String) : Coincides (.text s) (.text s)

theorem coincides_iff {c d : Cell} : c.Coincides d ↔ c = d := by
  constructor
  · rintro (_ | _ | h | _)
    · rfl
    · rfl
    · rw [Float.toBits_inj.mp h]
    · rfl
  · rintro rfl
    cases c with
    | null => exact .null
    | bool b => exact .bool b
    | number x => exact .number rfl
    | text s => exact .text s

end Cell

/-! ### What is shown of a row -/

namespace Row

/-- What a signature **shows** of a row: the names of the fields in order, and what is shown of
their cells. -/
def shown (r : Row) : List Field := r.fields.map fun f => (f.1, f.2.shown)

/-- Objects are read back from their signatures. -/
theorem toJson_eq_of_signature_eq {r s : Row} (h : r.signature = s.signature) :
    r.fields.map (fun (name, cell) => (name, cell.toJson)) =
      s.fields.map fun (name, cell) => (name, cell.toJson) := by
  have hread : ∀ t : Row, Json.object? Json.content? (t.signature.toList.drop 1) =
      some (t.toJson, []) := by
    intro t
    have hobject := @Json.object?_fieldsChars Json.content?
      (t.fields.map fun (name, cell) => (name, cell.toJson)) (by
        intro f hf
        obtain ⟨g, -, rfl⟩ := List.mem_map.mp hf
        exact Json.reads_content? g.2) []
    simpa [signature, Json.compact, toJson, Json.chars] using hobject
  have hr := hread r
  rw [h, hread s, Option.some.injEq, Prod.mk.injEq] at hr
  exact (Json.object.inj hr.1).symm

/-- Two lists of fields with the same names and cells that agree in some respect. -/
theorem map_eq_map_iff {α : Type} (f : Cell → α) {fs gs : List Field} :
    fs.map (fun (name, cell) => (name, f cell)) = gs.map (fun (name, cell) => (name, f cell)) ↔
      List.Forall₂ (fun a b => a.1 = b.1 ∧ f a.2 = f b.2) fs gs := by
  rw [← List.forall₂_eq_eq_eq, List.forall₂_map_left_iff, List.forall₂_map_right_iff]
  simp only [Prod.mk.injEq]

/-- **Two rows have one signature exactly when they show the same.** -/
theorem signature_eq_iff {r s : Row} : r.signature = s.signature ↔ r.shown = s.shown := by
  have hfields : r.shown = s.shown ↔ r.fields.map (fun (name, cell) => (name, cell.toJson)) =
      s.fields.map fun (name, cell) => (name, cell.toJson) := by
    rw [map_eq_map_iff, shown, shown, map_eq_map_iff]
    simp only [Cell.toJson_eq_iff]
  rw [hfields]
  refine ⟨toJson_eq_of_signature_eq, fun h => ?_⟩
  rw [signature, signature, toJson, toJson, h]

/-- A row of **finite numbers**, and of any other cells. -/
def IsFinite (r : Row) : Prop := ∀ f ∈ r.fields, f.2.isFinite = true

instance (r : Row) : Decidable r.IsFinite :=
  inferInstanceAs (Decidable (∀ f ∈ r.fields, f.2.isFinite = true))

theorem shown_of_isFinite {r : Row} (h : r.IsFinite) : r.shown = r.fields := by
  have hsame : ∀ f ∈ r.fields, (f.1, f.2.shown) = id f := by
    intro f hf
    rw [Cell.shown_of_isFinite (h f hf), id]
  rw [shown, List.map_congr_left hsame, List.map_id]

/-- **The signature is an injective encoding of finite rows**: the same text for the same names in
the same order, with cells that coincide. -/
theorem signature_eq_iff_of_isFinite {r s : Row} (hr : r.IsFinite) (hs : s.IsFinite) :
    r.signature = s.signature ↔
      List.Forall₂ (fun f g => f.1 = g.1 ∧ f.2.Coincides g.2) r.fields s.fields := by
  rw [signature_eq_iff, shown_of_isFinite hr, shown_of_isFinite hs, ← List.forall₂_eq_eq_eq]
  simp only [Cell.coincides_iff, Prod.ext_iff]

/-- A row with nothing in its first field. -/
def nullRow : Row := .ofFields [("a\"", .null), ("n", .number 0.0)]

/-- A row of the same names with a text in its first field that is written like nothing. -/
def nullTextRow : Row := .ofFields [("a\"", .text "null"), ("n", .number 0.0)]

theorem signature_eq_iff_of_isFinite_nullRow :
    nullRow.IsFinite ∧ nullTextRow.IsFinite ∧ nullRow.signature ≠ nullTextRow.signature := by
  have hnull : nullRow.IsFinite := by decide
  have htext : nullTextRow.IsFinite := by decide
  refine ⟨hnull, htext, fun h => ?_⟩
  have hfields := (signature_eq_iff_of_isFinite hnull htext).mp h
  cases hfields with
  | cons hfirst _ => exact nomatch hfirst.2

end Row

end DataQuality
