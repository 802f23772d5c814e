import DataQuality.Proofs.Json.Text
import DataQuality.Proofs.Number.Literal

/-!
# Compact JSON is read back

The strict reader gives back the value that a compact text was written for
(`DataQuality.Json.parse?_compact`), provided that the value is `DataQuality.Json.Readable`: its
numbers are numbers of the JSON grammar and within range, and it is not nested too deeply. Texts may
hold any characters, and keys may repeat.

The readers of lists and objects take the reader of a value one level down as an argument. So their
laws are laws about any reader that gives back each of the values in question
(`DataQuality.Json.Reads`), proved by induction on the list; the law for values follows by induction
on the depth that is left.
-/

namespace DataQuality.Json

/-! ### Values that can be read back -/

/-- A value without other values in it, which the strict reader takes. -/
inductive ReadableAtom : Json → Prop
  /-- The null value. -/
  | null : ReadableAtom .null
  /-- A truth value. -/
  | bool (b : Bool) : ReadableAtom (.bool b)
  /-- A number of the JSON grammar, within range. -/
  | number {l : Literal} (hwhole : l.IsWhole) (hgrammar : isNumber l = true)
      (hrange : (numberValue? l).isSome = true) : ReadableAtom (.number l)
  /-- A text. -/
  | string (s : String) : ReadableAtom (.string s)

/-- A value that the strict reader takes with the given depth left: **its numbers can be read**,
and it has no more levels than that. -/
inductive Readable : Nat → Json → Prop
  /-- A value without other values in it. -/
  | atom {depth : Nat} {v : Json} (h : ReadableAtom v) : Readable depth v
  /-- A list. -/
  | array {depth : Nat} {items : List Json} (h : ∀ v ∈ items, Readable depth v) :
      Readable (depth + 1) (.array items)
  /-- An object. -/
  | object {depth : Nat} {fields : List (String × Json)} (h : ∀ f ∈ fields, Readable depth f.2) :
      Readable (depth + 1) (.object fields)

/-- A character that a value may begin with, as far as the reader of a list has to know. -/
def Opens (c : Char) : Prop := isGap c = false ∧ c ≠ ']'

instance (c : Char) : Decidable (Opens c) :=
  inferInstanceAs (Decidable (isGap c = false ∧ c ≠ ']'))

/-- Numbers do not begin like anything else. -/
theorem opens_of_literal {c : Char} (h : Literal.opens c = true) : Opens c := by
  refine ⟨?_, Literal.ne_of_opens h (by decide)⟩
  simp [isGap, Literal.ne_of_opens h (show Literal.opens ' ' = false by decide),
    Literal.ne_of_opens h (show Literal.opens '\n' = false by decide),
    Literal.ne_of_opens h (show Literal.opens '\t' = false by decide),
    Literal.ne_of_opens h (show Literal.opens '\r' = false by decide)]

theorem skipGaps_cons {c : Char} (h : isGap c = false) (cs : List Char) :
    skipGaps (c :: cs) = c :: cs := by
  rw [skipGaps, List.dropWhile_cons_of_neg (by simp [h])]

/-- The character in front of a number is none of those in front of other values. -/
theorem ReadableAtom.exists_chars_eq_cons {v : Json} (h : ReadableAtom v) :
    ∃ c cs, v.chars = c :: cs ∧ Opens c ∧ c ≠ '[' ∧ c ≠ '{' := by
  cases h with
  | null => exact ⟨'n', _, rfl, by decide⟩
  | bool b =>
    cases b with
    | true => exact ⟨'t', _, rfl, by decide⟩
    | false => exact ⟨'f', _, rfl, by decide⟩
  | string s => exact ⟨'"', _, rfl, by decide⟩
  | number hwhole hgrammar hrange =>
    obtain ⟨c, cs, hchars, hopens⟩ := Literal.exists_chars_eq_cons hwhole
    exact ⟨c, cs, hchars, opens_of_literal hopens, Literal.ne_of_opens hopens (by decide),
      Literal.ne_of_opens hopens (by decide)⟩

theorem Readable.exists_chars_eq_cons {depth : Nat} {v : Json} (h : Readable depth v) :
    ∃ c cs, v.chars = c :: cs ∧ Opens c := by
  cases h with
  | atom h =>
    obtain ⟨c, cs, hchars, hopens, -⟩ := h.exists_chars_eq_cons
    exact ⟨c, cs, hchars, hopens⟩
  | array h => exact ⟨'[', _, rfl, by decide⟩
  | object h => exact ⟨'{', _, rfl, by decide⟩

/-! ### Readers of one value -/

/-- A reader **gives back** a value that is written in front of something else. -/
def Reads (value : ReaderOf Json) (v : Json) : Prop :=
  ∀ rest, Literal.Ends rest → value (v.chars ++ rest) = some (v, rest)

theorem atom?_of_ne {c : Char} (hn : c ≠ 'n') (ht : c ≠ 't') (hf : c ≠ 'f') (hq : c ≠ '"')
    (cs : List Char) : atom? (c :: cs) = number? (c :: cs) := by
  unfold atom?
  split
  · next heq => exact absurd (List.cons.inj heq).1 hn
  · next heq => exact absurd (List.cons.inj heq).1 ht
  · next heq => exact absurd (List.cons.inj heq).1 hf
  · next heq => exact absurd (List.cons.inj heq).1 hq
  · rfl

theorem reads_atom? {v : Json} (h : ReadableAtom v) : Reads atom? v := by
  intro rest hrest
  cases h with
  | null => rfl
  | bool b => cases b <;> rfl
  | string s =>
    have hread := string?_escape s rest
    simp [chars, stringChars, atom?, hread]
  | @number l hwhole hgrammar hrange =>
    -- a literal begins with a digit or a sign, and so none of the words and no text is tried
    have hscan := Literal.scan_chars hwhole hrest
    obtain ⟨c, cs, hchars, hfirst⟩ := Literal.exists_chars_eq_cons hwhole
    have hatom : atom? (l.chars ++ rest) = number? (l.chars ++ rest) := by
      rw [hchars, List.cons_append]
      exact atom?_of_ne (Literal.ne_of_opens hfirst (by decide))
        (Literal.ne_of_opens hfirst (by decide)) (Literal.ne_of_opens hfirst (by decide))
        (Literal.ne_of_opens hfirst (by decide)) _
    rw [chars, hatom, number?, hscan]
    simp [hgrammar, hrange]

/-! ### Lists and objects -/

theorem length_le_length_moreItemsChars (vs : List Json) :
    vs.length ≤ (moreItemsChars vs).length := by
  induction vs with
  | nil => exact Nat.le_refl _
  | cons v vs ih =>
    simp only [moreItemsChars, List.length_cons, List.length_append]
    omega

theorem length_le_length_moreFieldsChars (fs : List (String × Json)) :
    fs.length ≤ (moreFieldsChars fs).length := by
  induction fs with
  | nil => exact Nat.le_refl _
  | cons f fs ih =>
    simp only [moreFieldsChars, List.length_cons, List.length_append]
    omega

/-- **The items of a list are read back** by any reader that gives back each of them. -/
theorem items?_itemsChars {value : ReaderOf Json} {v : Json} {vs : List Json}
    (h : ∀ w ∈ v :: vs, Reads value w) {fuel : Nat} (hfuel : vs.length < fuel)
    (rest : List Char) :
    items? value fuel (itemsChars (v :: vs) ++ ']' :: rest) = some (v :: vs, rest) := by
  induction vs generalizing v fuel with
  | nil =>
    obtain ⟨fuel, rfl⟩ : ∃ n, fuel = n + 1 := ⟨fuel - 1, by omega⟩
    have hv := h v List.mem_cons_self (']' :: rest) (Literal.ends_cons (by decide) _)
    simp [itemsChars, moreItemsChars, items?, hv, skipGaps_cons (show isGap ']' = false by decide)]
  | cons w ws ih =>
    obtain ⟨fuel, rfl⟩ : ∃ n, fuel = n + 1 := ⟨fuel - 1, by omega⟩
    have hlater := @ih w (fun u hu => h u (List.mem_cons_of_mem v hu)) fuel (by simpa using hfuel)
    have hv := h v List.mem_cons_self (',' :: (itemsChars (w :: ws) ++ ']' :: rest))
      (Literal.ends_cons (by decide) _)
    have hchars : itemsChars (v :: w :: ws) ++ ']' :: rest =
        v.chars ++ ',' :: (itemsChars (w :: ws) ++ ']' :: rest) := by
      simp [itemsChars, moreItemsChars]
    simp [hchars, items?, hv, skipGaps_cons (show isGap ',' = false by decide), hlater]

/-- A field is read back: its key inside quotes, a colon, its value. -/
theorem field?_chars {value : ReaderOf Json} {key : String} {v : Json} (h : Reads value v)
    {rest : List Char} (hrest : Literal.Ends rest) :
    field? value (stringChars key ++ ':' :: (v.chars ++ rest)) = some ((key, v), rest) := by
  have hkey := string?_escape key (':' :: (v.chars ++ rest))
  simp [field?, stringChars, skipGaps_cons (show isGap '"' = false by decide), hkey,
    skipGaps_cons (show isGap ':' = false by decide), h rest hrest]

/-- **The fields of an object are read back** by any reader that gives back each of the values. -/
theorem fields?_fieldsChars {value : ReaderOf Json} {f : String × Json}
    {fs : List (String × Json)} (h : ∀ g ∈ f :: fs, Reads value g.2) {fuel : Nat}
    (hfuel : fs.length < fuel) (rest : List Char) :
    fields? value fuel (fieldsChars (f :: fs) ++ '}' :: rest) = some (f :: fs, rest) := by
  induction fs generalizing f fuel with
  | nil =>
    obtain ⟨fuel, rfl⟩ : ∃ n, fuel = n + 1 := ⟨fuel - 1, by omega⟩
    obtain ⟨key, v⟩ := f
    have hf := @field?_chars value key v (h (key, v) List.mem_cons_self) ('}' :: rest)
      (Literal.ends_cons (by decide) _)
    simp [fieldsChars, moreFieldsChars, fields?, hf,
      skipGaps_cons (show isGap '}' = false by decide)]
  | cons g gs ih =>
    obtain ⟨fuel, rfl⟩ : ∃ n, fuel = n + 1 := ⟨fuel - 1, by omega⟩
    obtain ⟨key, v⟩ := f
    obtain ⟨key', v'⟩ := g
    have hlater := @ih (key', v') (fun u hu => h u (List.mem_cons_of_mem _ hu)) fuel
      (by simpa using hfuel)
    have hf := @field?_chars value key v (h (key, v) List.mem_cons_self)
      (',' :: (fieldsChars ((key', v') :: gs) ++ '}' :: rest)) (Literal.ends_cons (by decide) _)
    have hchars : fieldsChars ((key, v) :: (key', v') :: gs) ++ '}' :: rest =
        stringChars key ++ ':' ::
          (v.chars ++ ',' :: (fieldsChars ((key', v') :: gs) ++ '}' :: rest)) := by
      simp [fieldsChars, moreFieldsChars]
    simp [hchars, fields?, hf, skipGaps_cons (show isGap ',' = false by decide), hlater]

/-! ### Values -/

/-- A list is read back behind its bracket. The look at an end right there does not see one: no
value begins with a closing bracket. -/
theorem array?_itemsChars {value : ReaderOf Json} {items : List Json}
    (h : ∀ v ∈ items, Reads value v)
    (hfirst : ∀ v ∈ items, ∃ c cs, v.chars = c :: cs ∧ Opens c) (rest : List Char) :
    array? value (itemsChars items ++ ']' :: rest) = some (.array items, rest) := by
  cases items with
  | nil => rfl
  | cons v vs =>
    obtain ⟨c, cs, hchars, hgap, hend⟩ := hfirst v List.mem_cons_self
    -- every item takes a character at least, and the fuel is the number of characters
    have hfuel : vs.length < (itemsChars (v :: vs) ++ ']' :: rest).length + 1 := by
      have hle := length_le_length_moreItemsChars vs
      simp only [itemsChars, List.length_append]
      omega
    have hitems := items?_itemsChars h hfuel rest
    have hopen : itemsChars (v :: vs) ++ ']' :: rest =
        c :: (cs ++ moreItemsChars vs ++ ']' :: rest) := by
      simp [itemsChars, hchars]
    rw [hopen] at hitems ⊢
    unfold array?
    rw [skipGaps_cons hgap]
    split
    · next heq => exact absurd (List.cons.inj heq).1 hend
    · rw [hitems]
      rfl

/-- An object is read back behind its brace. -/
theorem object?_fieldsChars {value : ReaderOf Json} {fields : List (String × Json)}
    (h : ∀ f ∈ fields, Reads value f.2) (rest : List Char) :
    object? value (fieldsChars fields ++ '}' :: rest) = some (.object fields, rest) := by
  cases fields with
  | nil => rfl
  | cons f fs =>
    have hfuel : fs.length < (fieldsChars (f :: fs) ++ '}' :: rest).length + 1 := by
      have hle := length_le_length_moreFieldsChars fs
      simp only [fieldsChars, List.length_cons, List.length_append]
      omega
    have hfields := fields?_fieldsChars h hfuel rest
    obtain ⟨cs, hopen⟩ : ∃ cs, fieldsChars (f :: fs) ++ '}' :: rest = '"' :: cs := ⟨_, rfl⟩
    rw [hopen] at hfields ⊢
    unfold object?
    rw [skipGaps_cons (show isGap '"' = false by decide)]
    split
    · next heq => exact absurd (List.cons.inj heq).1 (by decide)
    · rw [hfields]
      rfl

/-- A value without others in it is read back at any depth. -/
theorem reads_value?_of_atom {v : Json} (h : ReadableAtom v) (depth : Nat) :
    Reads (value? depth) v := by
  intro rest hrest
  obtain ⟨c, cs, hchars, ⟨hgap, -⟩, hlist, hobject⟩ := h.exists_chars_eq_cons
  have hatom := reads_atom? h rest hrest
  rw [hchars, List.cons_append] at hatom ⊢
  cases depth with
  | zero =>
    simp only [value?]
    rw [skipGaps_cons hgap, hatom]
  | succ depth =>
    simp only [value?]
    rw [skipGaps_cons hgap]
    split
    · next heq => exact absurd (List.cons.inj heq).1 hlist
    · next heq => exact absurd (List.cons.inj heq).1 hobject
    · exact hatom

/-- **Every readable value is read back**, whatever is written behind it. -/
theorem reads_value? {depth : Nat} {v : Json} (h : Readable depth v) : Reads (value? depth) v := by
  induction h with
  | atom h => exact reads_value?_of_atom h _
  | @array depth items hitems ih =>
    intro rest _
    have harray := array?_itemsChars ih (fun v hv => (hitems v hv).exists_chars_eq_cons) rest
    simp [chars, value?, skipGaps_cons (show isGap '[' = false by decide), harray]
  | @object depth fields _ ih =>
    intro rest _
    have hobject := object?_fieldsChars ih rest
    simp [chars, value?, skipGaps_cons (show isGap '{' = false by decide), hobject]

/-- **A compact text is read back as the value that it was written for.** -/
theorem parse?_compact {v : Json} (h : Readable nestingLimit v) : parse? v.compact = some v := by
  have hread := reads_value? h [] Literal.ends_nil
  rw [List.append_nil] at hread
  simp [parse?, compact, hread, skipGaps]

end DataQuality.Json
