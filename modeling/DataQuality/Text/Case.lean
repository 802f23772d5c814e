import DataQuality.Text.CaseTable

/-!
# Lower case

`DataQuality.Text.lowercase` is the full lower-case mapping: it is not the map of a function on
characters, for two reasons. One character becomes two (`İ` becomes `i` and a combining dot), and
the capital sigma looks around itself: at the end of a word it becomes `ς`, elsewhere `σ`.

Markers such as `#N/A` and flags such as `yes` are compared by ASCII case alone,
`DataQuality.Text.sameLetters`.
-/

namespace DataQuality.Text

/-! ### The full mapping -/

/-- The lower-case partner of a character that has exactly one; any other character is its own. -/
def lowercaseChar (c : Char) : Char :=
  if c.toNat < 128 then c.toLower
  else match lowercaseRuns.find? (·.covers c.toNat) with
    | some run => Char.ofNat (c.toNat + run.shift).toNat
    | none => c

/-- Whether the first character that ends the look around a capital sigma has a case. -/
def meetsCased (cs : List Char) : Bool :=
  match cs.dropWhile fun c => inRanges caseIgnorableRanges c.toNat with
  | [] => false
  | c :: _ => inRanges casedRanges c.toNat

/-- The lower-case form of the capital sigma between two texts, the one before it given from its
last character on: final when a letter stands before it and none stands after it. -/
def lowercaseSigma (before after : List Char) : Char :=
  if meetsCased before && !meetsCased after then 'ς' else 'σ'

/-- The lower-case form of the rest of a text, when `before` has been read, last character first. -/
def lowercaseFrom (before : List Char) : List Char → List Char
  | [] => []
  | c :: after =>
    if c = 'Σ' then lowercaseSigma before after :: lowercaseFrom (c :: before) after
    else if c = 'İ' then 'i' :: '\u0307' :: lowercaseFrom (c :: before) after
    else lowercaseChar c :: lowercaseFrom (c :: before) after

/-- The **lower-case form** of a text. -/
def lowercase (s : String) : String := String.ofList (lowercaseFrom [] s.toList)

/-- The lower-case form is never shorter than the text. -/
theorem length_le_length_lowercaseFrom (before cs : List Char) :
    cs.length ≤ (lowercaseFrom before cs).length := by
  induction cs generalizing before with
  | nil => exact Nat.le_refl _
  | cons c cs ih =>
    have hrest := ih (c :: before)
    rw [lowercaseFrom]
    split
    · simpa using hrest
    · split
      · exact Nat.le_succ_of_le (by simpa using hrest)
      · simpa using hrest

/-! ### ASCII case -/

/-- Equality up to the case of the ASCII letters. -/
def sameLetters (a b : String) : Bool :=
  a.toList.map Char.toLower == b.toList.map Char.toLower

/-! ### ASCII case and the full mapping -/

/-- Only capitals change, and they stay within ASCII. -/
theorem toNat_toLower_lt {c : Char} : c.toLower.toNat < 128 ↔ c.toNat < 128 := by
  delta Char.toLower
  split
  · next h =>
    have hupper : c.toNat ≤ 90 := h.2
    have hshift : (c.val + ('a'.val - 'A'.val)).toNat = c.toNat + 32 := by
      rw [UInt32.toNat_add]
      exact Nat.mod_eq_of_lt (Nat.lt_of_le_of_lt (Nat.add_le_add_right hupper 32) (by decide))
    change (c.val + ('a'.val - 'A'.val)).toNat < 128 ↔ _
    omega
  · rfl

/-- On ASCII texts the full mapping goes character by character. -/
theorem lowercaseFrom_of_ascii (before : List Char) {cs : List Char}
    (h : ∀ c ∈ cs, c.toNat < 128) : lowercaseFrom before cs = cs.map Char.toLower := by
  induction cs generalizing before with
  | nil => rfl
  | cons c cs ih =>
    have hc : c.toNat < 128 := h c List.mem_cons_self
    have hsigma : c ≠ 'Σ' := by
      rintro rfl
      exact absurd hc (by decide)
    have hdot : c ≠ 'İ' := by
      rintro rfl
      exact absurd hc (by decide)
    rw [lowercaseFrom, if_neg hsigma, if_neg hdot, lowercaseChar, if_pos hc,
      ih _ fun c' hc' => h c' (List.mem_cons_of_mem c hc'), List.map_cons]

/-- Texts that differ in the case of ASCII letters have **one lower-case form**, at least when one
of them is an ASCII text. -/
theorem lowercase_eq_of_sameLetters {a b : String} (h : sameLetters a b = true)
    (hb : ∀ c ∈ b.toList, c.toNat < 128) : lowercase a = lowercase b := by
  have hmap : a.toList.map Char.toLower = b.toList.map Char.toLower := beq_iff_eq.mp h
  have ha : ∀ c ∈ a.toList, c.toNat < 128 := by
    intro c hc
    have hlower : c.toLower ∈ b.toList.map Char.toLower := by
      rw [← hmap]
      exact List.mem_map_of_mem hc
    obtain ⟨c', hc', heq⟩ := List.mem_map.mp hlower
    rw [← toNat_toLower_lt, ← heq, toNat_toLower_lt]
    exact hb c' hc'
  rw [lowercase, lowercase, lowercaseFrom_of_ascii [] ha, lowercaseFrom_of_ascii [] hb, hmap]

end DataQuality.Text
