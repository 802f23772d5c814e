import DataQuality.Proofs.Number.Cell
import DataQuality.Proofs.Number.Decimal
import DataQuality.Source.Stored

/-!
# The texts that are numbers

A text is read as a number exactly if it spells a literal whose number is in range, blank characters
around it aside; what it is read as is the float that the number is rounded to
(`DataQuality.Number.readsByGrammar_parse?`). What spells a literal is told by a grammar
(`DataQuality.Literal.Spells`) and not by the scan that finds the literal; a text spells one literal
at most, since the scan finds it (`DataQuality.Literal.spells_iff`).

The same texts are found in two steps, the shape of a number in the digits of any script first and a
reader of floats then, which also knows words for the infinities and for what is not a number, but
no digits other than the ASCII ones. A text that passes both and has a finite value spells a literal.
-/

namespace DataQuality

namespace Literal

/-! ### The grammar -/

/-- The characters of the **digits of a number**: digits, with a point and more digits behind them,
if any, or a point with digits behind it only. -/
inductive SpellsDigits : List Digit → Option (List Digit) → List Char → Prop where
  | whole {ds : List Digit} (hds : ds ≠ []) : SpellsDigits ds none (ds.map Digit.char)
  | point {ds : List Digit} (hds : ds ≠ []) (es : List Digit) :
      SpellsDigits ds (some es) (ds.map Digit.char ++ '.' :: es.map Digit.char)
  | fraction {es : List Digit} (hes : es ≠ []) :
      SpellsDigits [] (some es) ('.' :: es.map Digit.char)

/-- The characters of a **power of ten**, which need not be there: a letter of either case, perhaps
a sign, and digits. -/
inductive SpellsPower : Option Exponent → List Char → Prop where
  | none : SpellsPower none []
  | some {letter : Char} (hletter : letter = 'e' ∨ letter = 'E') (sign : Option Sign)
      {ds : List Digit} (hds : ds ≠ []) :
      SpellsPower (some ⟨sign, ds⟩) (letter :: (signChars sign ++ ds.map Digit.char))

/-- The characters that **spell a literal**: perhaps a sign, digits, and perhaps a power of ten. -/
inductive Spells : Literal → List Char → Prop where
  | intro (sign : Option Sign) {whole : List Digit} {fraction : Option (List Digit)}
      {exponent : Option Exponent} {digits power : List Char}
      (hdigits : SpellsDigits whole fraction digits) (hpower : SpellsPower exponent power) :
      Spells ⟨sign, whole, fraction, exponent⟩ (signChars sign ++ digits ++ power)

theorem spellsDigits_iff {whole : List Digit} {fraction : Option (List Digit)} {cs : List Char} :
    SpellsDigits whole fraction cs ↔ cs = whole.map Digit.char ++ fractionChars fraction ∧
      (whole ≠ [] ∨ fraction.getD [] ≠ []) := by
  constructor
  · rintro (hds | ⟨hds, es⟩ | hes)
    · exact ⟨(List.append_nil _).symm, .inl hds⟩
    · exact ⟨rfl, .inl hds⟩
    · exact ⟨rfl, .inr hes⟩
  · rintro ⟨rfl, hne⟩
    cases fraction with
    | none =>
      have hwhole : whole ≠ [] := hne.resolve_right fun h => h rfl
      rw [fractionChars, List.append_nil]
      exact .whole hwhole
    | some es =>
      rcases whole with _ | ⟨d, ds⟩
      · exact .fraction (hne.resolve_left fun h => h rfl)
      · exact .point (List.cons_ne_nil d ds) es

/-! ### Scanning what is spelled -/

/-- A sign is scanned off unless another one follows it. -/
theorem sign_scan (sign : Option Sign) {cs : List Char}
    (h : ∀ c ∈ cs.head?, c ≠ '+' ∧ c ≠ '-') : Sign.scan (signChars sign ++ cs) = (sign, cs) := by
  cases sign with
  | none =>
    rw [signChars, List.nil_append]
    unfold Sign.scan
    split
    · exact absurd rfl (h _ rfl).1
    · exact absurd rfl (h _ rfl).2
    · rfl
  | some s => cases s <;> rfl

theorem head_of_spellsDigits {whole : List Digit} {fraction : Option (List Digit)}
    {digits : List Char} (h : SpellsDigits whole fraction digits) (rest : List Char) :
    ∀ c ∈ (digits ++ rest).head?, c ≠ '+' ∧ c ≠ '-' := by
  have hdigit : ∀ d : Digit, d.char ≠ '+' ∧ d.char ≠ '-' := by decide
  rcases h with hds | ⟨hds, es⟩ | hes
  · obtain ⟨d, ds, rfl⟩ := List.exists_cons_of_ne_nil hds
    rintro c ⟨rfl⟩
    exact hdigit d
  · obtain ⟨d, ds, rfl⟩ := List.exists_cons_of_ne_nil hds
    rintro c ⟨rfl⟩
    exact hdigit d
  · rintro c ⟨rfl⟩
    decide

theorem head_of_spellsPower {exponent : Option Exponent} {power : List Char}
    (h : SpellsPower exponent power) :
    ∀ c ∈ power.head?, Digit.ofChar? c = none ∧ c ≠ '.' := by
  rcases h with _ | ⟨hletter, sign, hds⟩
  · intro c hc
    cases hc
  · rintro c ⟨rfl⟩
    rcases hletter with rfl | rfl <;> decide

theorem scanExponent_of_spellsPower {exponent : Option Exponent} {power : List Char}
    (h : SpellsPower exponent power) : scanExponent power = (exponent, []) := by
  rcases h with _ | ⟨hletter, sign, hds⟩
  · rfl
  · obtain ⟨d, ds, rfl⟩ := List.exists_cons_of_ne_nil hds
    have hscan : Digit.scan ((d :: ds).map Digit.char ++ []) = (d :: ds, []) :=
      Digit.scan_append (d :: ds) (fun c hc => by cases hc)
    rw [List.append_nil, List.map_cons] at hscan
    simp [scanExponent, hletter, sign_scan_append, hscan]

/-- The power of ten that is scanned off is spelled by what was there. -/
theorem exists_spellsPower_of_scanExponent {cs rest : List Char} {exponent : Option Exponent}
    (h : scanExponent cs = (exponent, rest)) :
    ∃ power, SpellsPower exponent power ∧ cs = power ++ rest := by
  unfold scanExponent at h
  split at h
  · obtain ⟨rfl, rfl⟩ := Prod.mk.inj h
    exact ⟨[], .none, rfl⟩
  next c tail =>
    split at h
    · next hletter =>
      rcases hsign : Sign.scan tail with ⟨sign, afterSign⟩
      rcases hdigits : Digit.scan afterSign with ⟨_ | ⟨d, ds⟩, rest'⟩
      · simp only [hsign, hdigits, Prod.mk.injEq] at h
        obtain ⟨rfl, rfl⟩ := h
        exact ⟨[], .none, rfl⟩
      · simp only [hsign, hdigits, Prod.mk.injEq] at h
        obtain ⟨rfl, rfl⟩ := h
        refine ⟨_, .some hletter sign (List.cons_ne_nil d ds), ?_⟩
        rw [Sign.eq_of_scan hsign, Digit.eq_of_scan hdigits, List.cons_append, List.append_assoc]
    · obtain ⟨rfl, rfl⟩ := Prod.mk.inj h
      exact ⟨[], .none, rfl⟩

/-- There is a digit among the parts of a number in a cell, and the power of ten has none of them. -/
theorem isCellNumber_iff {l : Literal} :
    l.isCellNumber = true ↔ l.whole ≠ [] ∨ l.fraction.getD [] ≠ [] := by
  rw [isCellNumber, Bool.or_eq_true, Bool.not_eq_true', Bool.not_eq_true',
    List.isEmpty_eq_false_iff, List.isEmpty_eq_false_iff, fractionDigits]

/-- What is spelled is scanned as a whole. -/
theorem scan_of_spells {l : Literal} {cs : List Char} (h : l.Spells cs) : scan cs = (l, []) := by
  obtain @⟨sign, whole, fraction, exponent, digits, power, hdigits, hpower⟩ := h
  have hsign := sign_scan sign (head_of_spellsDigits hdigits power)
  have hpoint := head_of_spellsPower hpower
  obtain ⟨rfl, -⟩ := spellsDigits_iff.mp hdigits
  have hends : Digit.Ends (fractionChars fraction ++ power) := by
    intro c hc
    cases fraction with
    | none => exact (hpoint c hc).1
    | some es =>
      obtain rfl := Option.some.inj hc
      decide
  rw [List.append_assoc] at hsign
  simp only [scan, List.append_assoc, hsign, Digit.scan_append _ hends,
    scanFraction_append _ (fun c hc => (hpoint c hc).1) (fun c hc => (hpoint c hc).2),
    scanExponent_of_spellsPower hpower]

/-- What is scanned as a whole is spelled, if there are digits. -/
theorem spells_of_scan {l : Literal} {cs : List Char} (h : scan cs = (l, []))
    (hnumber : l.isCellNumber = true) : l.Spells cs := by
  unfold scan at h
  rcases hsign : Sign.scan cs with ⟨sign, afterSign⟩
  rcases hwhole : Digit.scan afterSign with ⟨whole, afterWhole⟩
  rcases hfraction : scanFraction afterWhole with ⟨fraction, afterFraction⟩
  rcases hexponent : scanExponent afterFraction with ⟨exponent, afterExponent⟩
  simp only [hsign, hwhole, hfraction, hexponent, Prod.mk.injEq] at h
  obtain ⟨rfl, rfl⟩ := h
  obtain ⟨power, hpower, rfl⟩ := exists_spellsPower_of_scanExponent hexponent
  have hdigits := spellsDigits_iff.mpr ⟨rfl, isCellNumber_iff.mp hnumber⟩
  have hspells := Spells.intro sign hdigits hpower
  rw [Sign.eq_of_scan hsign, Digit.eq_of_scan hwhole, eq_of_scanFraction hfraction,
    List.append_nil]
  rwa [List.append_assoc, List.append_assoc] at hspells

/-- **A text spells a literal exactly if the scan finds it**, and nothing behind it. -/
theorem spells_iff {l : Literal} {cs : List Char} :
    l.Spells cs ↔ Number.cellLiteral? cs = some l := by
  constructor
  · intro h
    have hnumber : l.isCellNumber = true := by
      obtain ⟨sign, hdigits, -⟩ := h
      exact isCellNumber_iff.mpr (spellsDigits_iff.mp hdigits).2
    rw [Number.cellLiteral?, ofChars?, scan_of_spells h]
    exact if_pos hnumber
  · intro h
    rw [Number.cellLiteral?, ofChars?] at h
    rcases hscan : scan cs with ⟨l', _ | ⟨c, rest⟩⟩
    · rw [hscan] at h
      dsimp only at h
      split at h
      · next hnumber =>
        obtain rfl := Option.some.inj h
        exact spells_of_scan hscan hnumber
      · cases h
    · rw [hscan] at h
      cases h

/-! ### The characters of what is spelled -/

/-- The **letters** in front of a power of ten. -/
def isPowerLetter (c : Char) : Bool := c = 'e' || c = 'E'

theorem exists_eq_char {ds : List Digit} {c : Char} (hc : c ∈ ds.map Digit.char) :
    ∃ d : Digit, c = d.char := by
  obtain ⟨d, -, rfl⟩ := List.mem_map.mp hc
  exact ⟨d, rfl⟩

theorem mem_of_mem_signChars {sign : Option Sign} {c : Char} (hc : c ∈ signChars sign) :
    c ∈ ['+', '-'] := by
  rcases sign with _ | _ | _
  · cases hc
  · exact List.mem_cons.mpr (.inl (List.mem_singleton.mp hc))
  · exact List.mem_cons_of_mem _ hc

/-- Digits are spelled with digits and a point. -/
theorem mem_of_spellsDigits {whole : List Digit} {fraction : Option (List Digit)}
    {digits : List Char} (h : SpellsDigits whole fraction digits) {c : Char} (hc : c ∈ digits) :
    (∃ d : Digit, c = d.char) ∨ c = '.' := by
  rcases h with hds | ⟨hds, es⟩ | hes
  · exact .inl (exists_eq_char hc)
  · rcases List.mem_append.mp hc with hc | hc
    · exact .inl (exists_eq_char hc)
    · exact (List.mem_cons.mp hc).symm.imp_left exists_eq_char
  · exact (List.mem_cons.mp hc).symm.imp_left exists_eq_char

/-- There is at least one digit. -/
theorem exists_mem_of_spellsDigits {whole : List Digit} {fraction : Option (List Digit)}
    {digits : List Char} (h : SpellsDigits whole fraction digits) : ∃ d : Digit, d.char ∈ digits := by
  rcases h with hds | ⟨hds, es⟩ | hes
  · obtain ⟨d, ds, rfl⟩ := List.exists_cons_of_ne_nil hds
    exact ⟨d, List.mem_cons_self⟩
  · obtain ⟨d, ds, rfl⟩ := List.exists_cons_of_ne_nil hds
    exact ⟨d, List.mem_cons_self⟩
  · obtain ⟨d, ds, rfl⟩ := List.exists_cons_of_ne_nil hes
    exact ⟨d, List.mem_cons_of_mem _ List.mem_cons_self⟩

/-- A power of ten is spelled with digits, signs and a letter. -/
theorem mem_of_spellsPower {exponent : Option Exponent} {power : List Char}
    (h : SpellsPower exponent power) {c : Char} (hc : c ∈ power) :
    (∃ d : Digit, c = d.char) ∨ c ∈ ['+', '-', 'e', 'E'] := by
  rcases h with _ | ⟨hletter, sign, hds⟩
  · cases hc
  · rcases List.mem_cons.mp hc with rfl | hc
    · exact .inr (by rcases hletter with rfl | rfl <;> decide)
    · rcases List.mem_append.mp hc with hc | hc
      · exact .inr (List.mem_append_left ['e', 'E'] (mem_of_mem_signChars hc))
      · exact .inl (exists_eq_char hc)

section Spelled

variable {l : Literal} {cs : List Char} (h : l.Spells cs)

include h

/-- A literal is spelled with **ASCII digits and five more characters**. -/
theorem Spells.mem {c : Char} (hc : c ∈ cs) :
    (∃ d : Digit, c = d.char) ∨ c ∈ ['+', '-', '.', 'e', 'E'] := by
  obtain ⟨sign, hdigits, hpower⟩ := h
  rcases List.mem_append.mp hc with hc | hc
  · rcases List.mem_append.mp hc with hc | hc
    · exact .inr (List.mem_append_left ['.', 'e', 'E'] (mem_of_mem_signChars hc))
    · exact (mem_of_spellsDigits hdigits hc).imp_right fun hpoint => by simp [hpoint]
  · have hmarks : ['+', '-', 'e', 'E'] ⊆ ['+', '-', '.', 'e', 'E'] := by simp
    exact (mem_of_spellsPower hpower hc).imp_right fun hmem => hmarks hmem

/-- It has a digit **in front of the power of ten**. -/
theorem Spells.exists_digit : ∃ d : Digit, d.char ∈ cs.takeWhile fun c => !isPowerLetter c := by
  obtain @⟨sign, whole, fraction, exponent, digits, power, hdigits, hpower⟩ := h
  have hdigit : ∀ d : Digit, isPowerLetter d.char = false := by decide
  have hfront : ∀ c ∈ signChars sign ++ digits, (!isPowerLetter c) = true := by
    intro c hc
    rw [Bool.not_eq_true']
    rcases List.mem_append.mp hc with hc | hc
    · have hsigns : ∀ c ∈ ['+', '-'], isPowerLetter c = false := by simp [isPowerLetter]
      exact hsigns c (mem_of_mem_signChars hc)
    · rcases mem_of_spellsDigits hdigits hc with ⟨d, rfl⟩ | rfl
      · exact hdigit d
      · decide
  rw [List.takeWhile_append_of_pos hfront]
  obtain ⟨d, hd⟩ := exists_mem_of_spellsDigits hdigits
  exact ⟨d, List.mem_append_left _ (List.mem_append_right _ hd)⟩

/-- It **ends** with a digit or a point. -/
theorem Spells.getLast? {c : Char} (hc : c ∈ cs.getLast?) :
    (∃ d : Digit, c = d.char) ∨ c = '.' := by
  have hlast : ∀ (front : List Char) {ds : List Digit}, ds ≠ [] →
      c ∈ (front ++ ds.map Digit.char).getLast? → ∃ d : Digit, c = d.char := by
    intro front ds hds hc
    have hne : ds.map Digit.char ≠ [] := fun hnil => hds (List.map_eq_nil_iff.mp hnil)
    rw [List.getLast?_append_of_ne_nil _ hne] at hc
    exact exists_eq_char (List.mem_of_getLast? hc)
  obtain @⟨sign, whole, fraction, exponent, digits, power, hdigits, hpower⟩ := h
  rcases hpower with _ | @⟨letter, hletter, sign', ds, hds⟩
  · rw [List.append_nil] at hc
    obtain ⟨d, hd⟩ := exists_mem_of_spellsDigits hdigits
    rw [List.getLast?_append_of_ne_nil _ (List.ne_nil_of_mem hd)] at hc
    exact mem_of_spellsDigits hdigits (List.mem_of_getLast? hc)
  · refine .inl (hlast (signChars sign ++ digits ++ letter :: signChars sign') hds ?_)
    rwa [List.append_assoc]

end Spelled

end Literal

/-! ### Blank characters around a text -/

namespace Text

/-- A text is what is left of it **between blank characters**. -/
theorem exists_trimChars (cs : List Char) : ∃ before after, cs = before ++ trimChars cs ++ after ∧
    ∀ c ∈ before ++ after, isBlank c = true := by
  obtain ⟨rest, hrest⟩ : ∃ rest, rest = cs.dropWhile isBlank := ⟨_, rfl⟩
  refine ⟨cs.takeWhile isBlank, (rest.reverse.takeWhile isBlank).reverse, ?_, fun c hc => ?_⟩
  · have hend : trimChars cs ++ (rest.reverse.takeWhile isBlank).reverse = rest := by
      rw [trimChars, trimStartChars, ← hrest, trimEndChars, ← List.reverse_append,
        List.takeWhile_append_dropWhile, List.reverse_reverse]
    rw [List.append_assoc, hend, hrest, List.takeWhile_append_dropWhile]
  · rcases List.mem_append.mp hc with hc | hc
    · exact List.mem_takeWhile_imp hc
    · exact List.mem_takeWhile_imp (List.mem_reverse.mp hc)

/-- What has no blank characters is left of a text with blank characters around it. -/
theorem trimChars_append {before cs after : List Char}
    (hblank : ∀ c ∈ before ++ after, isBlank c = true) (hcs : ∀ c ∈ cs, isBlank c = false)
    (hne : cs ≠ []) : trimChars (before ++ cs ++ after) = cs := by
  have hdrop : ∀ {blanks ds : List Char} (rest : List Char), (∀ c ∈ blanks, isBlank c = true) →
      (∀ c ∈ ds, isBlank c = false) → ds ≠ [] →
        (blanks ++ (ds ++ rest)).dropWhile isBlank = ds ++ rest := by
    intro blanks ds rest hblanks hds hne
    obtain ⟨d, ds, rfl⟩ := List.exists_cons_of_ne_nil hne
    rw [List.dropWhile_append_of_pos hblanks, List.cons_append]
    exact List.dropWhile_cons_of_neg (by simp [hds d List.mem_cons_self])
  have hend : (after.reverse ++ (cs.reverse ++ [])).dropWhile isBlank = cs.reverse ++ [] :=
    hdrop [] (fun c hc => hblank c (List.mem_append_right _ (List.mem_reverse.mp hc)))
      (fun c hc => hcs c (List.mem_reverse.mp hc))
      (fun hnil => hne (List.reverse_eq_nil_iff.mp hnil))
  rw [List.append_nil, ← List.reverse_append] at hend
  rw [trimChars, trimStartChars, List.append_assoc,
    hdrop after (fun c hc => hblank c (List.mem_append_left _ hc)) hcs hne, trimEndChars, hend,
    List.reverse_reverse]

end Text

/-! ### Reading -/

namespace Number

/-- Whether a text has the **shape of a number**, in digits of any script. -/
def hasShape (cs : List Char) : Bool := (cellLiteral? (cs.map Text.toAsciiDigit)).isSome

/-- A text is **read by the grammar of numbers**. -/
structure ReadsByGrammar (text : String) : Prop where
  /-- It is read as the float that the number of a literal is rounded to, when it spells a literal
  between blank characters, and not otherwise. -/
  parse?_eq_some_iff : ∀ x, parse? text = some x ↔
    ∃ (before cs after : List Char) (l : Literal), text.toList = before ++ cs ++ after ∧
      (∀ c ∈ before ++ after, Text.isBlank c = true) ∧
        l.Spells cs ∧ RoundsTo l.isNegative l.magnitude x
  /-- It is read in two steps: by its shape, and by the reader of floats. -/
  parse?_eq : parse? text = if hasShape (Text.trimChars text.toList) then
    (StoredType.floatOfChars? (Text.trimChars text.toList)).filter (·.isFinite) else none
  /-- It is not read with any other characters between the blank ones. -/
  eq_none_of_mem : ∀ c ∈ Text.trimChars text.toList, (∀ d : Digit, c ≠ d.char) →
    c ∉ ['+', '-', '.', 'e', 'E'] → parse? text = none
  /-- It is not read without a digit in front of the power of ten. -/
  eq_none_of_takeWhile : (∀ d : Digit, d.char ∉ (Text.trimChars text.toList).takeWhile
    fun c => !Literal.isPowerLetter c) → parse? text = none
  /-- It is not read without a digit or a point at the end. -/
  eq_none_of_getLast? : ∀ c ∈ (Text.trimChars text.toList).getLast?, (∀ d : Digit, c ≠ d.char) →
    c ≠ '.' → parse? text = none
  /-- It is not read when the number is out of range. -/
  eq_none_of_le : ∀ l : Literal, l.Spells (Text.trimChars text.toList) →
    overflowBound ≤ l.magnitude → parse? text = none

/-- A literal is left as it is when the digits of other scripts are replaced. -/
theorem map_toAsciiDigit_of_spells {l : Literal} {cs : List Char} (h : l.Spells cs) :
    cs.map Text.toAsciiDigit = cs := by
  have hdigit : ∀ d : Digit, Text.toAsciiDigit d.char = d.char := by decide
  have hmark : ∀ c ∈ ['+', '-', '.', 'e', 'E'], Text.toAsciiDigit c = c := by
    intro c hc
    fin_cases hc <;> rfl
  refine (List.map_congr_left fun c hc => ?_).trans (List.map_id cs)
  rcases h.mem hc with ⟨d, rfl⟩ | hc
  · exact hdigit d
  · exact hmark c hc

/-- The words that the reader of floats knows stand for **no finite float**. -/
theorem isFinite_of_specialFloat? {cs : List Char} {x : Float}
    (h : StoredType.specialFloat? cs = some x) : x.isFinite = false ∧ (-x).isFinite = false := by
  have hspecial : ∀ entry ∈ StoredType.specialFloats,
      entry.2.isFinite = false ∧ (-entry.2).isFinite = false := by decide +kernel
  rw [StoredType.specialFloat?, Option.map_eq_some_iff] at h
  obtain ⟨entry, hentry, rfl⟩ := h
  exact hspecial entry (List.mem_of_find?_eq_some hentry)

/-- **A text is read when it spells a literal in range**, once it is trimmed. -/
theorem parse?_eq_some_iff {text : String} {x : Float} : parse? text = some x ↔
    ∃ l : Literal, l.Spells (Text.trimChars text.toList) ∧
      RoundsTo l.isNegative l.magnitude x := by
  simp only [Literal.spells_iff, Literal.roundsTo_iff, parse?]
  rcases cellLiteral? (Text.trimChars text.toList) with _ | l
  · simp
  · dsimp only
    constructor
    · intro h
      split at h
      · next hfinite => exact ⟨l, rfl, hfinite, (Option.some.inj h).symm⟩
      · cases h
    · rintro ⟨l', hl, hfinite, rfl⟩
      obtain rfl := Option.some.inj hl
      exact if_pos hfinite

/-- A text that is read spells a literal; what no literal is spelled with is not read. -/
theorem parse?_eq_none {text : String}
    (h : ∀ l : Literal, ¬ l.Spells (Text.trimChars text.toList)) : parse? text = none := by
  rw [Option.eq_none_iff_forall_not_mem]
  intro x hx
  obtain ⟨l, hspells, -⟩ := parse?_eq_some_iff.mp hx
  exact h l hspells

/-- **Shape first, value then**: the reader of floats takes words besides literals, but no word
stands for a finite float. -/
theorem parse?_eq_filter (text : String) :
    parse? text = if hasShape (Text.trimChars text.toList) then
      (StoredType.floatOfChars? (Text.trimChars text.toList)).filter (·.isFinite) else none := by
  have hcell : ∀ cs, (Literal.ofChars? cs).filter (·.isCellNumber) = cellLiteral? cs := by
    intro cs
    rw [cellLiteral?]
    cases Literal.ofChars? cs <;> rfl
  generalize hcs : Text.trimChars text.toList = cs
  rw [parse?, StoredType.floatOfChars?, hcell, hcs]
  rcases hl : cellLiteral? cs with _ | l
  · -- what is no literal is a word, if anything
    have hword : ∀ {x : Option Float}, (∀ y ∈ x, y.isFinite = false) →
        x.filter (·.isFinite) = none := by
      intro x hx
      rw [Option.filter_eq_none_iff]
      intro y hy
      simp [hx y hy]
    dsimp only
    split
    · refine (hword fun y hy => ?_).symm
      split at hy
      · obtain ⟨x, hx, rfl⟩ := Option.map_eq_some_iff.mp hy
        exact (isFinite_of_specialFloat? hx).2
      · exact (isFinite_of_specialFloat? hy).1
    · rfl
  · have hshape : hasShape cs = true := by
      rw [hasShape, map_toAsciiDigit_of_spells (Literal.spells_iff.mpr hl), hl]
      rfl
    rw [if_pos hshape]
    rfl

/-- **The texts that are numbers are those of the grammar**, and each is read as the float that its
number is rounded to. -/
theorem readsByGrammar_parse? (text : String) : ReadsByGrammar text where
  parse?_eq_some_iff x := by
    rw [Number.parse?_eq_some_iff]
    constructor
    · rintro ⟨l, hspells, hround⟩
      obtain ⟨before, after, hcs, hblank⟩ := Text.exists_trimChars text.toList
      exact ⟨before, _, after, l, hcs, hblank, hspells, hround⟩
    · rintro ⟨before, cs, after, l, hcs, hblank, hspells, hround⟩
      have hinside : ∀ c ∈ cs, Text.isBlank c = false := by
        have hdigit : ∀ d : Digit, Text.isBlank d.char = false := by decide
        have hmark : ∀ c ∈ ['+', '-', '.', 'e', 'E'], Text.isBlank c = false := by
          simp [Text.isBlank]
        intro c hc
        rcases hspells.mem hc with ⟨d, rfl⟩ | hc
        · exact hdigit d
        · exact hmark c hc
      have hne : cs ≠ [] := by
        rintro rfl
        obtain ⟨d, hd⟩ := hspells.exists_digit
        cases hd
      rw [hcs, Text.trimChars_append hblank hinside hne]
      exact ⟨l, hspells, hround⟩
  parse?_eq := parse?_eq_filter text
  eq_none_of_mem c hc hdigit hmark := parse?_eq_none fun l hspells =>
    (hspells.mem hc).elim (fun ⟨d, hd⟩ => hdigit d hd) hmark
  eq_none_of_takeWhile hdigits := parse?_eq_none fun l hspells =>
    have ⟨d, hd⟩ := hspells.exists_digit
    hdigits d hd
  eq_none_of_getLast? c hc hdigit hpoint := parse?_eq_none fun l hspells =>
    (hspells.getLast? hc).elim (fun ⟨d, hd⟩ => hdigit d hd) hpoint
  eq_none_of_le l hspells hlarge := by
    rw [Option.eq_none_iff_forall_not_mem]
    intro x hx
    obtain ⟨l', hspells', hround⟩ := Number.parse?_eq_some_iff.mp hx
    -- a text spells one literal only
    rw [Literal.spells_iff] at hspells hspells'
    obtain rfl := Option.some.inj (hspells.symm.trans hspells')
    exact absurd hround.inRange (not_lt.mpr hlarge)

/-- The digits of another script have the shape of a number, but no reader of floats takes them. -/
example : hasShape "\u0661\u0662".toList = true ∧ parse? "\u0661\u0662" = none := by decide

end Number

end DataQuality
