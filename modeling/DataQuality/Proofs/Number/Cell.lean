import DataQuality.Proofs.Number.Layout
import DataQuality.Rule.Operator

/-!
# The texts of numbers

Of a cell that holds a number the displayed text is, without the blank characters around it, a
decimal literal up to the case of its `e` (`DataQuality.Cell.exists_literal`). This is so for a
number, which is displayed in the plain layout, and for a text that is read as a number.

A literal has a digit, and no comma. So a cell with a number in it is not blank, under any of the
notions of blankness that rules use, it is none of the markers, and it lists nothing: its text is
never taken for two bounds.
-/

namespace DataQuality

/-! ### What a scan takes off -/

theorem Digit.char_of_ofChar? {c : Char} {d : Digit} (h : ofChar? c = some d) : d.char = c := by
  unfold ofChar? at h
  split at h
  · next hrange =>
    obtain rfl := Option.some.inj h
    change Char.ofNat (48 + (c.toNat - 48)) = c
    rw [Nat.add_sub_cancel' hrange.1, Char.ofNat_toNat]
  · cases h

/-- The digits taken off stood in front of the rest. -/
theorem Digit.eq_of_scan {cs rest : List Char} {ds : List Digit} (h : scan cs = (ds, rest)) :
    cs = ds.map char ++ rest := by
  induction cs generalizing ds with
  | nil =>
    obtain ⟨rfl, rfl⟩ := Prod.mk.inj h
    rfl
  | cons c cs ih =>
    unfold scan at h
    split at h
    · next d hd =>
      obtain ⟨rfl, rfl⟩ := Prod.mk.inj h
      rw [List.map_cons, List.cons_append, ← ih rfl, char_of_ofChar? hd]
    · obtain ⟨rfl, rfl⟩ := Prod.mk.inj h
      rfl

theorem Sign.eq_of_scan {cs rest : List Char} {sign : Option Sign} (h : scan cs = (sign, rest)) :
    cs = Literal.signChars sign ++ rest := by
  unfold scan at h
  split at h <;> obtain ⟨rfl, rfl⟩ := Prod.mk.inj h <;> rfl

namespace Literal

theorem eq_of_scanFraction {cs rest : List Char} {fraction : Option (List Digit)}
    (h : scanFraction cs = (fraction, rest)) : cs = fractionChars fraction ++ rest := by
  unfold scanFraction at h
  split at h
  · obtain ⟨rfl, rfl⟩ := Prod.mk.inj h
    rw [fractionChars, List.cons_append, ← Digit.eq_of_scan rfl]
  · obtain ⟨rfl, rfl⟩ := Prod.mk.inj h
    rfl

/-! ### Lower case -/

theorem map_toLower_digits (ds : List Digit) :
    (ds.map Digit.char).map Char.toLower = ds.map Digit.char := by
  have hdigit : ∀ d : Digit, d.char.toLower = d.char := by decide
  rw [List.map_map]
  exact List.map_congr_left fun d _ => hdigit d

theorem map_toLower_signChars (sign : Option Sign) :
    (signChars sign).map Char.toLower = signChars sign := by
  rcases sign with _ | _ | _ <;> rfl

theorem map_toLower_fractionChars (fraction : Option (List Digit)) :
    (fractionChars fraction).map Char.toLower = fractionChars fraction := by
  cases fraction with
  | none => rfl
  | some ds => exact congrArg ('.' :: ·) (map_toLower_digits ds)

/-- The letter in front of a power of ten may be a capital; the other characters have no case. -/
theorem map_toLower_of_scanExponent {cs rest : List Char} {exponent : Option Exponent}
    (h : scanExponent cs = (exponent, rest)) :
    cs.map Char.toLower = exponentChars exponent ++ rest.map Char.toLower := by
  unfold scanExponent at h
  split at h
  · obtain ⟨rfl, rfl⟩ := Prod.mk.inj h
    rfl
  next c tail =>
    split at h
    · next hletter =>
      have hlower : c.toLower = 'e' := by rcases hletter with rfl | rfl <;> rfl
      rcases hsign : Sign.scan tail with ⟨sign, afterSign⟩
      rcases hdigits : Digit.scan afterSign with ⟨_ | ⟨d, ds⟩, rest'⟩
      · rw [hsign] at h
        simp only [hdigits, Prod.mk.injEq] at h
        obtain ⟨rfl, rfl⟩ := h
        rfl
      · rw [hsign] at h
        simp only [hdigits, Prod.mk.injEq] at h
        obtain ⟨rfl, rfl⟩ := h
        rw [Sign.eq_of_scan hsign, Digit.eq_of_scan hdigits, List.map_cons, hlower,
          List.map_append, List.map_append, map_toLower_signChars, map_toLower_digits,
          exponentChars, List.cons_append, List.append_assoc]
    · obtain ⟨rfl, rfl⟩ := Prod.mk.inj h
      rfl

/-- **A text is its literal and the rest**, the case of letters aside. -/
theorem map_toLower_of_scan {cs rest : List Char} {l : Literal} (h : scan cs = (l, rest)) :
    cs.map Char.toLower = l.chars ++ rest.map Char.toLower := by
  unfold scan at h
  rcases hsign : Sign.scan cs with ⟨sign, afterSign⟩
  rcases hwhole : Digit.scan afterSign with ⟨whole, afterWhole⟩
  rcases hfraction : scanFraction afterWhole with ⟨fraction, afterFraction⟩
  rcases hexponent : scanExponent afterFraction with ⟨exponent, afterExponent⟩
  simp only [hsign, hwhole, hfraction, hexponent, Prod.mk.injEq] at h
  obtain ⟨rfl, rfl⟩ := h
  rw [chars_eq, Sign.eq_of_scan hsign, Digit.eq_of_scan hwhole, eq_of_scanFraction hfraction]
  simp only [List.map_append, List.append_assoc, map_toLower_of_scanExponent hexponent,
    map_toLower_signChars, map_toLower_digits, map_toLower_fractionChars]

theorem map_toLower_of_ofChars? {cs : List Char} {l : Literal} (h : ofChars? cs = some l) :
    cs.map Char.toLower = l.chars := by
  unfold ofChars? at h
  split at h
  · next l' hscan =>
    obtain rfl := Option.some.inj h
    rw [map_toLower_of_scan hscan, List.map_nil, List.append_nil]
  · cases h

/-! ### The characters of a literal -/

/-- The characters of a literal are its digits and **four more**. -/
theorem mem_chars {l : Literal} {c : Char} (h : c ∈ l.chars) :
    (∃ d : Digit, c = d.char) ∨ c ∈ ['+', '-', '.', 'e'] := by
  have hdigits : ∀ {ds : List Digit}, c ∈ ds.map Digit.char → ∃ d : Digit, c = d.char := by
    intro ds hc
    obtain ⟨d, -, rfl⟩ := List.mem_map.mp hc
    exact ⟨d, rfl⟩
  have hsign : ∀ {sign : Option Sign}, c ∈ signChars sign → c ∈ ['+', '-', '.', 'e'] := by
    intro sign hc
    rcases sign with _ | _ | _
    · cases hc
    · obtain rfl := List.mem_singleton.mp hc
      decide
    · obtain rfl := List.mem_singleton.mp hc
      decide
  rw [chars_eq, List.mem_append, List.mem_append, List.mem_append] at h
  rcases h with hc | hc | hc | hc
  · exact .inr (hsign hc)
  · exact .inl (hdigits hc)
  · rcases hfraction : l.fraction with _ | ds
    · rw [hfraction] at hc
      cases hc
    · rw [hfraction] at hc
      rcases List.mem_cons.mp hc with rfl | hc
      · exact .inr (by decide)
      · exact .inl (hdigits hc)
  · rcases hexponent : l.exponent with _ | e
    · rw [hexponent] at hc
      cases hc
    · rw [hexponent] at hc
      rcases List.mem_cons.mp hc with rfl | hc
      · exact .inr (by decide)
      · rcases List.mem_append.mp hc with hc | hc
        · exact .inr (hsign hc)
        · exact .inl (hdigits hc)

/-- The number in a cell has a digit. -/
theorem exists_digit_mem_chars {l : Literal} (h : l.isCellNumber = true) :
    ∃ d : Digit, d.char ∈ l.chars := by
  rw [chars_eq]
  rcases hwhole : l.whole with _ | ⟨d, ds⟩
  · rw [isCellNumber, hwhole, List.isEmpty_nil, Bool.not_true, Bool.false_or, fractionDigits] at h
    rcases hfraction : l.fraction with _ | _ | ⟨d, ds⟩
    · simp [hfraction] at h
    · simp [hfraction] at h
    · exact ⟨d, by simp [fractionChars]⟩
  · exact ⟨d, by simp⟩

theorem IsWhole.isCellNumber {l : Literal} (h : l.IsWhole) : l.isCellNumber = true := by
  rw [Literal.isCellNumber, List.isEmpty_eq_false_iff.mpr h.whole, Bool.not_false, Bool.true_or]

end Literal

/-! ### Trimming -/

namespace Text

/-- Trimming takes away **blank characters only**. -/
theorem mem_trimChars {c : Char} {cs : List Char} (hc : c ∈ cs) (hblank : isBlank c = false) :
    c ∈ trimChars cs := by
  have hdrop : ∀ {ds : List Char}, c ∈ ds → c ∈ ds.dropWhile isBlank := by
    intro ds hd
    rw [← List.takeWhile_append_dropWhile (p := isBlank) (l := ds)] at hd
    rcases List.mem_append.mp hd with hd | hd
    · exact absurd (List.mem_takeWhile_imp hd) (by simp [hblank])
    · exact hd
  exact List.mem_reverse.mpr (hdrop (List.mem_reverse.mpr (hdrop hc)))

/-- Nothing is trimmed off a text without blank characters. -/
theorem trimChars_of_forall {cs : List Char} (h : ∀ c ∈ cs, isBlank c = false) :
    trimChars cs = cs := by
  have hdrop : ∀ {ds : List Char}, (∀ c ∈ ds, isBlank c = false) → ds.dropWhile isBlank = ds := by
    intro ds hd
    cases ds with
    | nil => rfl
    | cons c ds => exact List.dropWhile_cons_of_neg (by simp [hd c List.mem_cons_self])
  rw [trimChars, trimStartChars, hdrop h, trimEndChars,
    hdrop fun c hc => h c (List.mem_reverse.mp hc), List.reverse_reverse]

/-- Nothing is left of a blank text. -/
theorem trimChars_of_isBlankText {s : String} (h : isBlankText s = true) :
    trimChars s.toList = [] := by
  have hall : ∀ c ∈ s.toList, isBlank c = true := List.all_eq_true.mp h
  rw [trimChars, trimStartChars, List.dropWhile_eq_nil_iff.mpr hall]
  rfl

/-- Nothing is left of a text exactly if it is blank. -/
theorem trim_eq_empty_iff {s : String} : trim s = "" ↔ isBlankText s = true := by
  rw [← String.toList_inj, toList_trim]
  constructor
  · intro htrim
    refine List.all_eq_true.mpr fun c hc => ?_
    by_contra hblank
    have hmem := mem_trimChars hc (Bool.not_eq_true _ ▸ hblank)
    rw [htrim] at hmem
    cases hmem
  · exact trimChars_of_isBlankText

/-- A text is not cut at a character that it does not have. -/
theorem splitOnce?_eq_none {sep : Char} {s : String} (h : sep ∉ s.toList) :
    splitOnce? sep s = none := by
  have hcut : ∀ {cs : List Char}, sep ∉ cs → cutAt? sep cs = none := by
    intro cs
    induction cs with
    | nil => exact fun _ => rfl
    | cons c cs ih =>
      intro hcs
      rw [List.mem_cons, not_or] at hcs
      rw [cutAt?, if_neg (Ne.symm hcs.1), ih hcs.2, Option.map_none]
  rw [splitOnce?, hcut h, Option.map_none]

end Text

/-- There are no blank characters in a literal. -/
theorem Literal.trimChars_chars (l : Literal) : Text.trimChars l.chars = l.chars := by
  have hdigit : ∀ d : Digit, Text.isBlank d.char = false := by decide
  have hmark : ∀ c ∈ ['+', '-', '.', 'e'], Text.isBlank c = false := by simp [Text.isBlank]
  refine Text.trimChars_of_forall fun c hc => ?_
  rcases mem_chars hc with ⟨d, rfl⟩ | hc
  · exact hdigit d
  · exact hmark c hc

/-- Nor are there any other characters than digits and the four. -/
theorem Literal.notMem_chars {c : Char} (hdigit : ∀ d : Digit, c ≠ d.char)
    (hmark : c ∉ ['+', '-', '.', 'e']) (l : Literal) : c ∉ l.chars := by
  intro hc
  rcases mem_chars hc with ⟨d, hd⟩ | hc
  · exact hdigit d hd
  · exact hmark hc

/-! ### Cells that hold a number -/

/-- What a text is read as is finite. -/
theorem Number.isFinite_of_parse? {s : String} {n : Float} (h : parse? s = some n) :
    n.isFinite = true := by
  unfold parse? at h
  split at h
  · split at h
    · next hfinite =>
      obtain rfl := Option.some.inj h
      exact hfinite
    · cases h
  · cases h

/-- So is the number in a cell. -/
theorem Cell.isFinite_of_number? {c : Cell} {n : Float} (h : c.number? = some n) :
    n.isFinite = true := by
  cases c with
  | null => cases h
  | bool b => cases h
  | number m =>
    rw [number?] at h
    split at h
    · next hfinite =>
      obtain rfl := Option.some.inj h
      exact hfinite
    · cases h
  | text s => exact Number.isFinite_of_parse? h

/-- A finite number is displayed as a literal. -/
theorem Number.exists_display_eq {n : Float} (h : n.isFinite = true) :
    ∃ l : Literal, l.IsWhole ∧ display n = l.text := by
  unfold display
  split
  · exact ⟨⟨none, [.zero], none, none⟩, ⟨List.cons_ne_nil _ _, by simp⟩, rfl⟩
  · rcases hliteral : Layout.ofFloat? .plain n with _ | l
    · rw [Layout.ofFloat?_eq_none_iff.mp hliteral] at h
      cases h
    · exact ⟨l, Layout.isWhole_ofFloat? hliteral, by rw [plain, write, hliteral]⟩

namespace Cell

section HoldsNumber

variable {c : Cell} {n : Float} (h : c.number? = some n)

include h

/-- **The text of a number is a literal**, blank characters around it and the case of its letter
aside. -/
theorem exists_literal :
    ∃ l : Literal, l.isCellNumber = true ∧ c.trimmed.toList.map Char.toLower = l.chars := by
  rw [trimmed, Text.toList_trim]
  cases c with
  | null => cases h
  | bool b => cases h
  | number m =>
    rw [number?] at h
    split at h
    · next hfinite =>
      obtain ⟨l, hwhole, hdisplay⟩ := Number.exists_display_eq hfinite
      have hscan : Literal.ofChars? l.chars = some l := by
        have hscan := Literal.scan_chars hwhole Literal.ends_nil
        rw [List.append_nil] at hscan
        rw [Literal.ofChars?, hscan]
      refine ⟨l, hwhole.isCellNumber, ?_⟩
      rw [display, hdisplay, Literal.text, String.toList_ofList, Literal.trimChars_chars,
        Literal.map_toLower_of_ofChars? hscan]
    · cases h
  | text s =>
    rw [number?, Number.parse?] at h
    split at h
    · next l hl =>
      unfold Number.cellLiteral? at hl
      split at hl
      · next l' hscan =>
        split at hl
        · next hgrammar =>
          obtain rfl := Option.some.inj hl
          exact ⟨l', hgrammar, Literal.map_toLower_of_ofChars? hscan⟩
        · cases hl
      · cases hl
    · cases h

/-- It has a digit, and so it is not the same as a text without digits. -/
theorem sameLetters_trimmed {marker : String}
    (hmarker : ∀ d : Digit, d.char ∉ marker.toList.map Char.toLower) :
    Text.sameLetters c.trimmed marker = false := by
  obtain ⟨l, hgrammar, hl⟩ := exists_literal h
  obtain ⟨d, hd⟩ := Literal.exists_digit_mem_chars hgrammar
  rw [Text.sameLetters, beq_eq_false_iff_ne]
  intro heq
  rw [← hl, heq] at hd
  exact hmarker d hd

theorem trimmed_ne_empty : c.trimmed ≠ "" := by
  intro hempty
  have hdigits : ∀ d : Digit, d.char ∉ "".toList.map Char.toLower := by simp
  have hletters := sameLetters_trimmed h hdigits
  rw [hempty] at hletters
  cases hletters

theorem isEmptyText_of_number? : c.isEmptyText = false := beq_false_of_ne (trimmed_ne_empty h)

theorem isBlank_of_number? : c.isBlank = false := by
  cases c with
  | null => cases h
  | bool b => cases h
  | number m => rfl
  | text s =>
    rw [isBlank, Bool.or_eq_false_iff]
    constructor
    · rw [← Bool.not_eq_true]
      intro hblank
      exact trimmed_ne_empty h
        (by rw [trimmed, display, Text.trim, Text.trimChars_of_isBlankText hblank])
    · rw [isNotAvailable, isMarker, List.any_eq_false]
      intro marker hmarker
      have hdigits : ∀ marker ∈ blankMarkers, ∀ d : Digit,
          d.char ∉ marker.toList.map Char.toLower := by decide
      exact Bool.eq_false_iff.mp (sameLetters_trimmed h (hdigits marker hmarker))

theorem isAbsent_of_number? : Operator.isAbsent c = false := by
  rw [Operator.isAbsent, isBlank_of_number? h, sameLetters_trimmed h (by decide), Bool.or_false]

/-- It has no comma. -/
theorem splitOnce?_of_number? : Text.splitOnce? ',' c.display = none := by
  obtain ⟨l, -, hl⟩ := exists_literal h
  refine Text.splitOnce?_eq_none fun hmem => ?_
  have hcomma : ',' ∈ c.trimmed.toList := by
    rw [trimmed, Text.toList_trim]
    exact Text.mem_trimChars hmem (by decide)
  have hchars := List.mem_map_of_mem (f := Char.toLower) hcomma
  rw [hl] at hchars
  exact Literal.notMem_chars (by decide) (by decide) l hchars

end HoldsNumber

end Cell

/-- **Every number is displayed**: also one without digits is not displayed as a text without
digits, if it is none of its own. -/
theorem Number.trim_display_ne {n : Float} {text : String}
    (hdigits : ∀ d : Digit, d.char ∉ text.toList.map Char.toLower)
    (hspecial : ∀ special ∈ ["0", "NaN", "-inf", "inf"], Text.trim special ≠ text) :
    Text.trim (display n) ≠ text := by
  rcases hfinite : n.isFinite with _ | _
  · have hliteral : Layout.ofFloat? .plain n = none := Layout.ofFloat?_eq_none_iff.mpr hfinite
    refine hspecial _ ?_
    rw [display, plain, write, hliteral, specialText]
    split_ifs <;> simp
  · have hnumber : (Cell.number n).number? = some n := by rw [Cell.number?, if_pos hfinite]
    have hletters := Cell.sameLetters_trimmed hnumber hdigits
    rw [Cell.trimmed, Cell.display] at hletters
    intro heq
    rw [heq, Text.sameLetters, beq_self_eq_true] at hletters
    cases hletters

end DataQuality
