import DataQuality.Json.Printer
import DataQuality.Json.Reader

/-!
# Texts in JSON documents

A text inside quotes is read back as it was (`DataQuality.Json.string?_escape`), whatever
characters it has and whatever follows it: a quote in it is escaped, so the first bare quote is the
closing one.
-/

namespace DataQuality.Json

theorem hexValue?_hexDigit {n : Nat} (h : n < 16) : hexValue? (hexDigit n) = some n := by
  revert n
  decide

/-- Every character is written somehow. -/
theorem escapeChar_ne_nil (c : Char) : escapeChar c ≠ [] := by
  unfold escapeChar
  repeat' split
  all_goals exact List.cons_ne_nil _ _

theorem length_le_length_escape (cs : List Char) : cs.length ≤ (escape cs).length := by
  induction cs with
  | nil => exact Nat.le_refl _
  | cons c cs ih =>
    have hpos := List.length_pos_iff.mpr (escapeChar_ne_nil c)
    simp only [escape, List.flatMap_cons, List.length_cons, List.length_append] at ih ⊢
    omega

/-- A control character is read back from its four hexadecimal digits. -/
theorem unicodeEscape?_control {c : Char} (h : c.toNat < 32) (cs : List Char) :
    unicodeEscape? .strict
      ('0' :: '0' :: hexDigit (c.toNat / 16) :: hexDigit (c.toNat % 16) :: cs) = some (c, cs) := by
  have hunit : fourHex? ('0' :: '0' :: hexDigit (c.toNat / 16) :: hexDigit (c.toNat % 16) :: cs) =
      some (c.toNat, cs) := by
    have hzero : hexValue? '0' = some 0 := by decide
    simp only [fourHex?, hzero, hexValue?_hexDigit (show c.toNat / 16 < 16 by omega),
      hexValue?_hexDigit (Nat.mod_lt c.toNat (by decide)), Option.bind_eq_bind, Option.bind_some,
      Option.pure_def, Option.some.injEq, Prod.mk.injEq, and_true]
    omega
  simp only [unicodeEscape?, hunit, Option.bind_eq_bind, Option.bind_some]
  rw [if_neg (by omega), if_neg (by omega), Char.ofNat_toNat]
  rfl

/-- **One character of a text is read back**, and the reading goes on behind it. -/
theorem stringRest?_escapeChar (c : Char) (fuel : Nat) (cs : List Char) :
    stringRest? .strict (fuel + 1) (escapeChar c ++ cs) =
      (stringRest? .strict fuel cs).map fun (ds, rest) => (c :: ds, rest) := by
  have hescape : ∀ tail : List Char, escaped? .strict tail = some (c, cs) →
      stringRest? .strict (fuel + 1) ('\\' :: tail) =
        (stringRest? .strict fuel cs).map fun (ds, rest) => (c :: ds, rest) := by
    intro tail htail
    rw [stringRest?, if_neg (by decide), if_pos rfl, htail]
    dsimp only [Option.bind_eq_bind, Option.bind_some]
    cases stringRest? .strict fuel cs <;> rfl
  -- the cases of the writer, in its order: all but the plain characters are escapes
  unfold escapeChar
  split
  · next h => subst h; exact hescape _ rfl
  split
  · next h => subst h; exact hescape _ rfl
  split
  · next hquote hbackslash hplain =>
    have hplain' : StringRules.strict.isPlain c = true := decide_eq_true hplain
    rw [List.singleton_append, stringRest?, if_neg hquote, if_neg hbackslash, if_pos hplain']
    cases stringRest? .strict fuel cs <;> rfl
  split
  · next h => subst h; exact hescape _ rfl
  split
  · next h => subst h; exact hescape _ rfl
  split
  · next h => subst h; exact hescape _ rfl
  split
  · next h =>
    obtain rfl : c = '\x08' := Char.toNat_inj.mp h
    exact hescape _ rfl
  split
  · next h =>
    obtain rfl : c = '\x0c' := Char.toNat_inj.mp h
    exact hescape _ rfl
  · next hcontrol _ _ _ _ _ => exact hescape _ (unicodeEscape?_control (by omega) cs)

/-- The characters of a text are read back up to the quote. -/
theorem stringRest?_escape (cs rest : List Char) (fuel : Nat) :
    stringRest? .strict (cs.length + 1 + fuel) (escape cs ++ '"' :: rest) = some (cs, rest) := by
  induction cs with
  | nil => simp [escape, stringRest?, Nat.add_comm]
  | cons c cs ih =>
    have hfuel : (c :: cs).length + 1 + fuel = (cs.length + 1 + fuel) + 1 := by
      rw [List.length_cons]
      omega
    have hchars : escape (c :: cs) ++ '"' :: rest = escapeChar c ++ (escape cs ++ '"' :: rest) := by
      rw [escape, escape, List.flatMap_cons, List.append_assoc]
    rw [hfuel, hchars, stringRest?_escapeChar, ih, Option.map_some]

/-- **A text is read back**, whatever follows its closing quote. -/
theorem string?_escape (s : String) (rest : List Char) :
    string? (escape s.toList ++ '"' :: rest) = some (s, rest) := by
  have hfuel : s.toList.length + 1 ≤ (escape s.toList ++ '"' :: rest).length + 1 := by
    have hle := length_le_length_escape s.toList
    rw [List.length_append]
    omega
  obtain ⟨k, hk⟩ := Nat.exists_eq_add_of_le hfuel
  rw [string?, hk, stringRest?_escape]
  simp

end DataQuality.Json
