/-!
# Blank characters and trimming

Texts come from sheets and files, so “empty” has to see through every kind of space that they use:
the ASCII ones, the no-break space, the typographic spaces and the line and paragraph separators.
This file fixes that class, `DataQuality.Text.isBlank`, and the removal of such characters from the
two ends of a text, `DataQuality.Text.trim`.

Everything is defined on lists of characters; the functions on `String` are the same ones seen
through `String.toList`.
-/

namespace DataQuality.Text

/-! ### The blank characters -/

/-- The **blank characters**: the twenty-five code points with the White_Space property. A
zero-width space (U+200B) and a byte order mark (U+FEFF) are not among them. -/
def isBlank (c : Char) : Bool :=
  let n := c.toNat
  (9 ≤ n && n ≤ 13) || n == 0x20 || n == 0x85 || n == 0xA0 || n == 0x1680 ||
    (0x2000 ≤ n && n ≤ 0x200A) || n == 0x2028 || n == 0x2029 || n == 0x202F || n == 0x205F ||
    n == 0x3000

/-! ### Trimming -/

/-- The characters from the first one on that is not blank. -/
def trimStartChars (cs : List Char) : List Char := cs.dropWhile isBlank

/-- The characters up to the last one that is not blank. -/
def trimEndChars (cs : List Char) : List Char := (cs.reverse.dropWhile isBlank).reverse

/-- The characters between the first and the last one that is not blank, both included. -/
def trimChars (cs : List Char) : List Char := trimEndChars (trimStartChars cs)

/-- A text without the blank characters at its two ends. -/
def trim (s : String) : String := String.ofList (trimChars s.toList)

/-- A text without the blank characters at its end. -/
def trimEnd (s : String) : String := String.ofList (trimEndChars s.toList)

/-- A text of blank characters only, the empty text included. -/
def isBlankText (s : String) : Bool := s.toList.all isBlank

@[simp] theorem toList_trim (s : String) : (trim s).toList = trimChars s.toList := by
  simp [trim]

@[simp] theorem toList_trimEnd (s : String) : (trimEnd s).toList = trimEndChars s.toList := by
  simp [trimEnd]

/-- Trimming only takes characters away. -/
theorem trimChars_sublist (cs : List Char) : (trimChars cs).Sublist cs := by
  have hend : (trimEndChars (trimStartChars cs)).Sublist (trimStartChars cs) := by
    rw [trimEndChars, ← List.reverse_sublist, List.reverse_reverse]
    exact List.dropWhile_sublist isBlank
  exact hend.trans (List.dropWhile_sublist isBlank)

end DataQuality.Text
