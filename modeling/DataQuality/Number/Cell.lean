import DataQuality.Number.Literal
import DataQuality.Text.Blank

/-!
# Numbers in texts

Sheets often hold numbers as texts. `DataQuality.Number.parse?` is the one rule by which such a
text counts as a number: blank characters around it aside, it has to be a decimal literal, and its
value has to be finite. Words for infinity or for what is not a number, separators between
thousands and digits outside ASCII are not part of the grammar.
-/

namespace DataQuality.Number

/-- The literal that the characters of a text are, if they are one that a cell may hold. -/
def cellLiteral? (cs : List Char) : Option Literal :=
  match Literal.ofChars? cs with
  | some l => if l.isCellNumber then some l else none
  | none => none

/-- The **number that a text holds**, if it holds one. -/
def parse? (text : String) : Option Float :=
  match cellLiteral? (Text.trimChars text.toList) with
  | some l => if l.toFloat.isFinite then some l.toFloat else none
  | none => none

end DataQuality.Number
