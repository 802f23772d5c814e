import DataQuality.Json.Basic
import DataQuality.Cell
import DataQuality.Text.Digit

/-!
# Stored types

Before the values of a file become cells, every column is given one type in which all of its
values are stored, `DataQuality.StoredType`. It is found from the first records of the file and
holds for all the others: a later value that does not fit is an error, and not a reason to look
again.

The types are joined value by value (`DataQuality.StoredType.join`): nothing gives way to
everything, whole numbers give way to floats, and types that have nothing in common make texts.

A column in which nothing was ever seen holds empty texts.
-/

namespace DataQuality

/-- The type in which the values of a column are **stored**. -/
inductive StoredType where
  /-- No value was seen. -/
  | nothing
  /-- Truth values. -/
  | flag
  /-- Whole numbers of 64 bits, with sign. -/
  | integer
  /-- Floats. -/
  | float
  /-- Texts. -/
  | text
  deriving DecidableEq, Inhabited

namespace StoredType

/-- The type of a column that holds values of two types. -/
def join : StoredType → StoredType → StoredType
  | .nothing, t => t
  | t, .nothing => t
  | .integer, .float => .float
  | .float, .integer => .float
  | s, t => if s = t then s else .text

end StoredType

/-! ### Whole numbers -/

/-- Whether a whole number fits into 64 bits with a sign. -/
def fitsSignedWord (n : Int) : Bool :=
  Int64.minValue.toInt ≤ n && n ≤ Int64.maxValue.toInt

namespace Literal

/-- The value of a literal without a point and a power of ten. -/
def integer? (l : Literal) : Option Int :=
  if l.fraction.isNone && l.exponent.isNone && !l.whole.isEmpty then
    some (if l.isNegative then -(Digit.value l.whole : Int) else Digit.value l.whole)
  else none

/-- The whole number of 64 bits that a literal denotes. -/
def signedWord? (l : Literal) : Option Int := l.integer?.filter fitsSignedWord

end Literal

/-- The cell of a whole number: the nearest float. There is no negative zero among them. -/
def integerCell (n : Int) : Cell := .number (Float.ofInt n)

/-! ### Reading texts -/

namespace StoredType

/-- The words for floats without digits. -/
def specialFloats : List (String × Float) :=
  [("inf", Number.infinity), ("infinity", Number.infinity), ("nan", 0.0 / 0.0)]

/-- The float that a word stands for, the case of its letters aside. -/
def specialFloat? (cs : List Char) : Option Float :=
  (specialFloats.find? fun (word, _) => Text.sameLetters word (String.ofList cs)).map Prod.snd

/-- The float that the characters of a text denote: a literal, or a word with an optional sign. -/
def floatOfChars? (cs : List Char) : Option Float :=
  match (Literal.ofChars? cs).filter (·.isCellNumber) with
  | some l => some l.toFloat
  | none =>
    match Sign.scan cs with
    | (some .minus, rest) => (specialFloat? rest).map (- ·)
    | (_, rest) => specialFloat? rest

/-- The truth value that a text names. -/
def flagOfText? (s : String) : Option Bool :=
  if Text.sameLetters s "true" then some true
  else if Text.sameLetters s "false" then some false
  else none

/-- The cell of a text in a column of the given type; there is none when the text does not fit. -/
def cellOfText? (t : StoredType) (s : String) : Option Cell :=
  match t with
  | .nothing => some (.text "")
  | .flag => (flagOfText? s).map .bool
  | .integer => ((Literal.ofChars? s.toList).bind (·.signedWord?)).map integerCell
  | .float => (floatOfChars? s.toList).map .number
  | .text => some (.text s)

/-- The cell of an absent value. -/
def cellOfAbsent : StoredType → Cell
  | .nothing => .text ""
  | _ => .null

end StoredType

end DataQuality
