import DataQuality.Number.Cell
import DataQuality.Number.Layout
import DataQuality.Text.Case
import DataQuality.Json.Basic

/-!
# Cells

A cell of a sheet holds a number, a text, a truth value, or nothing. Several notions of “empty” live
side by side, and each consumer picks its own:

* `DataQuality.Cell.isBlank`, for rules and for the quick scan: nothing, blank text, or a marker
  that says “not available”;
* `DataQuality.Cell.isProfileBlank`, for the data profile: nothing, blank text, or a lone dash;
* `DataQuality.Cell.isEmptyText`, for rules that read an empty cell as zero: nothing or blank
  text.

A spreadsheet error such as `#DIV/0!` is not empty; the profile counts it on its own.

Two cells are **alike** (`DataQuality.Cell.alike`) when they hold the same kind of content and the
same content, numbers being compared by value: a zero has no sign there, and what is not a number
is not alike even to itself.
-/

namespace DataQuality

/-- The content of a **cell**. -/
inductive Cell where
  /-- Nothing. -/
  | null
  /-- A truth value. -/
  | bool (value : Bool)
  /-- A number. -/
  | number (value : Float)
  /-- A text, spreadsheet errors included. -/
  | text (value : String)
  deriving DecidableEq, Inhabited

/-! ### Markers -/

/-- The marker that a literal “not available” is read as. -/
def notAvailable : String := "#N/A"

/-- The markers that say that a value is not available. -/
def blankMarkers : List String := [notAvailable, "NA"]

/-- The error literals of spreadsheets. -/
def errorMarkers : List String := ["#DIV/0!", "#REF!", "#VALUE!", "#N/A"]

/-- Whether a text is one of the given markers, blank characters around it and the case of its
letters aside. -/
def isMarker (markers : List String) (text : String) : Bool :=
  markers.any (Text.sameLetters (Text.trim text))

/-- Whether a text says that a value is not available. -/
def isNotAvailable (text : String) : Bool := isMarker blankMarkers text

namespace Cell

/-! ### Display -/

/-- The text of a truth value. -/
def boolText (b : Bool) : String := if b then "true" else "false"

/-- The **displayed text** of a cell. -/
def display : Cell → String
  | .null => ""
  | .bool b => boolText b
  | .number n => Number.display n
  | .text s => s

/-- The displayed text without blank characters at its ends. -/
def trimmed (c : Cell) : String := Text.trim c.display

/-- The displayed text in lower case, by which texts are compared. -/
def folded (c : Cell) : String := Text.lowercase c.display

/-! ### Emptiness -/

/-- The null cell. -/
def isNull : Cell → Bool
  | .null => true
  | _ => false

/-- A cell that is **blank** for rules and for the quick scan. -/
def isBlank : Cell → Bool
  | .null => true
  | .text s => Text.isBlankText s || isNotAvailable s
  | .bool _ => false
  | .number _ => false

/-- A cell that is blank for the profile. -/
def isProfileBlank (c : Cell) : Bool := c.trimmed == "" || c.trimmed == "-"

/-- A cell whose displayed text is blank. -/
def isEmptyText (c : Cell) : Bool := c.trimmed == ""

/-- A text cell with an error literal of a spreadsheet. -/
def isErrorMarker : Cell → Bool
  | .text s => isMarker errorMarkers s
  | _ => false

/-! ### Numbers -/

/-- The finite **number that a cell holds**, as a number or as a text. -/
def number? : Cell → Option Float
  | .number n => if n.isFinite then some n else none
  | .text s => Number.parse? s
  | .null => none
  | .bool _ => none

/-- The number that a cell holds, zero when it holds none. -/
def numberOrZero (c : Cell) : Float := c.number?.getD 0

/-- Whether a cell holds the number zero. -/
def isZero (c : Cell) : Bool :=
  match c.number? with
  | some n => n == 0
  | none => false

/-! ### Comparison -/

/-- Equality of kind and content, numbers being compared by value. -/
def alike : Cell → Cell → Bool
  | .null, .null => true
  | .bool a, .bool b => a == b
  | .number a, .number b => a == b
  | .text a, .text b => a == b
  | _, _ => false

/-- A **key** that two cells share when they count as one distinct value. The number `1` and the
text `1` have different keys. -/
def distinctKey : Cell → String
  | .null => "null"
  | .bool b => "b:" ++ boolText b
  | .number n => "n:" ++ Number.display n
  | .text s => "s:" ++ s

/-- The JSON value of a cell. -/
def toJson : Cell → Json
  | .null => .null
  | .bool b => .bool b
  | .number n => .ofFloat n
  | .text s => .string s

end Cell

end DataQuality
