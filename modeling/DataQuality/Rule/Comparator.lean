import DataQuality.Text.Blank
import DataQuality.Text.Case

/-!
# Comparators

The six binary comparisons, by which values of rows and totals of columns are judged. Each can be
read off two floats exactly, off two floats with a tolerance, and off the order of two texts.

Identifiers of operators are read leniently (`DataQuality.normalizeId`): spreadsheets put an
apostrophe in front of a symbol to keep it a text, and letters come in any case.
-/

namespace DataQuality

/-! ### Identifiers -/

/-- A list of characters without an apostrophe at its front. -/
def dropApostrophe : List Char → List Char
  | '\'' :: cs => cs
  | cs => cs

/-- The form in which an identifier of an operator is looked up: no blank characters around it, no
apostrophe in front of it, lower case. -/
def normalizeId (raw : String) : String :=
  Text.lowercase (Text.trim (String.ofList (dropApostrophe (Text.trim raw).toList)))

/-! ### Comparators -/

/-- A **comparison** of two values. -/
inductive Comparator where
  /-- Greater. -/
  | gt
  /-- Less. -/
  | lt
  /-- Greater or equal. -/
  | gte
  /-- Less or equal. -/
  | lte
  /-- Equal. -/
  | eq
  /-- Different. -/
  | neq
  deriving DecidableEq, Inhabited

namespace Comparator

/-- All comparators, in the order in which they are offered. -/
def all : List Comparator := [.gt, .lt, .gte, .lte, .eq, .neq]

/-- The identifier of a comparator. -/
def id : Comparator → String
  | .gt => "gt"
  | .lt => "lt"
  | .gte => "gte"
  | .lte => "lte"
  | .eq => "eq"
  | .neq => "neq"

/-- The mathematical symbol of a comparator. -/
def symbol : Comparator → String
  | .gt => ">"
  | .lt => "<"
  | .gte => ">="
  | .lte => "<="
  | .eq => "="
  | .neq => "!="

/-- The comparator with a normalized identifier, or with one of its symbols. -/
def ofNormalized? (id : String) : Option Comparator :=
  if id = "gt" ∨ id = ">" then some .gt
  else if id = "lt" ∨ id = "<" then some .lt
  else if id = "gte" ∨ id = ">=" then some .gte
  else if id = "lte" ∨ id = "<=" then some .lte
  else if id = "eq" ∨ id = "=" ∨ id = "==" then some .eq
  else if id = "neq" ∨ id = "!=" then some .neq
  else none

/-- The comparator that a text **names**. -/
def parse? (raw : String) : Option Comparator := ofNormalized? (normalizeId raw)

/-- The exact comparison of two floats. -/
def holds (c : Comparator) (a b : Float) : Bool :=
  match c with
  | .gt => b < a
  | .lt => a < b
  | .gte => b ≤ a
  | .lte => a ≤ b
  | .eq => a == b
  | .neq => a != b

/-- The comparison of two floats **with a tolerance**: strict comparisons have to clear it, the
other ones may miss by it. -/
def holdsWithin (c : Comparator) (tolerance a b : Float) : Bool :=
  match c with
  | .gt => b + tolerance < a
  | .lt => a < b - tolerance
  | .gte => b - tolerance ≤ a
  | .lte => a ≤ b + tolerance
  | .eq => (a - b).abs < tolerance
  | .neq => tolerance ≤ (a - b).abs

/-- The comparison read off the order of the left value and the right one. -/
def holdsOf (c : Comparator) (o : Ordering) : Bool :=
  match c with
  | .gt => o == .gt
  | .lt => o == .lt
  | .gte => o != .lt
  | .lte => o != .gt
  | .eq => o == .eq
  | .neq => o != .eq

end Comparator

/-- The order of two floats; there is none when one of them is not a number. -/
def floatOrder? (a b : Float) : Option Ordering :=
  if a < b then some .lt else if b < a then some .gt else if a == b then some .eq else none

end DataQuality
