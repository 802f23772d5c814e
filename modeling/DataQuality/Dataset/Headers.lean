import DataQuality.Dataset.Basic
import DataQuality.Error

/-!
# Header checks

The headers of a dataset are checked against an expected list in one of two modes. In strict mode
the two lists have to be equal; a different number of headers is reported as such, without looking
at the names. In flexible mode every expected header has to be declared somewhere.
-/

namespace DataQuality

/-- How closely headers are compared. -/
inductive HeaderMode where
  /-- The same headers at the same places. -/
  | strict
  /-- Every expected header at some place. -/
  | flexible
  deriving DecidableEq

/-- A header that is **not as expected**. -/
structure HeaderMismatch where
  /-- The place of the expected header, counted from one. -/
  position : Nat
  /-- The expected header. -/
  expected : String
  /-- What stands there instead, when that was looked at. -/
  found : Option String
  deriving DecidableEq

/-- The outcome of a header check. -/
structure HeaderCheck where
  /-- Whether the headers are as expected. -/
  valid : Bool
  /-- Why they are not. -/
  reason : Option String
  /-- The headers that are not as expected. -/
  mismatches : List HeaderMismatch
  deriving DecidableEq

namespace HeaderMismatch

/-- How many mismatches a reason describes. -/
def maxListed : Nat := 5

/-- The line that describes a mismatch. -/
def line (m : HeaderMismatch) : String :=
  match m.found with
  | some found =>
    "  • Column " ++ toString m.position ++ ": Expected \"" ++ m.expected ++ "\", found \"" ++
      found ++ "\""
  | none => "  • Column " ++ toString m.position ++ ": \"" ++ m.expected ++ "\" is missing"

/-- The lines that describe the first mismatches, and one that counts the others. -/
def lines (ms : List HeaderMismatch) : List String :=
  (ms.take maxListed).map line ++
    if maxListed < ms.length then
      ["  ... and " ++ toString (ms.length - maxListed) ++ " more mismatches"]
    else []

/-- The reason that mismatches give. -/
def describe (ms : List HeaderMismatch) : String :=
  "Column name mismatch detected:\n" ++ "\n".intercalate (lines ms)

/-- The mismatches of a place-by-place comparison, from the given place on. -/
def strict (position : Nat) : List String → List String → List HeaderMismatch
  | want :: wants, got :: gots =>
    if want = got then strict (position + 1) wants gots
    else ⟨position, want, some got⟩ :: strict (position + 1) wants gots
  | _, _ => []

/-- The expected headers that are not among the actual ones, from the given place on. -/
def flexible (actual : List String) (position : Nat) : List String → List HeaderMismatch
  | [] => []
  | want :: wants =>
    if want ∈ actual then flexible actual (position + 1) wants
    else ⟨position, want, none⟩ :: flexible actual (position + 1) wants

end HeaderMismatch

namespace HeaderCheck

/-- The outcome of a check that found the given mismatches. -/
def ofMismatches (ms : List HeaderMismatch) : HeaderCheck :=
  if ms.isEmpty then ⟨true, none, []⟩ else ⟨false, some (HeaderMismatch.describe ms), ms⟩

/-- The outcome of a check that found the wrong number of headers. -/
def ofCounts (expected actual : Nat) : HeaderCheck where
  valid := false
  reason := some <| "Header Count Mismatch: Expected " ++ toString expected ++ " columns, found " ++
    toString actual ++ "."
  mismatches := []

/-- The outcome of comparing an expected with an actual list of headers. -/
def compare (mode : HeaderMode) (expected actual : List String) : HeaderCheck :=
  match mode with
  | .strict =>
    if expected.length = actual.length then ofMismatches (HeaderMismatch.strict 1 expected actual)
    else ofCounts expected.length actual.length
  | .flexible => ofMismatches (HeaderMismatch.flexible actual 1 expected)

/-- A failed check as an error. -/
def toExcept (c : HeaderCheck) : Except Error Unit :=
  if c.valid then .ok () else .error (.headerMismatch (c.reason.getD ""))

end HeaderCheck

/-- The **header check** of a dataset. -/
def Dataset.checkHeaders (d : Dataset) (mode : HeaderMode) (expected : List String) : HeaderCheck :=
  HeaderCheck.compare mode expected d.names

end DataQuality
