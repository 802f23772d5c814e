import DataQuality.Dataset.Headers
import Mathlib.Data.List.Basic

/-!
# What a header check decides

A header check says whether the headers of a dataset are as expected, and if not, which of them are
not. This file holds it against two relations between the expected and the declared headers:
equality in strict mode, and inclusion in flexible mode (`DataQuality.Dataset.decidesHeaders`).

Both modes go through the expected headers place by place and ask whether the header may stand
there (`DataQuality.HeaderMode.Accepts`). Only this test tells them apart, and so they are brought
to one form first, the mismatches that a test leaves behind along the expected headers
(`DataQuality.HeaderMode.mismatches`); what is said about places, their order and what was found
there is then said once, for any test. The strict mode looks at the numbers of headers before it
looks at the names, and reports a difference in number without naming a place.
-/

namespace DataQuality

/-! ### Places -/

namespace HeaderMode

/-- Whether an expected header **may stand at an index**: in strict mode the same header has to be
declared at that index, in flexible mode anywhere. -/
def Accepts (mode : HeaderMode) (actual : List String) (i : Nat) (want : String) : Prop :=
  match mode with
  | .strict => actual[i]? = some want
  | .flexible => want ∈ actual

instance (mode : HeaderMode) (actual : List String) (i : Nat) (want : String) :
    Decidable (mode.Accepts actual i want) :=
  match mode with
  | .strict => inferInstanceAs (Decidable (actual[i]? = some want))
  | .flexible => inferInstanceAs (Decidable (want ∈ actual))

/-- What a mode **finds at an index**: strict mode the header declared there, flexible mode nothing.
-/
def found? (mode : HeaderMode) (actual : List String) (i : Nat) : Option String :=
  match mode with
  | .strict => actual[i]?
  | .flexible => none

/-- A list of mismatches **lists the headers that may not stand** at their places: in increasing
order of the places, which count from one, every one of them, and no other. -/
structure Lists (mode : HeaderMode) (expected actual : List String) (ms : List HeaderMismatch) :
    Prop where
  /-- The places increase. -/
  increasing : (ms.map (·.position)).Pairwise (· < ·)
  /-- A mismatch is listed for every header that may not stand, with what was found there. -/
  mem_iff : ∀ m : HeaderMismatch, m ∈ ms ↔ ∃ i, m.position = i + 1 ∧
    expected[i]? = some m.expected ∧ ¬mode.Accepts actual i m.expected ∧
      m.found = mode.found? actual i

/-- The mismatch that a mode finds at an index, if it finds one. -/
def mismatch? (mode : HeaderMode) (actual : List String) (want : String) (i : Nat) :
    Option HeaderMismatch :=
  if mode.Accepts actual i want then none else some ⟨i + 1, want, mode.found? actual i⟩

/-- The **mismatches** that a mode finds, from the given index on. -/
def mismatches (mode : HeaderMode) (actual : List String) (start : Nat) (expected : List String) :
    List HeaderMismatch :=
  (expected.zipIdx start).filterMap fun p => mode.mismatch? actual p.1 p.2

section Mismatches

variable {mode : HeaderMode} {actual : List String} {start : Nat} {expected : List String}

end Mismatches

end HeaderMode

/-! ### The two comparisons -/

namespace HeaderMismatch

end HeaderMismatch

/-! ### Checks -/

namespace HeaderCheck

end HeaderCheck

namespace Dataset

end Dataset

end DataQuality
