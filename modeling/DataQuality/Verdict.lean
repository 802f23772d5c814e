import DataQuality.Cell

/-!
# Verdicts

What a run finds: a verdict on every row, the failures of aggregate rules, and a summary of both.
A verdict on a row lists every rule that was evaluated there, and a failure for each of these that
did not pass. That the same row appeared before is noted in the verdict, and does not make it
fail.
-/

namespace DataQuality

/-- Why a row **failed** a rule. -/
structure Failure where
  /-- The target of the rule. -/
  column : String
  /-- The name of the rule. -/
  ruleName : String
  /-- What is reported. -/
  message : String
  deriving DecidableEq

/-- The outcome of one rule on one row. -/
structure Evaluation where
  /-- The identity of the rule. -/
  ruleId : UInt64
  /-- The description of the rule. -/
  description : String
  /-- Whether the row passed. -/
  passed : Bool
  /-- The value that the rule looked at. -/
  observed : Cell
  deriving DecidableEq

/-- The **verdict on a row**. -/
structure RowVerdict where
  /-- The place of the row, counted from one. -/
  rowIndex : Nat
  /-- Whether the row passed every rule. -/
  passed : Bool
  /-- The failures, in rule order. -/
  failures : List Failure
  /-- The rules evaluated, in rule order. -/
  evaluations : List Evaluation
  /-- Whether the row repeats an earlier one. -/
  isDuplicate : Bool
  /-- The first row that this one repeats. -/
  duplicateOf : Option Nat
  deriving DecidableEq

namespace RowVerdict

/-- The verdict **with the mark** of a row that repeats the given one, or of one that repeats none.
A run writes both fields of the mark together. -/
def mark (v : RowVerdict) (reference : Option Nat) : RowVerdict :=
  { v with isDuplicate := reference.isSome, duplicateOf := reference }

@[simp] theorem isDuplicate_mark (v : RowVerdict) (reference : Option Nat) :
    (v.mark reference).isDuplicate = reference.isSome :=
  rfl

@[simp] theorem duplicateOf_mark (v : RowVerdict) (reference : Option Nat) :
    (v.mark reference).duplicateOf = reference :=
  rfl

/-- The messages of the failures. -/
def messages (v : RowVerdict) : List String := v.failures.map (·.message)

/-- The messages of the failures in one text. -/
def joinedMessages (v : RowVerdict) (separator : String) : String :=
  separator.intercalate v.messages

/-- The verdict in one word. -/
def statusLabel (v : RowVerdict) : String := if v.passed then "PASS" else "FAIL"

end RowVerdict

/-! ### Summaries -/

/-- A float with one place, a half going away from zero. -/
def roundToTenth (x : Float) : Float := Number.roundHalfAway (x * 10) / 10

/-- The **summary** of the verdicts on all rows. -/
structure Summary where
  /-- How many rows there are. -/
  total : Nat
  /-- How many of them passed. -/
  passed : Nat
  /-- How many of them failed. -/
  failed : Nat
  /-- The share of rows that passed, in percent with one place; zero when there are no rows. -/
  passPercentage : Float
  /-- A tenth of that share, with one place. -/
  qualityScore : Float
  /-- The places of the rows that failed, as a set: in increasing order, each of them once. -/
  impactedRows : List Nat

/-- A set of places with one more place. Sets are written as strictly increasing lists. -/
def insertPlace (place : Nat) : List Nat → List Nat
  | [] => [place]
  | p :: ps =>
    if place < p then place :: p :: ps
    else if place = p then p :: ps else p :: insertPlace place ps

/-- A place below all others comes first. -/
theorem insertPlace_of_lt {place : Nat} {ps : List Nat} (h : ∀ p ∈ ps, place < p) :
    insertPlace place ps = place :: ps := by
  cases ps with
  | nil => rfl
  | cons p ps => rw [insertPlace, if_pos (h p List.mem_cons_self)]

/-- **A strictly increasing list is the set of its elements.** -/
theorem foldr_insertPlace {ps : List Nat} (h : ps.Pairwise (· < ·)) :
    ps.foldr insertPlace [] = ps := by
  induction ps with
  | nil => rfl
  | cons p ps ih =>
    obtain ⟨hp, hps⟩ := List.pairwise_cons.mp h
    rw [List.foldr_cons, ih hps, insertPlace_of_lt hp]

namespace Summary

/-- The share of a part in a whole, in percent with one place. -/
def percentage (part whole : Nat) : Float :=
  if whole = 0 then 0 else roundToTenth (Float.ofNat part / Float.ofNat whole * 100)

/-- The set of the places of the rows that failed. -/
def impacted (verdicts : List RowVerdict) : List Nat :=
  ((verdicts.filter fun v => !v.passed).map (·.rowIndex)).foldr insertPlace []

/-- When the places increase, no two failing rows fall together. -/
theorem impacted_eq {verdicts : List RowVerdict}
    (h : (verdicts.map (·.rowIndex)).Pairwise (· < ·)) :
    impacted verdicts = (verdicts.filter fun v => !v.passed).map (·.rowIndex) :=
  foldr_insertPlace (h.sublist (List.filter_sublist.map _))

/-- The summary of some verdicts. -/
def ofVerdicts (verdicts : List RowVerdict) : Summary :=
  let total := verdicts.length
  let impacted := impacted verdicts
  let passed := total - impacted.length
  let share := percentage passed total
  ⟨total, passed, impacted.length, share, roundToTenth (share / 10), impacted⟩

/-- The share of rows that passed, as a text. -/
def passPercentageLabel (s : Summary) : String := Number.fixed 1 s.passPercentage

/-- The quality score, as a text. -/
def qualityScoreLabel (s : Summary) : String := Number.fixed 1 s.qualityScore

end Summary

/-! ### Executions -/

/-- The **outcome of a run**. -/
structure Execution where
  /-- The verdicts on the rows, in their order. -/
  results : List RowVerdict
  /-- Their summary. -/
  summary : Summary
  /-- The failures of aggregate rules, in rule order. -/
  globalErrors : List String

namespace Execution

/-- The failure messages of a row, by its place counted from one; none outside the dataset. -/
def failureStrings (e : Execution) (row : Nat) : List String :=
  match row with
  | 0 => []
  | i + 1 =>
    match e.results[i]? with
    | some v => v.messages
    | none => []

/-- The verdicts on the rows that repeat an earlier one. -/
def duplicates (e : Execution) : List RowVerdict := e.results.filter (·.isDuplicate)

/-- Whether no row and no aggregate rule failed. -/
def isClean (e : Execution) : Bool := e.summary.failed == 0 && e.globalErrors.isEmpty

end Execution

end DataQuality
