/-!
# Settings of a run

How a run treats absent columns, how closely totals have to agree, whether repeated rows are marked,
and which events it leaves behind.
-/

namespace DataQuality

/-- What becomes of a row rule on a row that **lacks a column** which the rule needs. -/
inductive MissingPolicy where
  /-- The rule is passed over for that row. -/
  | skip
  /-- The row fails the rule. -/
  | fail
  deriving DecidableEq, Inhabited

/-- The name of a policy in events. -/
def MissingPolicy.name : MissingPolicy → String
  | .skip => "Skip"
  | .fail => "Fail"

/-- Which **events** a run leaves behind. -/
structure LogSettings where
  /-- Whether each outcome of a rule leaves an event. -/
  ruleDetails : Bool
  /-- Whether operations on whole datasets leave events. -/
  dataOperations : Bool
  /-- How many characters of a cell an event shows. -/
  maxFieldLength : Nat
  deriving DecidableEq

namespace LogSettings

/-- Operations on datasets only. -/
def default : LogSettings := ⟨false, true, 256⟩

/-- Everything, with long cells. -/
def verbose : LogSettings := ⟨true, true, 1024⟩

/-- Warnings and summaries only. -/
def quiet : LogSettings := ⟨false, false, 128⟩

end LogSettings

/-- The **settings** of a run. -/
structure Settings where
  /-- What becomes of row rules on rows that lack a column. -/
  missing : MissingPolicy
  /-- How far a total may be off. -/
  tolerance : Float
  /-- Whether repeated rows are marked. -/
  flagDuplicates : Bool
  /-- Which events the run leaves behind. -/
  log : LogSettings

namespace Settings

/-- The tolerance that is usual for totals. -/
def defaultTolerance : Float := 1e-6

/-- The usual settings: absent columns are passed over, repeated rows are marked. -/
def default : Settings := ⟨.skip, defaultTolerance, true, .default⟩

/-- The usual settings, except that a row which lacks a column fails. -/
def strict : Settings := { default with missing := .fail }

/-- A tolerance that is not negative; what is not a number is no tolerance at all. -/
def clampTolerance (t : Float) : Float := if 0 < t then t else 0

end Settings

end DataQuality
