/-!
# Errors

Evaluation itself never fails: a malformed rule is skipped or passes, and bad data is a verdict.
Errors arise at the edges, when rule sets are changed, rule tables imported, headers checked,
files read and reports written. An error is a cause, `DataQuality.Error`; its wording is
`DataQuality.Error.message`.
-/

namespace DataQuality

/-- Why an operation at the edge of the library **failed**. -/
inductive Error where
  /-- A file of the given kind could not be read; the cause is a text of the system. -/
  | dataSource (kind text : String) (cause : Option String)
  /-- A table could not be scanned. -/
  | scan (text : String)
  /-- A column could not be converted. -/
  | conversion (text : String)
  /-- An option is invalid. -/
  | configuration (text : String)
  /-- A document could not be written or read. -/
  | serialization (text : String)
  /-- No rule has the given identity. -/
  | ruleNotFound (id : UInt64)
  /-- Another rule already has the given identity. -/
  | duplicateRuleId (id : UInt64)
  /-- A row of a rule table is no rule. -/
  | invalidRule (rule text : String)
  /-- The headers are not the expected ones. -/
  | headerMismatch (text : String)
  /-- A report could not be written. -/
  | report (text : String)
  /-- Another error, with a note on what was being done. -/
  | context (note : String) (source : Error)
  deriving DecidableEq, Inhabited

namespace Error

/-- The **wording** of an error. -/
def message : Error → String
  | .dataSource _ text _ => "Data source error: " ++ text
  | .scan text => "DataFusion error: " ++ text
  | .conversion text => "Arrow error: " ++ text
  | .configuration text => "Configuration error: " ++ text
  | .serialization text => "Serialization error: " ++ text
  | .ruleNotFound id => "Rule " ++ toString id.toNat ++ " not found"
  | .duplicateRuleId id => "Rule id " ++ toString id.toNat ++ " is already in use"
  | .invalidRule rule text => "Invalid rule '" ++ rule ++ "': " ++ text
  | .headerMismatch text => "Header mismatch: " ++ text
  | .report text => "Report error: " ++ text
  | .context note source => note ++ ": " ++ source.message

/-- The innermost error, below all notes. -/
def root : Error → Error
  | .context _ source => source.root
  | e => e

/-- The wordings of the errors below an error, outermost first, down to the cause of the innermost
one. -/
def causes : Error → List String
  | .context _ source => source.message :: source.causes
  | .dataSource _ _ cause => cause.toList
  | _ => []

/-- The error of a report that failed while its text was being put together. -/
def formatting : Error := .report "an error occurred when formatting an argument"

end Error

end DataQuality
