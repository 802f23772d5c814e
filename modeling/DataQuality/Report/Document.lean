import DataQuality.Report.Basic

/-!
# Reports as JSON

The parts of a report as JSON values, and two documents made of them. The first one,
`DataQuality.Report.document`, shows what the settings ask for; the keys of its objects are
sorted. The second one, `DataQuality.Report.record`, holds all the parts of the report in a fixed
order, except for the dataset.
-/

namespace DataQuality

/-- A natural number as a JSON value, null when there is none. -/
def optionalNat (n : Option Nat) : Json := .ofOption .ofNat n

/-- A list of texts as a JSON value. -/
def textList (xs : List String) : Json := .array (xs.map .string)

/-- A list of natural numbers as a JSON value. -/
def natList (xs : List Nat) : Json := .array (xs.map .ofNat)

/-! ### Outcomes of runs -/

/-- A failure as a JSON value. -/
def Failure.toJson (f : Failure) : Json :=
  .object [("column", .string f.column), ("rule_name", .string f.ruleName),
    ("message", .string f.message)]

/-- An evaluation as a JSON value. -/
def Evaluation.toJson (e : Evaluation) : Json :=
  .object [("rule_id", .ofNat e.ruleId.toNat), ("description", .string e.description),
    ("passed", .bool e.passed), ("observed_value", e.observed.toJson)]

/-- A verdict as a JSON value. -/
def RowVerdict.toJson (v : RowVerdict) : Json :=
  .object [("row_index", .ofNat v.rowIndex), ("passed", .bool v.passed),
    ("failure_reasons", .array (v.failures.map (·.toJson))),
    ("evaluations", .array (v.evaluations.map (·.toJson))),
    ("is_duplicate", .bool v.isDuplicate), ("duplicate_of", optionalNat v.duplicateOf)]

/-- A summary as a JSON value. -/
def Summary.toJson (s : Summary) : Json :=
  .object [("total", .ofNat s.total), ("passed", .ofNat s.passed), ("failed", .ofNat s.failed),
    ("pass_percentage", .ofFloat s.passPercentage), ("quality_score", .ofFloat s.qualityScore),
    ("impacted_rows", natList s.impactedRows)]

/-- The outcome of a run as a JSON value. -/
def Execution.toJson (e : Execution) : Json :=
  .object [("results", .array (e.results.map (·.toJson))), ("summary", e.summary.toJson),
    ("global_errors", textList e.globalErrors)]

/-! ### Profiles and scans -/

/-- The profile of a column as a JSON value. -/
def ColumnProfile.toJson (c : ColumnProfile) : Json :=
  .object [("name", .string c.name), ("blank_count", .ofNat c.blankCount),
    ("error_marker_count", .ofNat c.errorMarkerCount), ("zero_count", .ofNat c.zeroCount),
    ("unique_value_count", .ofNat c.uniqueValueCount)]

/-- The profile of a dataset as a JSON value. -/
def DataProfile.toJson (p : DataProfile) : Json :=
  .object [("columns", .array (p.columns.map (·.toJson))),
    ("metadata", .object [("total_rows", .ofNat p.totalRows),
      ("duplicate_row_count", .ofNat p.duplicateRowCount)])]

/-- A range of numbers as a JSON value. -/
def NumericRange.toJson (r : NumericRange) : Json :=
  .object [("min", .ofFloat r.min), ("max", .ofFloat r.max), ("avg", .ofFloat r.avg)]

/-- A range of lengths as a JSON value. -/
def LengthRange.toJson (r : LengthRange) : Json :=
  .object [("min_length", .ofNat r.minLength), ("max_length", .ofNat r.maxLength)]

/-- The findings on a column as a JSON value. -/
def ColumnMetrics.toJson (c : ColumnMetrics) : Json :=
  .object [("name", .string c.name), ("unique_count", .ofNat c.uniqueCount),
    ("uniqueness_ratio", .ofFloat c.uniquenessRatio), ("null_count", .ofNat c.nullCount),
    ("null_rate", .ofFloat c.nullRate), ("inferred_type", .string c.inferredType.id),
    ("is_primary_key_candidate", .bool c.isPrimaryKeyCandidate),
    ("numeric", .ofOption NumericRange.toJson c.numeric),
    ("text", .ofOption LengthRange.toJson c.text)]

/-- The findings of a quick scan as a JSON value. -/
def QuickScan.toJson (s : QuickScan) : Json :=
  .object [("duplicate_row_indices", natList s.duplicateRowIndices),
    ("columns", .array (s.columns.map (·.toJson))),
    ("stats", .object [("total_rows", .ofNat s.totalRows), ("total_columns", .ofNat s.totalColumns),
      ("null_count", .ofNat s.nullCount)])]

/-! ### Documents -/

namespace Report

/-- The rules of a report as a JSON value. -/
def rulesJson (rules : List Rule) : Json := .array (rules.map (·.toJson))

/-- The **document** of a report: what the settings ask for, with sorted keys. -/
def document (settings : ReportSettings) (r : Report) : Json :=
  Json.sortKeys <| .object <|
    Json.optionalField "source" (r.source.map .string) ++
      (if settings.timestamps then [("generated_at", .string r.generatedAt.offsetText)] else []) ++
      [("passed", .bool r.execution.isClean), ("summary", r.execution.summary.toJson),
        ("global_errors", textList r.execution.globalErrors)] ++
      (if settings.rows then
        [("rows", .array ((selected settings r.execution).map (·.toJson)))] else []) ++
      Json.optionalField "rules_applied" (r.rules.map rulesJson) ++
      (if settings.profile then
        Json.optionalField "data_profile" (r.profile.map (·.toJson)) else []) ++
      if settings.quickScan then
        Json.optionalField "quick_scan" (r.quickScan.map (·.toJson)) else []

/-- All parts of a report but the dataset, in a fixed order. -/
def record (r : Report) : Json :=
  .object [("source", .ofOption .string r.source), ("generated_at", .string r.generatedAt.zuluText),
    ("execution", r.execution.toJson), ("data_profile", .ofOption DataProfile.toJson r.profile),
    ("quick_scan", .ofOption QuickScan.toJson r.quickScan), ("rules", .ofOption rulesJson r.rules)]

/-- The document of a report as text, indented or compact. -/
def documentText (pretty : Bool) (settings : ReportSettings) (r : Report) : String :=
  if pretty then (r.document settings).indented else (r.document settings).compact

end Report

end DataQuality
