import DataQuality.Report.Basic

/-!
# Reports for the console

A report as lines of text, in sections: the overall verdict, the summary, the failures of
aggregate rules, the rows that are shown, the findings of the quick scan, and the profile. The
rows are limited in number, and a last line of their section tells how many more there are.
-/

namespace DataQuality.Report

/-! ### Colours -/

/-- A text in a colour, if colours are wanted. -/
def paint (color : String) (enabled : Bool) (text : String) : String :=
  if enabled then "\x1b[" ++ color ++ "m" ++ text ++ "\x1b[0m" else text

/-- A text in green. -/
def green : Bool → String → String := paint "32"

/-- A text in red. -/
def red : Bool → String → String := paint "31"

/-! ### Sections -/

/-- The overall verdict. -/
def verdictLines (settings : ReportSettings) (e : Execution) : List String :=
  ["", if e.isClean then "✅ " ++ green settings.colors "Data quality check PASSED"
    else "❌ " ++ red settings.colors "Data quality check FAILED", ""]

/-- Where the data come from, and when the report was made. -/
def originLines (settings : ReportSettings) (r : Report) : List String :=
  (match r.source with
    | some source => ["Source: " ++ source]
    | none => []) ++
    if settings.timestamps then ["Generated: " ++ r.generatedAt.offsetText] else []

/-- The summary. -/
def summaryLines (settings : ReportSettings) (e : Execution) : List String :=
  ["", "📊 Summary:",
    "   Rows: " ++ toString e.summary.total,
    "   ✅ Passed: " ++ green settings.colors (toString e.summary.passed),
    "   ❌ Failed: " ++ red settings.colors (toString e.summary.failed),
    "   Pass Rate: " ++ e.summary.passPercentageLabel ++ "%",
    "   Quality Score: " ++ e.summary.qualityScoreLabel ++ "/10",
    "   Duplicate Rows: " ++ toString e.duplicates.length]

/-- The failures of aggregate rules. -/
def globalLines (e : Execution) : List String :=
  if e.globalErrors.isEmpty then []
  else ["", "🌐 Aggregate Failures:"] ++ e.globalErrors.map ("   " ++ ·)

/-- The line of a row. -/
def rowLine (v : RowVerdict) : String :=
  "   Row " ++ toString v.rowIndex ++ ": " ++ v.statusLabel ++
    (if v.passed then "" else " - " ++ v.joinedMessages "; ") ++
    match v.duplicateOf with
    | some first => " (duplicate of row " ++ toString first ++ ")"
    | none => ""

/-- The line that counts the rows that are left out. -/
def remainderLines (settings : ReportSettings) (e : Execution) : List String :=
  let shown := (selected settings e).length
  let all := (eligible settings e).length
  if shown < all then ["   ... and " ++ toString (all - shown) ++ " more rows"] else []

/-- The rows that are shown. -/
def rowLines (settings : ReportSettings) (e : Execution) : List String :=
  if !settings.rows || (selected settings e).isEmpty then []
  else ["", "🔍 Rows:"] ++ (selected settings e).map rowLine ++ remainderLines settings e

/-- The line of a column in the quick scan. -/
def scanLine (c : ColumnMetrics) : String :=
  "   " ++ c.name ++ ": " ++ toString c.nullCount ++ " nulls (" ++
    Number.fixed 2 (c.nullRate * 100) ++ "%), " ++ toString c.uniqueCount ++ " unique (" ++
    Number.fixed 2 (c.uniquenessRatio * 100) ++ "%)" ++
    if c.isPrimaryKeyCandidate then ", primary key candidate" else ""

/-- The findings of the quick scan. -/
def scanLines (settings : ReportSettings) (r : Report) : List String :=
  match r.quickScan with
  | some s => if settings.quickScan then ["", "🧪 Quick Scan:"] ++ s.columns.map scanLine else []
  | none => []

/-- The line of a column in the profile. -/
def profileLine (c : ColumnProfile) : String :=
  "   " ++ c.name ++ ": " ++ toString c.blankCount ++ " blank, " ++ toString c.errorMarkerCount ++
    " errors, " ++ toString c.zeroCount ++ " zero, " ++ toString c.uniqueValueCount ++ " unique"

/-- The profile. -/
def profileLines (settings : ReportSettings) (r : Report) : List String :=
  match r.profile with
  | some p => if settings.profile then ["", "📋 Data Profile:"] ++ p.columns.map profileLine else []
  | none => []

/-! ### The report -/

/-- The lines of a report. -/
def consoleLines (settings : ReportSettings) (r : Report) : List String :=
  verdictLines settings r.execution ++ originLines settings r ++
    summaryLines settings r.execution ++ globalLines r.execution ++
    rowLines settings r.execution ++ scanLines settings r ++ profileLines settings r ++ [""]

/-- A report **for the console**: its lines, each with its end. -/
def consoleText (settings : ReportSettings) (r : Report) : String :=
  String.join ((consoleLines settings r).map (· ++ "\n"))

end DataQuality.Report
