import DataQuality.Csv.Writer
import DataQuality.Report.Basic

/-!
# Reports row by row

The dataset as delimited text, with three more columns: the verdict on the row in one word, the
messages of its failures, and the first row that it repeats. Rows and verdicts belong together by
their place; a row without a verdict is marked as such.
-/

namespace DataQuality

/-- How a row report is **written**. -/
structure RowReportSettings where
  /-- The byte between two fields. -/
  delimiter : UInt8
  /-- What stands between two failure messages. -/
  separator : String
  deriving DecidableEq

/-- Commas between fields, semicolons between messages. -/
def RowReportSettings.default : RowReportSettings := ⟨44, "; "⟩

namespace Report

/-- The column with the verdict. -/
def statusColumn : String := "_QC_STATUS"
/-- The column with the failure messages. -/
def failureColumn : String := "_FAILURE_MESSAGE"
/-- The column with the first row that is repeated. -/
def duplicateColumn : String := "_DUPLICATE_OF"

/-- The headers of a row report. -/
def rowHeader (d : Dataset) : List String :=
  d.names ++ [statusColumn, failureColumn, duplicateColumn]

/-- The cells that a verdict adds to a row. -/
def verdictCells (separator : String) : Option RowVerdict → List String
  | none => ["N/A", "", ""]
  | some v =>
    [v.statusLabel, if v.passed then "" else v.joinedMessages separator,
      match v.duplicateOf with
      | some first => toString first
      | none => ""]

/-- The record of a row: the displayed cells of the declared columns, and what its verdict adds. -/
def rowRecord (separator : String) (names : List String) (row : Row) (v : Option RowVerdict) :
    List String :=
  names.map (fun name => (row.cell name).display) ++ verdictCells separator v

/-- The records of some rows, with the verdicts that stand at the same places. -/
def rowRecords (separator : String) (names : List String) :
    List Row → List RowVerdict → List (List String)
  | [], _ => []
  | row :: rows, [] => rowRecord separator names row none :: rowRecords separator names rows []
  | row :: rows, v :: vs =>
    rowRecord separator names row (some v) :: rowRecords separator names rows vs

/-- A report **row by row**. It needs the dataset, and a delimiter that is an ASCII character: any
other byte would leave a text that is not well-formed. -/
def rowText (settings : RowReportSettings) (r : Report) : Except Error String :=
  match r.dataset with
  | none => .error (.configuration "Row reports need the evaluated dataset")
  | some d =>
    if settings.delimiter.toNat < 128 then
      .ok <| Csv.document (Char.ofNat settings.delimiter.toNat) <|
        rowHeader d :: rowRecords settings.separator d.names d.rows r.execution.results
    else .error (.serialization "the row report is not valid UTF-8")

end Report

end DataQuality
