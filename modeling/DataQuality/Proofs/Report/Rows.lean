import DataQuality.Proofs.Csv.Spelling
import DataQuality.Report.Rows

/-!
# What a row report says

A row report is delimited text, and it can be read back cell for cell
(`DataQuality.Report.readsBack_rowText`): there is one record for the headers and one for every row,
and no cell, header or message can do anything to the fields around it, whatever characters it has.

Rows and verdicts belong together by their places. There may be fewer verdicts than rows, and then
the rows that are left over are marked; or there may be more, and then those that are left over are
not shown.
-/

namespace DataQuality

/-! ### The records of a report -/

/-- The text that a row has in a column: that of its cell, none if there is no cell. -/
def Row.textAt (row : Row) (name : String) : String :=
  match row.get? name with
  | some c => c.display
  | none => ""

theorem Row.display_cell (row : Row) (name : String) : (row.cell name).display = row.textAt name := by
  rw [cell, textAt]
  cases row.get? name <;> rfl

namespace Execution

/-- The **verdict at a place** in one word. -/
def statusAt (e : Execution) (place : Nat) : String :=
  match e.results[place]? with
  | none => "N/A"
  | some v => if v.passed then "PASS" else "FAIL"

/-- The messages of a row that failed, with a separator between them. -/
def messagesAt (e : Execution) (separator : String) (place : Nat) : String :=
  match e.results[place]? with
  | none => ""
  | some v => if v.passed then "" else separator.intercalate (v.failures.map (·.message))

/-- The first row that a row repeats, if it repeats one. -/
def referenceAt (e : Execution) (place : Nat) : String :=
  match e.results[place]?.bind (·.duplicateOf) with
  | none => ""
  | some first => toString first

end Execution

namespace Report

/-- The records of a dataset **with its verdicts**. -/
structure Lists (separator : String) (d : Dataset) (e : Execution)
    (records : List (List String)) : Prop where
  /-- There is one record for the headers, and one for every row. -/
  length_eq : records.length = 1 + d.rows.length
  /-- The headers are followed by those of the report. -/
  header : records[0]? = some (d.names ++ ["_QC_STATUS", "_FAILURE_MESSAGE", "_DUPLICATE_OF"])
  /-- The cells of a row, in column order, are followed by what the verdict at its place says. -/
  row : ∀ place row, d.rows[place]? = some row → records[place + 1]? =
    some (d.names.map row.textAt ++
      [e.statusAt place, e.messagesAt separator place, e.referenceAt place])

theorem rowRecord_eq (separator : String) (names : List String) (row : Row) (e : Execution)
    (place : Nat) : rowRecord separator names row e.results[place]? =
      names.map row.textAt ++
        [e.statusAt place, e.messagesAt separator place, e.referenceAt place] := by
  rw [rowRecord, funext (row.display_cell), Execution.statusAt, Execution.messagesAt,
    Execution.referenceAt]
  cases e.results[place]? with
  | none => rfl
  | some v =>
    rw [verdictCells, Option.bind_some]
    cases v.duplicateOf <;> rfl

/-- **A row and the verdict at its place** make the record at that place. -/
theorem getElem?_rowRecords (separator : String) (names : List String) (rows : List Row)
    (verdicts : List RowVerdict) (place : Nat) :
    (rowRecords separator names rows verdicts)[place]? =
      rows[place]?.map fun row => rowRecord separator names row verdicts[place]? := by
  induction rows generalizing verdicts place with
  | nil => rfl
  | cons row rows ih =>
    cases verdicts with
    | nil =>
      cases place with
      | zero => rfl
      | succ place => exact ih [] place
    | cons v verdicts =>
      cases place with
      | zero => rfl
      | succ place => exact ih verdicts place

theorem length_rowRecords (separator : String) (names : List String) (rows : List Row)
    (verdicts : List RowVerdict) : (rowRecords separator names rows verdicts).length =
      rows.length := by
  induction rows generalizing verdicts with
  | nil => rfl
  | cons row rows ih =>
    cases verdicts with
    | nil => exact congrArg (· + 1) (ih [])
    | cons v verdicts => exact congrArg (· + 1) (ih verdicts)

/-- The records that are written are those of the dataset with its verdicts. -/
theorem lists_rowRecords (separator : String) (d : Dataset) (e : Execution) :
    Lists separator d e (rowHeader d :: rowRecords separator d.names d.rows e.results) where
  length_eq := by
    rw [List.length_cons, length_rowRecords, Nat.add_comm]
  header := rfl
  row place row hrow := by
    rw [List.getElem?_cons_succ, getElem?_rowRecords, hrow, Option.map_some, rowRecord_eq]

/-- **Every record has a field for every column, and three more.** -/
theorem Lists.length_eq_of_mem {separator : String} {d : Dataset} {e : Execution}
    {records : List (List String)} (h : Lists separator d e records) {record : List String}
    (hrecord : record ∈ records) : record.length = d.names.length + 3 := by
  obtain ⟨place, hplace⟩ := List.mem_iff_getElem?.mp hrecord
  cases place with
  | zero =>
    rw [h.header] at hplace
    obtain rfl := Option.some.inj hplace
    rw [List.length_append]
    rfl
  | succ place =>
    have hlt : place + 1 < records.length := (List.getElem?_eq_some_iff.mp hplace).1
    rw [h.length_eq] at hlt
    have hrow := List.getElem?_eq_getElem (show place < d.rows.length by omega)
    rw [h.row place _ hrow] at hplace
    obtain rfl := Option.some.inj hplace
    rw [List.length_append, List.length_map]
    rfl

end Report

/-! ### Reading a report -/

/-- The **dialect** of a row report. -/
def RowReportSettings.dialect (settings : RowReportSettings) : Csv.Dialect Char :=
  .ofChars (Char.ofNat settings.delimiter.toNat) '"'

/-- A delimiter in ASCII that is no quote and ends no line **can be told from the other units**. -/
theorem RowReportSettings.isClear_dialect {settings : RowReportSettings}
    (hascii : settings.delimiter.toNat < 128)
    (hunits : settings.delimiter ∉ ([34, 13, 10] : List UInt8)) : settings.dialect.IsClear := by
  have htoNat : ∀ n < 128, (Char.ofNat n).toNat = n := by
    intro n hn
    have hvalid : n.isValidChar := .inl (by omega)
    rw [Char.ofNat, dif_pos hvalid]
    rfl
  have hunits' : ∀ b ∈ ([34, 13, 10] : List UInt8), b.toNat < 128 := by simp
  have hne : ∀ b ∈ ([34, 13, 10] : List UInt8),
      Char.ofNat settings.delimiter.toNat ≠ Char.ofNat b.toNat := by
    intro b hb heq
    have hbyte := congrArg Char.toNat heq
    rw [htoNat _ hascii, htoNat _ (hunits' b hb)] at hbyte
    exact hunits (UInt8.toNat_inj.mp hbyte ▸ hb)
  exact Csv.isClear_ofChars (hne 34 (by decide)) (hne 13 (by decide)) (hne 10 (by decide))

namespace Report

/-- A text that is read back as **the records of a dataset with its verdicts**. -/
structure ReadsBack (settings : RowReportSettings) (d : Dataset) (e : Execution) (text : String)
    (records : List (List String)) : Prop where
  /-- The records are those of the dataset with its verdicts. -/
  lists : Lists settings.separator d e records
  /-- All of them have the same number of fields. -/
  width : ∀ record ∈ records, record.length = d.names.length + 3
  /-- The text spells these records, … -/
  spells : Csv.Spells settings.dialect (records.map (·.map String.toList)) text.toList
  /-- … it spells no others, … -/
  unique : ∀ others, Csv.Spells settings.dialect others text.toList →
    others = records.map (·.map String.toList)
  /-- … and they are what the reader makes of it. -/
  read : Csv.records settings.dialect text.toList = records.map (·.map String.toList)

/-- **A row report can be read back cell for cell.** -/
theorem readsBack_rowText (settings : RowReportSettings) (r : Report) (d : Dataset)
    (hdataset : r.dataset = some d) (hascii : settings.delimiter.toNat < 128)
    (hunits : settings.delimiter ∉ ([34, 13, 10] : List UInt8)) :
    ∃ text records, rowText settings r = .ok text ∧
      ReadsBack settings d r.execution text records := by
  have hclear := RowReportSettings.isClear_dialect hascii hunits
  have hlists := lists_rowRecords settings.separator d r.execution
  have htext : rowText settings r = .ok (Csv.document (Char.ofNat settings.delimiter.toNat)
      (rowHeader d :: rowRecords settings.separator d.names d.rows r.execution.results)) := by
    rw [rowText, hdataset]
    exact if_pos hascii
  have hwidth : ∀ record ∈
      rowHeader d :: rowRecords settings.separator d.names d.rows r.execution.results,
      2 ≤ record.length := by
    intro record hrecord
    rw [hlists.length_eq_of_mem hrecord]
    omega
  have hspells := Csv.spells_document (Char.ofNat settings.delimiter.toNat) hwidth
  have hread := Csv.records_of_spells hclear hspells
  refine ⟨_, _, htext, hlists, fun _ => hlists.length_eq_of_mem, hspells, fun others hothers => ?_,
    hread⟩
  exact (Csv.records_of_spells hclear hothers).symm.trans hread

/-- A table with **every unit of the format** in its header and in a cell, and with a row that has
no cells. -/
def awkwardTable : Dataset where
  columns := [⟨"a;\n\"", .text⟩]
  rows := [.ofFields [("a;\n\"", .text "\"no\";\r\n")], .empty]

/-- A report on that table, with a verdict on its first row only. -/
def awkwardReport : Report where
  source := none
  generatedAt := ⟨0, 0⟩
  execution := ⟨[⟨1, false, [⟨"a", "rule", "no;\n"⟩, ⟨"a", "rule", "\""⟩], [], false, none⟩],
    .ofVerdicts [], []⟩
  profile := none
  quickScan := none
  rules := none
  dataset := some awkwardTable

theorem readsBack_rowText_awkwardReport :
    awkwardReport.dataset = some awkwardTable ∧ (59 : UInt8).toNat < 128 ∧
      (59 : UInt8) ∉ ([34, 13, 10] : List UInt8) ∧
      ∃ text records, rowText ⟨59, ";\n"⟩ awkwardReport = .ok text ∧
        ReadsBack ⟨59, ";\n"⟩ awkwardTable awkwardReport.execution text records :=
  ⟨rfl, by decide, by decide,
    readsBack_rowText ⟨59, ";\n"⟩ awkwardReport awkwardTable rfl (by decide) (by decide)⟩

end Report

end DataQuality
