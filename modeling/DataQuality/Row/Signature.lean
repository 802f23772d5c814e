import DataQuality.Json.Printer
import DataQuality.Row.Basic

/-!
# Signatures of rows

The signature of a row is its JSON object in compact form: one text that shows the names, the
order of the fields, and the kind and content of every cell. Rows with the same signature are
repetitions of one another.
-/

namespace DataQuality.Row

/-- A row as a JSON object. -/
def toJson (r : Row) : Json := .object (r.fields.map fun (name, cell) => (name, cell.toJson))

/-- The **signature** of a row. -/
def signature (r : Row) : String := r.toJson.compact

end DataQuality.Row
