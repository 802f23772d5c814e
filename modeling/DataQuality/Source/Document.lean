import DataQuality.Dataset.Basic
import DataQuality.Error
import DataQuality.Json.Reader

/-!
# Documents of rows

A JSON document of rows is a list of objects, the fields of which hold null, truth values, numbers
and texts. The order of the fields is kept. A field that is repeated within an object replaces the
earlier one at its place.
-/

namespace DataQuality

/-- The cell that a JSON value is; lists and objects are none. -/
def Cell.ofJson? : Json → Option Cell
  | .null => some .null
  | .bool b => some (.bool b)
  | .number l => (Json.numberValue? l).map .number
  | .string s => some (.text s)
  | .array _ => none
  | .object _ => none

/-- The field that a key and a JSON value are. -/
def Field.ofJson? (entry : String × Json) : Option Field :=
  (Cell.ofJson? entry.2).map fun cell => (entry.1, cell)

/-- The row that a JSON value is. -/
def Row.ofJson? : Json → Option Row
  | .object fields => (fields.mapM Field.ofJson?).map .ofFields
  | _ => none

/-- The rows that a JSON list holds, if it holds nothing else. -/
def rowsOfJson? : Json → Option (List Row)
  | .array items => items.mapM Row.ofJson?
  | _ => none

namespace Source

/-- The error of a document that is no list of rows. -/
def invalidDocument (path : String) : Error :=
  .context ("Invalid JSON array in " ++ path) (.serialization "the document is not a list of rows")

/-- The error of a file that is not there. -/
def unreadable (path : String) : Error :=
  .dataSource "JSON" ("Could not read " ++ path) (some "the file does not exist")

/-- The **dataset of a document**, given by its text, if there is one at the path. -/
def loadDocument (inference : Inference) (path : String) (text : Option String) :
    Except Error Dataset :=
  match text with
  | none => .error (unreadable path)
  | some text =>
    match (Json.parse? text).bind rowsOfJson? with
    | some rows => .ok (.ofRows inference rows)
    | none => .error (invalidDocument path)

end Source

end DataQuality
