import DataQuality.Dataset.Basic
import DataQuality.Error
import DataQuality.Json.Lenient
import DataQuality.Source.Stored

/-!
# Lines of JSON

A file of JSON lines holds one object a line. Its columns are found from the first lines that are
not blank, each of which has to be exactly one object: the keys in the order in which they first
appear, those of one line in the order of their code points. Every key has one stored type, in which
the types of its values are joined; a key with a list or an object for a value is an error.

Then all objects are read, leniently and wherever their lines end. A key that an object lacks is an
absent value, a key without a column is passed over whatever its value, and of a key that is
repeated within an object the last value counts.
-/

namespace DataQuality.Source

/-! ### Columns -/

/-- The stored type of a JSON value; lists and objects have none. -/
def storedTypeOfJson? : Json → Option StoredType
  | .null => some .nothing
  | .bool _ => some .flag
  | .number l =>
    if l.signedWord?.isSome && !(l.isNegative && l.significand == 0) then some .integer
    else some .float
  | .string _ => some .text
  | .array _ => none
  | .object _ => none

/-- The value of a key in an object: the last one. -/
def lastValue? (key : String) (fields : List (String × α)) : Option α :=
  fields.reverse.lookup key

/-- The keys of an object, each once, in the order of their code points. -/
def sortedKeys (fields : List (String × Json)) : List String :=
  (addNew [] (fields.map Prod.fst)).mergeSort fun a b => Text.order a b != .gt

/-- A header with a stored type. -/
abbrev StoredColumn := String × StoredType

/-- Columns that hold one more value under a header. -/
def addValue (columns : List StoredColumn) (key : String) (t : StoredType) : List StoredColumn :=
  match columns with
  | [] => [(key, t)]
  | (k, s) :: rest => if k = key then (k, s.join t) :: rest else (k, s) :: addValue rest key t

/-- Columns that hold the values of one more object. -/
def addObject? (columns : List StoredColumn) : Json → Option (List StoredColumn)
  | .object fields =>
    (sortedKeys fields).foldlM (fun columns key => do
      let t ← storedTypeOfJson? ((lastValue? key fields).getD .null)
      pure (addValue columns key t)) columns
  | _ => none

/-- The lines of a text that are not blank. -/
def filledLines (text : String) : List String :=
  (Text.split '\n' text).filter fun line => !Text.isBlankText line

/-- The **columns** of a text, by its first lines. -/
def lineColumns? (limit : Nat) (text : String) : Option (List StoredColumn) :=
  ((filledLines text).take limit).foldlM (fun columns line => do
    let object ← Json.parse? line
    addObject? columns object) []

/-! ### Values -/

/-- The whole number that is left of a float when its fraction is cut off, if it fits into 64
bits. -/
def cutFraction? (x : Float) : Option Int :=
  match Binary.ofFloat x with
  | .finite negative m q =>
    let n : Int := (m * powNum 2 q / powDen 2 q : Nat)
    some (if negative then -n else n) |>.filter fitsSignedWord
  | .zero _ => some 0
  | .nan => none
  | .infinite _ => none

/-- The cell of a number in a column of the given type. -/
def cellOfNumber? (t : StoredType) (l : Literal) : Option Cell :=
  match t with
  | .integer => (l.signedWord?.or (cutFraction? l.toFloat)).map integerCell
  | .float => some (.number l.toFloat)
  | _ => none

/-- The cell of a value in a column of the given type; there is none when it does not fit. A text
in a column of numbers counts as the number that it denotes. -/
def cellOfValue? (t : StoredType) : Json.Loose → Option Cell
  | .null => some t.cellOfAbsent
  | .bool b => if t = .flag then some (.bool b) else none
  | .number cs => ((Literal.ofChars? cs).filter (·.isCellNumber)).bind (cellOfNumber? t)
  | .string s =>
    match t with
    | .nothing => none
    | .flag => none
    | t => t.cellOfText? s
  | .nested => none

/-- The row of an object. -/
def rowOfObject? (columns : List StoredColumn) (fields : Json.LooseFields) : Option Row :=
  (columns.mapM fun (key, t) =>
    (cellOfValue? t ((lastValue? key fields).getD .null)).map fun cell => (key, cell)).map
      Row.ofFields

/-! ### Files -/

/-- The rows of a text under the given columns. -/
def lineRows? (columns : List StoredColumn) (text : String) : Option (List Row) := do
  let objects ← Json.Loose.objects? text
  objects.mapM (rowOfObject? columns)

/-- The dataset of some rows under the given headers. A table without rows has no columns. -/
def datasetOfRows (inference : Inference) (names : List String) (rows : List Row) : Dataset :=
  if rows.isEmpty then .empty else .ofTable inference names rows

/-- The **dataset of a file of JSON lines**, given by its text. -/
def loadLines (inference : Inference) (limit : Nat) (text : String) : Except Error Dataset :=
  match lineColumns? limit text with
  | none => .error (.scan "the lines have no common columns")
  | some columns =>
    match lineRows? columns text with
    | none => .error (.scan "a line does not fit the columns")
    | some rows => .ok (datasetOfRows inference (columns.map Prod.fst) rows)

end DataQuality.Source
