import DataQuality.Csv.Reader
import DataQuality.Source.Lines
import DataQuality.Source.Pieces

/-!
# Delimited files

A delimited file holds records of fields, the first of which may be the headers. All records need
the same number of fields, and no header may be repeated. Fields are never trimmed, and an empty
field is an absent value.

The type of a column is found from the first records. Within a piece of the text
(`DataQuality.Source.pieces`) empty fields say nothing about it. Between pieces it is stricter: a
column that is empty throughout one piece, and not throughout another one, is a column of texts.

A text may have no columns, when its first piece holds blank lines alone. Then there is no place for
any byte of it, and reading its rows fails.

A number is recognized in the digits of any script, but can be read in ASCII digits only.
-/

namespace DataQuality.Source

/-- How a delimited file is **read**. -/
structure DelimitedOptions where
  /-- Whether the first record holds the headers. -/
  hasHeader : Bool
  /-- The byte between two fields. -/
  delimiter : UInt8
  /-- The byte around a field. -/
  quote : UInt8
  /-- How many records the types of the columns are found from. -/
  inferLimit : Nat
  deriving DecidableEq

/-- How many records the types are found from, if nothing else is said. -/
def usualInferLimit : Nat := 1000

namespace DelimitedOptions

/-- Commas, double quotes, and headers. -/
def default : DelimitedOptions := ⟨true, 44, 34, usualInferLimit⟩

/-- The dialect of the file. -/
def dialect (options : DelimitedOptions) : Csv.Dialect UInt8 :=
  .ofBytes options.delimiter options.quote

end DelimitedOptions

/-! ### Types of fields -/

/-- The words that make a field a float. -/
def floatWords : List String := ["NaN", "nan", "inf", "-inf"]

/-- A character in the form in which it stands in the name of a truth value: a small ASCII letter,
for which the long s may stand as well. -/
def flagLetter (c : Char) : Char := if c = 'ſ' then 's' else c.toLower

/-- Whether a field looks like the name of a truth value. -/
def looksLikeFlag (s : String) : Bool :=
  let letters := s.toList.map flagLetter
  letters == "true".toList || letters == "false".toList

/-- The literal that a field looks like, its digits being of any script. -/
def fieldLiteral? (s : String) : Option Literal :=
  (Literal.ofChars? (s.toList.map Text.toAsciiDigit)).filter fun l =>
    l.sign != some .plus && l.isCellNumber

/-- The least number of bytes from which on a whole number may be too large. -/
def longInteger : Nat := 19

/-- The stored type of a field that looks like a number. A whole number that does not fit into 64
bits is a text. -/
def numericType (s : String) (l : Literal) : StoredType :=
  if l.integer?.isNone then .float
  else if s.utf8ByteSize < longInteger then .integer
  else if (StoredType.cellOfText? .integer s).isSome then .integer
  else .text

/-- The **stored type of a field** that is not empty. -/
def fieldType (s : String) : StoredType :=
  if looksLikeFlag s then .flag
  else
    match fieldLiteral? s with
    | some l => numericType s l
    | none => if floatWords.contains s then .float else .text

/-- The stored type of a column that holds one more field. -/
def addField (t : StoredType) (s : String) : StoredType :=
  if s = "" then t else t.join (fieldType s)

/-- The stored type of a column that has the given types in the pieces of a text. -/
def typeOfPieces : List StoredType → StoredType
  | [] => .text
  | t :: ts =>
    if ts.all (· = t) then t
    else if (t :: ts).all fun t => t = .integer || t = .float then .float
    else .text

/-! ### Records -/

/-- The bytes of the byte order mark, which may stand in front of a text. -/
def byteOrderMark : Bytes := [0xEF, 0xBB, 0xBF]

/-- A text without a byte order mark in front of it. -/
def dropMark (text : Bytes) : Bytes :=
  if byteOrderMark.isPrefixOf text then text.drop byteOrderMark.length else text

/-- The text that the bytes of a field are, if they are well-formed. -/
def fieldText? (field : Bytes) : Option String := String.fromUTF8? ⟨field.toArray⟩

/-- The records of a text, field by field in bytes. -/
def byteRecords (d : Csv.Dialect UInt8) (text : Bytes) : List (List Bytes) :=
  Csv.records d (dropMark text)

/-- The fields of a record, if they are well-formed. -/
def recordTexts? (record : List Bytes) : Option (List String) := record.mapM fieldText?

/-- The headers that records of the given width get when the file has none. -/
def numberedHeaders (width : Nat) : List String :=
  (List.range width).map fun i => "column_" ++ toString (i + 1)

/-! ### Columns -/

/-- What the first records of a piece say about the columns. -/
structure PieceColumns where
  /-- The headers. -/
  names : List String
  /-- The stored types. -/
  types : List StoredType
  /-- The number of records, headers aside. -/
  size : Nat

/-- What a **piece** says about the columns, by at most `limit` records: nothing when a record is
not well-formed, or longer or shorter than the first one. -/
def pieceColumns? (d : Csv.Dialect UInt8) (hasHeader : Bool) (limit : Nat) (piece : Bytes) :
    Option PieceColumns := do
  let records := byteRecords d piece
  let first ← recordTexts? (records.headD [])
  let records ← ((if hasHeader then records.drop 1 else records).take limit).mapM recordTexts?
  if records.all fun r => r.length = first.length then
    some {
      names := if hasHeader then first else numberedHeaders first.length
      types := records.foldl (List.zipWith addField) (List.replicate first.length .nothing)
      size := records.length }
  else none

/-- The types of the columns in further pieces, added to those that are known. The pieces are read
until `limit` records have been seen. -/
def addPieces? (d : Csv.Dialect UInt8) (types : List (List StoredType)) :
    Nat → List (Option Bytes) → Option (List (List StoredType))
  | 0, _ => some types
  | _ + 1, [] => some types
  | _ + 1, none :: _ => none
  | limit + 1, some piece :: rest => do
    let found ← pieceColumns? d false (limit + 1) piece
    if found.types.length = types.length then
      addPieces? d (List.zipWith List.cons found.types types) (limit + 1 - found.size) rest
    else none
termination_by _ rest => rest.length

/-- The **columns** of a text, by its first records. A piece with headers alone says nothing about
their types, and without any record to look at they are columns of texts. -/
def delimitedColumns? (options : DelimitedOptions) (text : Bytes) : Option (List StoredColumn) :=
  match pieces text with
  | [] => some []
  | none :: _ => none
  | some piece :: rest => do
    let d := options.dialect
    let limit := options.inferLimit
    let first ← pieceColumns? d options.hasHeader limit piece
    let types := first.types.map fun t => if first.size = 0 then [] else [t]
    let types ← addPieces? d types (limit - first.size) rest
    pure (first.names.zip (types.map typeOfPieces))

/-! ### Rows -/

/-- The cell of a field in a column of the given type. -/
def cellOfField? (t : StoredType) (s : String) : Option Cell :=
  if s = "" then some t.cellOfAbsent else t.cellOfText? s

/-- The row of a record: as many fields as there are columns, each of which fits its column. -/
def rowOfRecord? (columns : List StoredColumn) (record : List Bytes) : Option Row := do
  let fields ← recordTexts? record
  if fields.length = columns.length then
    let cells ← (columns.zip fields).mapM fun ((_, t), s) => cellOfField? t s
    pure (.ofFields ((columns.map Prod.fst).zip cells))
  else none

/-- The records of a text that hold rows, or nothing when the headers do not fit the columns. -/
def rowRecords? (hasHeader : Bool) (columns : List StoredColumn) (records : List (List Bytes)) :
    Option (List (List Bytes)) :=
  match records with
  | [] => some []
  | first :: rest =>
    if !hasHeader then some records
    else if first.length = columns.length then some rest
    else none

/-- The rows of a text under the given columns. Without columns nothing may stand in the text. -/
def delimitedRows? (options : DelimitedOptions) (columns : List StoredColumn) (text : Bytes) :
    Option (List Row) :=
  if columns.isEmpty then
    if (dropMark text).isEmpty then some [] else none
  else do
    let records ← rowRecords? options.hasHeader columns (byteRecords options.dialect text)
    records.mapM (rowOfRecord? columns)

/-! ### Files -/

/-- The **dataset of a delimited file**, given by its text. -/
def loadDelimited (inference : Inference) (options : DelimitedOptions) (text : String) :
    Except Error Dataset :=
  let text := text.toUTF8.toList
  match delimitedColumns? options text with
  | none => .error (.scan "the records have no common columns")
  | some columns =>
    let names := columns.map Prod.fst
    if ¬ names.Nodup then .error (.scan "a header is repeated")
    else
      match delimitedRows? options columns text with
      | none => .error (.scan "a record does not fit the columns")
      | some rows => .ok (datasetOfRows inference names rows)

end DataQuality.Source
