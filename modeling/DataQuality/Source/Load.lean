import DataQuality.Event
import DataQuality.Source.Delimited
import DataQuality.Source.Document
import DataQuality.Source.Location

/-!
# Sources

A source is a file with a layout: delimited text, lines of JSON, or a JSON document. The first two
are opened as tables, and a table that has no file or an empty one behind it is an empty dataset; a
document is read as a whole, and has to be there.

The text of the file is a parameter: what a source makes of it is a function of it.
-/

namespace DataQuality

/-- The **layout** of a file. -/
inductive SourceLayout where
  /-- Delimited text. -/
  | delimited (options : Source.DelimitedOptions)
  /-- Lines of JSON, of which the given number shows the columns. -/
  | lines (limit : Nat)
  /-- A JSON document. -/
  | document
  deriving DecidableEq

/-- A **source**: a path that is not blank, and the layout of the file there. -/
structure Source where
  /-- The path. -/
  path : String
  /-- The layout. -/
  layout : SourceLayout
  /-- The path is not blank. -/
  filled : Text.isBlankText path = false

namespace Source

/-- The source at a path; refused when the path is blank. -/
def ofPath (path : String) (layout : SourceLayout) : Except Error Source :=
  if filled : Text.isBlankText path = false then .ok ⟨path, layout, filled⟩
  else .error (.configuration "A file path must be provided")

/-- Whether a path is that of a file of JSON lines, by its ending. -/
def isLinesPath (path : String) : Bool :=
  let lower := Text.lowercase path
  Text.endsWith lower ".ndjson" || Text.endsWith lower ".jsonl"

/-- The layout of a JSON file, by its path. -/
def jsonLayout (path : String) : SourceLayout :=
  if isLinesPath path then .lines usualInferLimit else .document

/-- Whether a file of this layout has one JSON object a line. -/
def isLineDelimited (s : Source) : Bool :=
  match s.layout with
  | .lines _ => true
  | .delimited _ => false
  | .document => false

/-- The description of a source. -/
def description (s : Source) : String :=
  match s.layout with
  | .delimited _ => "CSV file: " ++ s.path
  | .lines _ => "JSON file: " ++ s.path
  | .document => "JSON file: " ++ s.path

/-- Whether a source can be opened **as a table**; a document cannot. -/
def register (s : Source) : Except Error Unit :=
  match s.layout with
  | .delimited _ => .ok ()
  | .lines _ => .ok ()
  | .document =>
    .error (.configuration ("Only line-delimited JSON can be registered as a table: " ++ s.path))

/-- The text behind the path of a table, given the text of the file of that name, if there is one:
the empty text when the path leads to nothing. -/
def tableText (s : Source) (text : Option String) : Except Error String :=
  match locate s.path.toList (text.map (·.utf8ByteSize)) with
  | .refused => .error (.scan "the path is not that of a table")
  | .nothing => .ok ""
  | .file => .ok (text.getD "")

/-- The **dataset** of a source, given the text of its file, if there is one. -/
def load (s : Source) (inference : Inference) (text : Option String) : Except Error Dataset :=
  match s.layout with
  | .delimited options => do loadDelimited inference options (← s.tableText text)
  | .lines limit => do loadLines inference limit (← s.tableText text)
  | .document => loadDocument inference s.path text

/-- The dataset of a source that is opened as a table first. -/
def loadTable (s : Source) (inference : Inference) (text : Option String) :
    Except Error Dataset := do
  s.register
  s.load inference text

/-! ### Events -/

/-- The name of the table that a source is opened as, when none is given. -/
def usualTableName : String := "dqm_input"

/-- The event that opening a source as a table of the given name leaves. -/
def registrationEvents (s : Source) (tableName : String) : List Event :=
  match s.layout with
  | .delimited _ => [.delimitedRegistered tableName s.path]
  | .lines _ => [.linesRegistered tableName s.path]
  | .document => []

/-- The events that the reading of a table leaves: one, if it has any records. -/
def conversionEvents (s : Source) : Except Error Dataset → List Event
  | .error _ => []
  | .ok d =>
    match s.layout with
    | .document => []
    | _ => if d.isEmpty then [] else [.batchesConverted d.size]

/-- The **events** that loading a source under the given name leaves. -/
def events (s : Source) (tableName : String) (inference : Inference) (text : Option String) :
    List Event :=
  s.registrationEvents tableName ++ s.conversionEvents (s.load inference text)

end Source

end DataQuality
