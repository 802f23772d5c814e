/-!
# Writing delimited text

A document of delimited text is a list of records, each of which is a list of fields. A field is
put in quotes when it would be misread otherwise: when it holds the delimiter, a quote, or one of
the two line-end characters. A quote inside quotes is written twice. Every record ends with a line
feed.
-/

namespace DataQuality.Csv

/-- Whether a field has to be put in quotes. -/
def needsQuotes (delimiter : Char) (cs : List Char) : Bool :=
  cs.any fun c => c == delimiter || c == '"' || c == '\r' || c == '\n'

/-- The characters of a field inside quotes: each quote twice. -/
def doubleQuotes : List Char → List Char
  | [] => []
  | c :: cs => if c = '"' then '"' :: '"' :: doubleQuotes cs else c :: doubleQuotes cs

/-- A **field**, in quotes if it has to be. -/
def fieldChars (delimiter : Char) (cs : List Char) : List Char :=
  if needsQuotes delimiter cs then '"' :: (doubleQuotes cs ++ ['"']) else cs

/-- The fields of a record, with delimiters between them. -/
def fieldsChars (delimiter : Char) : List (List Char) → List Char
  | [] => []
  | [f] => fieldChars delimiter f
  | f :: fs => fieldChars delimiter f ++ delimiter :: fieldsChars delimiter fs

/-- A **record**, with its line end. -/
def recordChars (delimiter : Char) (record : List (List Char)) : List Char :=
  fieldsChars delimiter record ++ ['\n']

/-- A **document** of delimited text. -/
def document (delimiter : Char) (records : List (List String)) : String :=
  String.ofList (records.flatMap fun r => recordChars delimiter (r.map String.toList))

end DataQuality.Csv
