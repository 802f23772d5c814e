/-!
# Reading delimited text

The reader goes through a text unit by unit, and has one rule for characters and for bytes. It
accepts what is written with care, and makes something of the rest: line ends may be a carriage
return, a line feed or both; blank lines count for nothing; what follows a closing quote belongs to
the field as it stands; a quote that is never closed takes everything up to the end of the text.
-/

namespace DataQuality.Csv

/-- The **units** that shape a text. -/
structure Dialect (α : Type) where
  /-- The unit between two fields. -/
  delimiter : α
  /-- The unit around a field. -/
  quote : α
  /-- The unit that returns the carriage. -/
  carriageReturn : α
  /-- The unit that feeds a line. -/
  lineFeed : α
  deriving DecidableEq

/-- The dialect of two characters. -/
def Dialect.ofChars (delimiter quote : Char) : Dialect Char := ⟨delimiter, quote, '\r', '\n'⟩

/-- The dialect of two bytes. -/
def Dialect.ofBytes (delimiter quote : UInt8) : Dialect UInt8 := ⟨delimiter, quote, 13, 10⟩

/-- Where the reader stands. -/
inductive Place where
  /-- Before a record. -/
  | recordStart
  /-- Before a field that is not the first one. -/
  | fieldStart
  /-- In a field without quotes. -/
  | plain
  /-- Inside the quotes of a field. -/
  | quoted
  /-- Behind a quote inside quotes, which closes them or is the first one of two. -/
  | quoteSeen
  deriving DecidableEq

variable {α : Type} [DecidableEq α]

/-- A unit that ends a record. -/
def Dialect.endsRecord (d : Dialect α) (c : α) : Bool := c = d.carriageReturn || c = d.lineFeed

/-- The records of a text from some place on, given the units of the field and the fields of the
record read so far, both of them last first. -/
def readFrom (d : Dialect α) (place : Place) (field : List α) (record : List (List α)) :
    List α → List (List (List α))
  | [] =>
    match place with
    | .recordStart => []
    | _ => [(field.reverse :: record).reverse]
  | c :: cs =>
    match place with
    | .quoted =>
      if c = d.quote then readFrom d .quoteSeen field record cs
      else readFrom d .quoted (c :: field) record cs
    | .quoteSeen =>
      if c = d.quote then readFrom d .quoted (c :: field) record cs
      else if c = d.delimiter then readFrom d .fieldStart [] (field.reverse :: record) cs
      else if d.endsRecord c then
        (field.reverse :: record).reverse :: readFrom d .recordStart [] [] cs
      else readFrom d .plain (c :: field) record cs
    | .plain =>
      if c = d.delimiter then readFrom d .fieldStart [] (field.reverse :: record) cs
      else if d.endsRecord c then
        (field.reverse :: record).reverse :: readFrom d .recordStart [] [] cs
      else readFrom d .plain (c :: field) record cs
    | .recordStart =>
      if d.endsRecord c then readFrom d .recordStart [] [] cs
      else if c = d.quote then readFrom d .quoted [] [] cs
      else if c = d.delimiter then readFrom d .fieldStart [] [[]] cs
      else readFrom d .plain [c] [] cs
    | .fieldStart =>
      if c = d.quote then readFrom d .quoted [] record cs
      else if c = d.delimiter then readFrom d .fieldStart [] ([] :: record) cs
      else if d.endsRecord c then ([] :: record).reverse :: readFrom d .recordStart [] [] cs
      else readFrom d .plain [c] record cs

/-- The **records** of a text. -/
def records (d : Dialect α) (text : List α) : List (List (List α)) :=
  readFrom d .recordStart [] [] text

end DataQuality.Csv
