import DataQuality.Row.Basic

/-!
# Columns and their types

A column is a number column when enough of its first values are numbers. The types are inferred
once, from a sample of the values that are not blank: `DataQuality.Inference` holds the size of
the sample and the share of numbers in it that makes a number column. A column without any value
is a text column.
-/

namespace DataQuality

/-- The **type of a column**, which decides how its values are compared. -/
inductive ColumnType where
  /-- Compared as numbers. -/
  | number
  /-- Compared as texts. -/
  | text
  deriving DecidableEq, Inhabited

/-- The name of a column type in documents. -/
def ColumnType.id : ColumnType → String
  | .number => "number"
  | .text => "string"

/-- The column type with the given name. -/
def ColumnType.ofId? : String → Option ColumnType
  | "number" => some .number
  | "string" => some .text
  | _ => none

/-- A **column**: a header and a type. -/
structure Column where
  /-- The header. -/
  name : String
  /-- The type of its values. -/
  type : ColumnType
  deriving DecidableEq, Inhabited

/-! ### Inference -/

/-- The share of a part in a whole; zero when there is no whole. -/
def ratio (part whole : Nat) : Float :=
  if whole = 0 then 0 else Float.ofNat part / Float.ofNat whole

/-- How column types are **inferred**. -/
structure Inference where
  /-- How many values are looked at. -/
  sampleSize : Nat
  /-- The share of numbers from which on a column is a number column. -/
  threshold : Float

/-- A hundred values, nine out of ten of them numbers. -/
def Inference.default : Inference := ⟨100, 0.9⟩

/-- A share of numbers brought into the range from zero to one. -/
def Inference.clampThreshold (t : Float) : Float := if t < 0 then 0 else if 1 < t then 1 else t

/-- What a **sample** of a column showed. -/
structure Sample where
  /-- How many values were looked at. -/
  sampled : Nat
  /-- How many of them were numbers. -/
  numeric : Nat
  deriving DecidableEq

/-- The share of numbers in a sample. -/
def Sample.numericRatio (s : Sample) : Float := ratio s.numeric s.sampled

namespace Inference

/-- The values of a column that are not blank, in row order. -/
def values (rows : List Row) (name : String) : List Cell :=
  (rows.filterMap (·.get? name)).filter fun c => !c.isBlank

/-- The sample of a column: as many of its first values that are not blank as the sample holds. -/
def sample (settings : Inference) (rows : List Row) (name : String) : Sample :=
  let seen := (values rows name).take settings.sampleSize
  ⟨seen.length, seen.countP (·.number?.isSome)⟩

/-- The **type of a column**, by its sample. -/
def infer (settings : Inference) (rows : List Row) (name : String) : ColumnType :=
  let s := settings.sample rows name
  if 0 < s.sampled ∧ settings.threshold ≤ s.numericRatio then .number else .text

end Inference

end DataQuality
