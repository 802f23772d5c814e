import DataQuality.Number.Layout
import DataQuality.Text.Search

/-!
# JSON values

The type of JSON values, as they are written and read here. An object is a list of fields: the
order of the fields is part of the value, and a key may occur twice, since what a repeated key
means differs between the documents that are read. A number is kept as its literal, so that the
reader of a document can tell `1` from `1.0`.
-/

namespace DataQuality

/-- A **JSON value**. -/
inductive Json where
  /-- The null value. -/
  | null
  /-- A truth value. -/
  | bool (value : Bool)
  /-- A number, as written. -/
  | number (literal : Literal)
  /-- A text. -/
  | string (value : String)
  /-- A list of values. -/
  | array (items : List Json)
  /-- Named values, in order. -/
  | object (fields : List (String × Json))
  deriving Inhabited

namespace Json

/-- A natural number as a JSON number. -/
def ofNat (n : Nat) : Json := .number (.ofNat n)

/-- A float as a JSON number; an infinity and what is not a number are null. -/
def ofFloat (x : Float) : Json :=
  match Layout.json.ofFloat? x with
  | some literal => .number literal
  | none => .null

/-- An optional value; null when there is none. -/
def ofOption (toJson : α → Json) : Option α → Json
  | none => .null
  | some a => toJson a

/-- A field that is left out when there is no value. -/
def optionalField (key : String) (value : Option Json) : List (String × Json) :=
  match value with
  | none => []
  | some v => [(key, v)]

/-! ### Sorted keys -/

/-- Whether a field may stand before another one in an object with sorted keys. -/
def keyLe (a b : String × Json) : Bool := Text.order a.1 b.1 != .gt

mutual
/-- A value in which the keys of every object are **sorted** by code point. -/
def sortKeys : Json → Json
  | .array items => .array (sortKeysItems items)
  | .object fields => .object ((sortKeysFields fields).mergeSort keyLe)
  | .null => .null
  | .bool b => .bool b
  | .number l => .number l
  | .string s => .string s

/-- The values of a list with sorted keys. -/
def sortKeysItems : List Json → List Json
  | [] => []
  | v :: vs => sortKeys v :: sortKeysItems vs

/-- The fields of an object, in their order, with sorted keys in their values. -/
def sortKeysFields : List (String × Json) → List (String × Json)
  | [] => []
  | (k, v) :: fs => (k, sortKeys v) :: sortKeysFields fs
end

end Json

end DataQuality
