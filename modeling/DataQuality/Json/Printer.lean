import DataQuality.Json.Basic

/-!
# Writing JSON

Two layouts: the compact one, without any blank character between the tokens, and the indented one,
with two spaces a level. In a text only the quote, the backslash and the control characters below
U+0020 are escaped; every other character stands for itself.
-/

namespace DataQuality.Json

/-! ### Texts -/

/-- A hexadecimal digit in lower case. -/
def hexDigit (n : Nat) : Char :=
  if n < 10 then Char.ofNat (48 + n) else Char.ofNat (87 + n)

/-- The way a **character** is written inside quotes. -/
def escapeChar (c : Char) : List Char :=
  if c = '"' then ['\\', '"']
  else if c = '\\' then ['\\', '\\']
  else if 32 ≤ c.toNat then [c]
  else if c = '\n' then ['\\', 'n']
  else if c = '\r' then ['\\', 'r']
  else if c = '\t' then ['\\', 't']
  else if c.toNat = 8 then ['\\', 'b']
  else if c.toNat = 12 then ['\\', 'f']
  else ['\\', 'u', '0', '0', hexDigit (c.toNat / 16), hexDigit (c.toNat % 16)]

/-- The characters of a text inside quotes. -/
def escape (cs : List Char) : List Char := cs.flatMap escapeChar

/-- A text with its quotes. -/
def stringChars (s : String) : List Char := '"' :: (escape s.toList ++ ['"'])

/-! ### The compact layout -/

mutual
/-- The characters of a value, **without blank characters** between its tokens. -/
def chars : Json → List Char
  | .null => ['n', 'u', 'l', 'l']
  | .bool true => ['t', 'r', 'u', 'e']
  | .bool false => ['f', 'a', 'l', 's', 'e']
  | .number literal => literal.chars
  | .string s => stringChars s
  | .array items => '[' :: (itemsChars items ++ [']'])
  | .object fields => '{' :: (fieldsChars fields ++ ['}'])

/-- The items of a list, with commas between them. -/
def itemsChars : List Json → List Char
  | [] => []
  | v :: vs => chars v ++ moreItemsChars vs

/-- The further items of a list, each behind its comma. -/
def moreItemsChars : List Json → List Char
  | [] => []
  | v :: vs => ',' :: (chars v ++ moreItemsChars vs)

/-- The fields of an object, with commas between them. -/
def fieldsChars : List (String × Json) → List Char
  | [] => []
  | (k, v) :: fs => stringChars k ++ ':' :: (chars v ++ moreFieldsChars fs)

/-- The further fields of an object, each behind its comma. -/
def moreFieldsChars : List (String × Json) → List Char
  | [] => []
  | (k, v) :: fs => ',' :: (stringChars k ++ ':' :: (chars v ++ moreFieldsChars fs))
end

/-- A value as **compact text**. -/
def compact (v : Json) : String := String.ofList v.chars

/-! ### The indented layout -/

/-- A new line at the given depth. -/
def newLine (depth : Nat) : List Char := '\n' :: List.replicate (2 * depth) ' '

mutual
/-- The characters of a value whose first line stands at the given depth, one item a line. -/
def indentedChars (depth : Nat) : Json → List Char
  | .null => ['n', 'u', 'l', 'l']
  | .bool true => ['t', 'r', 'u', 'e']
  | .bool false => ['f', 'a', 'l', 's', 'e']
  | .number literal => literal.chars
  | .string s => stringChars s
  | .array [] => ['[', ']']
  | .array (v :: vs) =>
    '[' :: (newLine (depth + 1) ++ indentedChars (depth + 1) v ++ indentedItems (depth + 1) vs ++
      newLine depth ++ [']'])
  | .object [] => ['{', '}']
  | .object ((k, v) :: fs) =>
    '{' :: (newLine (depth + 1) ++ stringChars k ++ [':', ' '] ++ indentedChars (depth + 1) v ++
      indentedFields (depth + 1) fs ++ newLine depth ++ ['}'])

/-- The further items of an indented list. -/
def indentedItems (depth : Nat) : List Json → List Char
  | [] => []
  | v :: vs => ',' :: (newLine depth ++ indentedChars depth v ++ indentedItems depth vs)

/-- The further fields of an indented object. -/
def indentedFields (depth : Nat) : List (String × Json) → List Char
  | [] => []
  | (k, v) :: fs =>
    ',' :: (newLine depth ++ stringChars k ++ [':', ' '] ++ indentedChars depth v ++
      indentedFields depth fs)
end

/-- A value as **indented text**. -/
def indented (v : Json) : String := String.ofList (indentedChars 0 v)

end DataQuality.Json
