import DataQuality.Json.Number

/-!
# Reading JSON

A strict reader: one value, blank characters around it, nothing else. It refuses comments, trailing
commas, a byte order mark, control characters inside texts, escaped halves of a surrogate pair that
stand alone, numbers out of range, and values that are nested deeper than
`DataQuality.Json.nestingLimit`.

The reader of a value is defined by recursion on the depth that is left to it, and the readers of
the items of a list and the fields of an object take the reader of a value one level down.
-/

namespace DataQuality.Json

/-! ### Tokens -/

/-- The blank characters between tokens. -/
def isGap (c : Char) : Bool := c = ' ' || c = '\n' || c = '\t' || c = '\r'

/-- A text from its first token on. -/
def skipGaps (cs : List Char) : List Char := cs.dropWhile isGap

/-- The value of a hexadecimal digit. -/
def hexValue? (c : Char) : Option Nat :=
  let n := c.toNat
  if 48 ≤ n ∧ n ≤ 57 then some (n - 48)
  else if 97 ≤ n ∧ n ≤ 102 then some (n - 87)
  else if 65 ≤ n ∧ n ≤ 70 then some (n - 55)
  else none

/-- The number that four hexadecimal digits denote, and the text after them. -/
def fourHex? : List Char → Option (Nat × List Char)
  | a :: b :: c :: d :: cs => do
    let a ← hexValue? a
    let b ← hexValue? b
    let c ← hexValue? c
    let d ← hexValue? d
    pure (((a * 16 + b) * 16 + c) * 16 + d, cs)
  | _ => none

/-- The **rules for texts** in which readers differ. -/
structure StringRules where
  /-- Whether a character may stand in a text as it is. -/
  isPlain : Char → Bool
  /-- The code point of a surrogate pair, by the offsets of its halves. -/
  pair : Nat → Nat → Nat

/-- The character that an escape by code unit stands for. A high surrogate needs the escape of a low
one right behind it; a surrogate without its partner is refused. -/
def unicodeEscape? (rules : StringRules) (cs : List Char) : Option (Char × List Char) := do
  let (unit, cs) ← fourHex? cs
  if 0xDC00 ≤ unit ∧ unit ≤ 0xDFFF then none
  else if 0xD800 ≤ unit ∧ unit ≤ 0xDBFF then
    match cs with
    | '\\' :: 'u' :: cs =>
      let (low, cs) ← fourHex? cs
      if 0xDC00 ≤ low ∧ low ≤ 0xDFFF then
        pure (Char.ofNat (rules.pair (unit - 0xD800) (low - 0xDC00)), cs)
      else none
    | _ => none
  else pure (Char.ofNat unit, cs)

/-- The character that stands behind a backslash, and the text after it. -/
def escaped? (rules : StringRules) : List Char → Option (Char × List Char)
  | '"' :: cs => some ('"', cs)
  | '\\' :: cs => some ('\\', cs)
  | '/' :: cs => some ('/', cs)
  | 'b' :: cs => some ('\x08', cs)
  | 'f' :: cs => some ('\x0c', cs)
  | 'n' :: cs => some ('\n', cs)
  | 'r' :: cs => some ('\r', cs)
  | 't' :: cs => some ('\t', cs)
  | 'u' :: cs => unicodeEscape? rules cs
  | _ => none

/-- The characters of a text up to its closing quote, of which there are at most `fuel`, and what
follows the quote. A character that is not plain has to be escaped. -/
def stringRest? (rules : StringRules) : Nat → List Char → Option (List Char × List Char)
  | 0, _ => none
  | _ + 1, [] => none
  | fuel + 1, c :: cs =>
    if c = '"' then some ([], cs)
    else if c = '\\' then do
      let (d, cs) ← escaped? rules cs
      let (ds, rest) ← stringRest? rules fuel cs
      pure (d :: ds, rest)
    else if rules.isPlain c then do
      let (ds, rest) ← stringRest? rules fuel cs
      pure (c :: ds, rest)
    else none

/-- The strict rules: all but the control characters are plain, and each half of a surrogate pair
gives ten bits of what the code point has above `2 ^ 16`. -/
def StringRules.strict : StringRules :=
  ⟨fun c => 32 ≤ c.toNat, fun high low => 0x10000 + high * 0x400 + low⟩

/-- A text behind its opening quote. -/
def string? (cs : List Char) : Option (String × List Char) :=
  (stringRest? .strict (cs.length + 1) cs).map fun (s, rest) => (String.ofList s, rest)

/-- A number within range. -/
def number? (cs : List Char) : Option (Json × List Char) :=
  let (literal, rest) := Literal.scan cs
  if isNumber literal && (numberValue? literal).isSome then some (.number literal, rest) else none

/-! ### Lists and objects -/

/-- The reader of something: it takes a beginning of the text, and gives back the rest. -/
abbrev ReaderOf (α : Type) := List Char → Option (α × List Char)

/-- The items of a list up to its closing bracket, of which there are at most `fuel`. -/
def items? (value : ReaderOf Json) : Nat → ReaderOf (List Json)
  | 0, _ => none
  | fuel + 1, cs => do
    let (v, cs) ← value cs
    match skipGaps cs with
    | ',' :: cs =>
      let (vs, rest) ← items? value fuel cs
      pure (v :: vs, rest)
    | ']' :: cs => pure ([v], cs)
    | _ => none

/-- One field of an object: a key, a colon, a value. -/
def field? (value : ReaderOf Json) : ReaderOf (String × Json) := fun cs =>
  match skipGaps cs with
  | '"' :: cs => do
    let (key, cs) ← string? cs
    match skipGaps cs with
    | ':' :: cs =>
      let (v, rest) ← value cs
      pure ((key, v), rest)
    | _ => none
  | _ => none

/-- The fields of an object up to its closing brace, of which there are at most `fuel`. -/
def fields? (value : ReaderOf Json) : Nat → ReaderOf (List (String × Json))
  | 0, _ => none
  | fuel + 1, cs => do
    let (f, cs) ← field? value cs
    match skipGaps cs with
    | ',' :: cs =>
      let (fs, rest) ← fields? value fuel cs
      pure (f :: fs, rest)
    | '}' :: cs => pure ([f], cs)
    | _ => none

/-- A list behind its opening bracket. -/
def array? (value : ReaderOf Json) : ReaderOf Json := fun cs =>
  match skipGaps cs with
  | ']' :: rest => some (.array [], rest)
  | _ => (items? value (cs.length + 1) cs).map fun (vs, rest) => (.array vs, rest)

/-- An object behind its opening brace. -/
def object? (value : ReaderOf Json) : ReaderOf Json := fun cs =>
  match skipGaps cs with
  | '}' :: rest => some (.object [], rest)
  | _ => (fields? value (cs.length + 1) cs).map fun (fs, rest) => (.object fs, rest)

/-! ### Values -/

/-- A value that holds no other value. -/
def atom? (cs : List Char) : Option (Json × List Char) :=
  match cs with
  | 'n' :: 'u' :: 'l' :: 'l' :: rest => some (.null, rest)
  | 't' :: 'r' :: 'u' :: 'e' :: rest => some (.bool true, rest)
  | 'f' :: 'a' :: 'l' :: 's' :: 'e' :: rest => some (.bool false, rest)
  | '"' :: rest => (string? rest).map fun (s, rest) => (.string s, rest)
  | _ => number? cs

/-- A value with at most `depth` levels of lists and objects in it. -/
def value? : Nat → ReaderOf Json
  | 0 => fun cs => atom? (skipGaps cs)
  | depth + 1 => fun cs =>
    match skipGaps cs with
    | '[' :: rest => array? (value? depth) rest
    | '{' :: rest => object? (value? depth) rest
    | cs => atom? cs

/-- How many lists and objects may stand inside one another. -/
def nestingLimit : Nat := 127

/-- The **value of a whole text**, if it is one. -/
def parse? (text : String) : Option Json :=
  match value? nestingLimit text.toList with
  | some (v, rest) => if (skipGaps rest).isEmpty then some v else none
  | none => none

end DataQuality.Json
