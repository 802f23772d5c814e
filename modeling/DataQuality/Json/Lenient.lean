import DataQuality.Json.Reader

/-!
# Reading JSON leniently

A second reader, for the objects that stand one after another in a file of lines. It takes more
than the strict one (`DataQuality.Json.parse?`): commas may be missing, repeated or left over, a
number is any run of characters that numbers are made of, a text may hold control characters, and
lists and objects may be nested without a limit. Above the first supplementary plane its surrogate
pairs are not those of the strict reader.

It keeps less as well. A value is read as a `DataQuality.Json.Loose`, which leaves numbers
unread and forgets what is inside a list or an object.
-/

namespace DataQuality.Json

/-- A **value**, read leniently. -/
inductive Loose where
  /-- The null value. -/
  | null
  /-- A truth value. -/
  | bool (value : Bool)
  /-- A number, or what looks like one, in its characters. -/
  | number (chars : List Char)
  /-- A text. -/
  | string (text : String)
  /-- A list or an object. -/
  | nested
  deriving DecidableEq, Inhabited

/-- The fields of an object, read leniently. -/
abbrev LooseFields := List (String × Loose)

namespace Loose

/-- A text from its next item or field on: past blank characters and any number of commas. -/
def skipSeparators (cs : List Char) : List Char := cs.dropWhile fun c => isGap c || c = ','

/-- A character that a number may begin with. -/
def beginsNumber (c : Char) : Bool := c.isDigit || c = '-'

/-- A character that numbers are made of. -/
def inNumber (c : Char) : Bool :=
  c.isDigit || c = '-' || c = '+' || c = '.' || c = 'e' || c = 'E'

/-- The lenient rules for texts: every character is plain, and the halves of a surrogate pair are
joined bit by bit. Bit 16 of the code point is always set, whatever the high half has there. -/
def stringRules : StringRules :=
  ⟨fun _ => true, fun high low => high <<< 10 ||| (0x10000 + low)⟩

/-- A text behind its opening quote, of at most `fuel` characters. -/
def string? (fuel : Nat) (cs : List Char) : Option (String × List Char) :=
  (stringRest? stringRules fuel cs).map fun (s, rest) => (String.ofList s, rest)

/-- A value that holds no other value. -/
def atom? (fuel : Nat) : ReaderOf Loose
  | 'n' :: 'u' :: 'l' :: 'l' :: rest => some (.null, rest)
  | 't' :: 'r' :: 'u' :: 'e' :: rest => some (.bool true, rest)
  | 'f' :: 'a' :: 'l' :: 's' :: 'e' :: rest => some (.bool false, rest)
  | '"' :: rest => (string? fuel rest).map fun (s, rest) => (.string s, rest)
  | c :: rest =>
    if beginsNumber c then some (.number (c :: rest.takeWhile inNumber), rest.dropWhile inNumber)
    else none
  | [] => none

/-- What follows a list, whose items are at most `fuel`. -/
def listEnd? (value : ReaderOf Loose) : Nat → List Char → Option (List Char)
  | 0, _ => none
  | fuel + 1, cs =>
    match skipSeparators cs with
    | ']' :: rest => some rest
    | cs => do
      let (_, cs) ← value cs
      listEnd? value fuel cs

/-- The fields of an object behind its opening brace, of which there are at most `fuel`. -/
def fields? (value : ReaderOf Loose) : Nat → ReaderOf LooseFields
  | 0, _ => none
  | fuel + 1, cs =>
    match skipSeparators cs with
    | '}' :: rest => some ([], rest)
    | '"' :: cs => do
      let (key, cs) ← string? (fuel + 1) cs
      match skipGaps cs with
      | ':' :: cs =>
        let (v, cs) ← value cs
        let (fs, rest) ← fields? value fuel cs
        pure ((key, v) :: fs, rest)
      | _ => none
    | _ => none

/-- A value with at most `depth` levels of lists and objects in it, and at most `fuel` parts. -/
def value? (fuel : Nat) : Nat → ReaderOf Loose
  | 0 => fun cs => atom? fuel (skipGaps cs)
  | depth + 1 => fun cs =>
    match skipGaps cs with
    | '[' :: rest => (listEnd? (value? fuel depth) fuel rest).map fun rest => (.nested, rest)
    | '{' :: rest => (fields? (value? fuel depth) fuel rest).map fun (_, rest) => (.nested, rest)
    | cs => atom? fuel cs

/-- The objects that stand one after another in a text, of which there are at most `count`. -/
def objectsFrom? (fuel : Nat) : Nat → List Char → Option (List LooseFields)
  | 0, _ => none
  | count + 1, cs =>
    match skipGaps cs with
    | [] => some []
    | '{' :: cs => do
      let (fs, rest) ← fields? (value? fuel fuel) fuel cs
      let objects ← objectsFrom? fuel count rest
      pure (fs :: objects)
    | _ => none

/-- The **objects of a whole text** that holds any number of them, one after another. -/
def objects? (text : String) : Option (List LooseFields) :=
  let cs := text.toList
  objectsFrom? (cs.length + 1) (cs.length + 1) cs

end Loose

end DataQuality.Json
