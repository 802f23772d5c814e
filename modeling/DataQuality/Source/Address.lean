import DataQuality.Text.Search

/-!
# Addresses of files

An address of the scheme `file` is a host, a path from the root, and after a question mark or a
number sign more that does not concern the file. The host has to be this machine, which has no name
or the name `localhost`. In the path a backslash is as good as a slash, and the names for a folder
itself and for the one above it are resolved.

An address is written in characters that stand for themselves; all others are written byte by byte,
as percent signs with two hexadecimal digits (`DataQuality.Source.percentEncode`). What such digits
stand for is read back last (`DataQuality.Source.FileAddress.names?`), and has to be a path then:
well-formed text, no name empty or one of the two special ones, no control characters.
-/

namespace DataQuality.Source

/-! ### Percent signs -/

/-- The capital hexadecimal digit of a number below 16. -/
def hexDigit (n : Nat) : Char := Char.ofNat (if n < 10 then 48 + n else 55 + n)

/-- The value of a hexadecimal digit. -/
def hexDigitValue? (c : Char) : Option Nat :=
  if c.isDigit then some (c.toNat - 48)
  else if 'a' ≤ c.toLower && c.toLower ≤ 'f' then some (c.toLower.toNat - 87)
  else none

/-- A character in percent signs, byte by byte. -/
def percentChar (c : Char) : List Char :=
  (String.utf8EncodeChar c).flatMap fun b => ['%', hexDigit (b.toNat / 16), hexDigit (b.toNat % 16)]

/-- Some characters, those that are `special` or beyond ASCII in percent signs. -/
def percentEncode (special : Char → Bool) (cs : List Char) : List Char :=
  cs.flatMap fun c => if special c || 127 ≤ c.toNat then percentChar c else [c]

/-- The bytes that some characters stand for, percent signs read. A percent sign without two digits
behind it stands for itself. -/
def percentDecode : List Char → List UInt8
  | [] => []
  | '%' :: a :: b :: cs =>
    match hexDigitValue? a, hexDigitValue? b with
    | some m, some n => UInt8.ofNat (16 * m + n) :: percentDecode cs
    | _, _ => 37 :: percentDecode (a :: b :: cs)
  | c :: cs => String.utf8EncodeChar c ++ percentDecode cs
termination_by cs => cs.length

/-- The characters that some others stand for, if their bytes are well-formed. -/
def percentText? (cs : List Char) : Option (List Char) :=
  (String.fromUTF8? ⟨(percentDecode cs).toArray⟩).map String.toList

/-! ### Characters of an address -/

/-- A blank character, or one that only controls others. -/
def isTrimmed (c : Char) : Bool := c.toNat ≤ 32

/-- A character that controls others. -/
def isControl (c : Char) : Bool := c.toNat < 32 || c.toNat = 127

/-- A character that is written in percent signs wherever it stands in an address. -/
def isNeverPlain (c : Char) : Bool := isTrimmed c || c = '"' || c = '<' || c = '>'

/-- A character that is written in percent signs in a path. -/
def isSpecialInPath (c : Char) : Bool :=
  isNeverPlain c || c = '#' || c = '?' || c = '`' || c = '\x7b' || c = '\x7d'

/-- A character that parts two names. -/
def isSlash (c : Char) : Bool := c = '/' || c = '\\'

/-- A character that ends the path. -/
def endsPath (c : Char) : Bool := c = '?' || c = '#'

/-! ### Names -/

/-- The name of a **drive**: a letter, and a colon or a bar. -/
def isDrive : List Char → Bool
  | [c, d] => c.isAlpha && (d = ':' || d = '|')
  | _ => false

/-- A name with its dots read. -/
def dotsOf (name : List Char) : List Char :=
  match name with
  | '%' :: '2' :: c :: cs => if c = 'e' || c = 'E' then '.' :: dotsOf cs else name
  | '.' :: cs => '.' :: dotsOf cs
  | _ => name

/-- The name for the folder itself. -/
def isHere (name : List Char) : Bool := dotsOf name = ['.']

/-- The name for the folder above. -/
def isAbove (name : List Char) : Bool := dotsOf name = ['.', '.']

/-- The pieces between slashes of either kind. -/
def pathPieces (cs : List Char) : List (List Char) :=
  Text.pieces '/' (cs.map fun c => if isSlash c then '/' else c)

/-- Some names without the last one; a drive stays when it is the only one. -/
def dropName (names : List (List Char)) : List (List Char) :=
  match names with
  | [name] => if isDrive name then names else []
  | _ => names.dropLast

/-- The names of a path, when further pieces follow those that have been resolved. A path that ends
with a special name ends with a slash, and thus with an empty name. -/
def resolve (names : List (List Char)) : List (List Char) → List (List Char)
  | [] => names
  | piece :: rest =>
    let last := if rest.isEmpty then [[]] else []
    if isAbove piece then resolve (dropName names ++ last) rest
    else if isHere piece then resolve (names ++ last) rest
    else resolve (names ++ [percentEncode isSpecialInPath piece]) rest

/-! ### Addresses -/

/-- The **address of a file** on this machine, in its written form. -/
structure FileAddress where
  /-- The names of the path from the root on. The last one is empty for a folder. -/
  names : List (List Char)
  /-- What follows the path. -/
  tail : List Char
  deriving DecidableEq

/-- What follows the host of an address, if the host is this machine. A drive in the place of the
host is the first name of the path. -/
def afterHost? (cs : List Char) : Option (List Char) :=
  let host := cs.takeWhile fun c => !(isSlash c || endsPath c)
  let plain := (percentText? host).map fun host => host.map Char.toLower
  if isDrive host then some cs
  else if host.isEmpty || plain = some "localhost".toList then some (cs.drop host.length)
  else none

/-- What stands after the path of an address, from its question mark or number sign on. -/
def tailOf : List Char → List Char
  | '?' :: cs =>
    let query := cs.takeWhile (· ≠ '#')
    '?' :: percentEncode (fun c => isNeverPlain c || c = '\'') query ++
      (match cs.drop query.length with
        | '#' :: cs => '#' :: percentEncode (fun c => isNeverPlain c || c = '`') cs
        | _ => [])
  | '#' :: cs => '#' :: percentEncode (fun c => isNeverPlain c || c = '`') cs
  | _ => []

namespace FileAddress

/-- The address whose path, and whatever follows it, is given. -/
def ofPath (cs : List Char) : FileAddress :=
  let path := cs.takeWhile fun c => !endsPath c
  let names := (resolve [] (pathPieces path)).dropWhile (·.isEmpty)
  ⟨if names.isEmpty then [[]] else names, tailOf (cs.drop path.length)⟩

/-- The address behind the colon of the scheme `file`, if it is one of this machine. -/
def parse? : List Char → Option FileAddress
  | c :: d :: cs =>
    if isSlash c && isSlash d then (afterHost? cs).map ofPath else some (ofPath (c :: d :: cs))
  | cs => some (ofPath cs)

/-- The path in its written form. -/
def path (a : FileAddress) : List Char := a.names.flatMap fun name => '/' :: name

/-- The **whole address** in its written form. -/
def chars (a : FileAddress) : List Char := "file://".toList ++ a.path ++ a.tail

/-- Whether the address is that of a folder. -/
def isFolder (a : FileAddress) : Bool := a.path.getLast? = some '/'

/-- The **names of the file** that the path stands for, none for the root. -/
def names? (a : FileAddress) : Option (List (List Char)) := do
  let names ← percentText? (a.path.drop 1)
  if names.isEmpty then pure []
  else
    let names := Text.pieces '/' (if names.getLast? = some '/' then names.dropLast else names)
    if names.all fun name =>
        !name.isEmpty && name ≠ ['.'] && name ≠ ['.', '.'] && !name.any isControl then
      pure names
    else none

end FileAddress

end DataQuality.Source
