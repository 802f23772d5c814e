/-!
# Decimal literals

A number is written as an optional sign, digits, an optional fraction and an optional power of ten.
`DataQuality.Literal` keeps these parts apart, so that each of the grammars that the library reads
(cells, JSON documents, delimited files) is a condition on the parts of one and the same scan, and
each of the notations that it writes is a choice of parts.

* `DataQuality.Literal.scan` takes the longest literal off the front of a text;
* `DataQuality.Literal.chars` writes a literal down;
* `DataQuality.Literal.toFloat` is the float nearest to its value.

Digits are elements of `Fin 10`: no literal holds anything that is not a digit.
-/

namespace DataQuality

/-! ### Digits -/

/-- A decimal digit. -/
abbrev Digit := Fin 10

/-- The digit zero. -/
def Digit.zero : Digit := ⟨0, by decide⟩

/-- The digit that a character stands for; only the ASCII digits stand for one. -/
def Digit.ofChar? (c : Char) : Option Digit :=
  if h : 48 ≤ c.toNat ∧ c.toNat < 58 then some ⟨c.toNat - 48, by omega⟩ else none

/-- The character that stands for a digit. -/
def Digit.char (d : Digit) : Char := Char.ofNat (48 + d.val)

/-- The number with the given digits, the most significant one first. -/
def Digit.value (ds : List Digit) : Nat := ds.foldl (fun n d => 10 * n + d.val) 0

/-- The digits of a number, the least significant one first; none for zero. -/
def Digit.ofNatRev (n : Nat) : List Digit :=
  if h : n = 0 then [] else ⟨n % 10, Nat.mod_lt _ (by decide)⟩ :: ofNatRev (n / 10)
termination_by n
decreasing_by omega

/-- The digits of a number, the most significant one first; a single zero for zero. -/
def Digit.ofNat (n : Nat) : List Digit :=
  if n = 0 then [zero] else (ofNatRev n).reverse

/-- The digits in front of a text, and the rest of it. -/
def Digit.scan : List Char → List Digit × List Char
  | [] => ([], [])
  | c :: cs =>
    match Digit.ofChar? c with
    | some d => let (ds, rest) := scan cs; (d :: ds, rest)
    | none => ([], c :: cs)

/-! ### Literals -/

/-- The sign in front of a number. -/
inductive Sign where
  /-- A written plus. -/
  | plus
  /-- A minus. -/
  | minus
  deriving DecidableEq, Inhabited

/-- The character of a sign. -/
def Sign.char : Sign → Char
  | .plus => '+'
  | .minus => '-'

/-- The sign in front of a text, if there is one, and the rest of it. -/
def Sign.scan : List Char → Option Sign × List Char
  | '+' :: cs => (some .plus, cs)
  | '-' :: cs => (some .minus, cs)
  | cs => (none, cs)

/-- A power of ten, as written: a sign and digits. -/
structure Exponent where
  /-- The sign, when one is written. -/
  sign : Option Sign
  /-- The digits. -/
  digits : List Digit
  deriving DecidableEq, Inhabited

/-- The exponent as a number. -/
def Exponent.value (e : Exponent) : Int :=
  match e.sign with
  | some .minus => -(Digit.value e.digits : Int)
  | _ => Digit.value e.digits

/-- A **decimal literal**, part by part. -/
structure Literal where
  /-- The sign, when one is written. -/
  sign : Option Sign
  /-- The digits before the point. -/
  whole : List Digit
  /-- The digits after the point, when a point is written. -/
  fraction : Option (List Digit)
  /-- The power of ten, when one is written. -/
  exponent : Option Exponent
  deriving DecidableEq, Inhabited

namespace Literal

/-- The literal of a natural number. -/
def ofNat (n : Nat) : Literal := ⟨none, Digit.ofNat n, none, none⟩

/-- The digits after the point; none when no point is written. -/
def fractionDigits (l : Literal) : List Digit := l.fraction.getD []

/-! ### Writing -/

/-- An optional sign as text. -/
def signChars : Option Sign → List Char
  | none => []
  | some s => [s.char]

/-- The characters of a literal. -/
def chars (l : Literal) : List Char :=
  signChars l.sign ++ l.whole.map Digit.char ++
    (match l.fraction with
      | none => []
      | some ds => '.' :: ds.map Digit.char) ++
    (match l.exponent with
      | none => []
      | some e => 'e' :: (signChars e.sign ++ e.digits.map Digit.char))

/-- The text of a literal. -/
def text (l : Literal) : String := String.ofList l.chars

/-! ### Scanning -/

/-- The fraction in front of a text: a point and the digits after it, of which there may be none. -/
def scanFraction : List Char → Option (List Digit) × List Char
  | '.' :: cs => let (ds, rest) := Digit.scan cs; (some ds, rest)
  | cs => (none, cs)

/-- The power of ten in front of a text. A letter `e` that no digits follow belongs to the rest. -/
def scanExponent (cs : List Char) : Option Exponent × List Char :=
  match cs with
  | [] => (none, [])
  | c :: tail =>
    if c = 'e' ∨ c = 'E' then
      let (sign, afterSign) := Sign.scan tail
      match Digit.scan afterSign with
      | ([], _) => (none, cs)
      | (d :: ds, rest) => (some ⟨sign, d :: ds⟩, rest)
    else (none, cs)

/-- The **longest literal** in front of a text, and the rest of it. The parts found may all be
empty: which of them have to be there is for the grammars to say. -/
def scan (cs : List Char) : Literal × List Char :=
  let (sign, cs) := Sign.scan cs
  let (whole, cs) := Digit.scan cs
  let (fraction, cs) := scanFraction cs
  let (exponent, cs) := scanExponent cs
  (⟨sign, whole, fraction, exponent⟩, cs)

/-- The literal that a whole text consists of, if it is one. -/
def ofChars? (cs : List Char) : Option Literal :=
  match scan cs with
  | (l, []) => some l
  | (_, _ :: _) => none

/-! ### Value -/

/-- All digits of a literal as one number. -/
def significand (l : Literal) : Nat := Digit.value (l.whole ++ l.fractionDigits)

/-- The power of ten that the significand is multiplied by. -/
def scale (l : Literal) : Int :=
  (match l.exponent with
    | none => 0
    | some e => e.value) - l.fractionDigits.length

/-- A literal below or at zero: one with a written minus. -/
def isNegative (l : Literal) : Bool := l.sign == some .minus

/-- The float **nearest to the value** of a literal, of two equally near ones the even one; a value
out of range is infinite. The sign of a written zero is kept. -/
def toFloat (l : Literal) : Float :=
  let magnitude := Float.ofScientific l.significand (l.scale < 0) l.scale.natAbs
  if l.isNegative then -magnitude else magnitude

/-- A literal of digits alone, without sign, point or power of ten. -/
def isNatural (l : Literal) : Bool :=
  l.sign.isNone && l.fraction.isNone && l.exponent.isNone && !l.whole.isEmpty

end Literal

/-- The grammar of a **number in a cell**: an optional sign, digits before the point or after it or
both, and an optional power of ten. -/
def Literal.isCellNumber (l : Literal) : Bool :=
  !l.whole.isEmpty || !l.fractionDigits.isEmpty

end DataQuality
