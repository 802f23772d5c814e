import DataQuality.Json.Basic

/-!
# Numbers in JSON documents

The grammar of a JSON number is narrower than that of a number in a cell: no plus sign, no leading
zeros, digits on both sides of the point. An integer is read as the nearest float.

A number with a fraction or a power of ten is read **stepwise**, in double arithmetic: its digits
are collected for as long as they fit into 64 bits, the rest of them only counts, and the
collected number is multiplied or divided by a power of ten. This is exact as long as there are
few digits, and may miss the nearest float by a little when there are many. A number out of range
is refused.
-/

namespace DataQuality.Json

/-! ### Grammar -/

/-- The grammar of a **JSON number**. -/
def isNumber (l : Literal) : Bool :=
  l.sign != some .plus &&
    (match l.whole with
      | [] => false
      | [_] => true
      | d :: _ => d != Digit.zero) &&
    l.fraction != some []

/-! ### Stepwise reading -/

/-- The largest number that the digits are collected in. -/
def wordMax : Nat := UInt64.size - 1

/-- The whole digits collected so far, and how many more have only been counted. Once a digit does
not fit, all the digits after it count. -/
def collectWhole (n : Nat) : List Digit → Nat × Nat
  | [] => (n, 0)
  | d :: ds =>
    if 10 * n + d.val ≤ wordMax then collectWhole (10 * n + d.val) ds else (n, ds.length + 1)

/-- The digits of the fraction collected after the whole digits, and how many of them were. The
first digit that does not fit ends the collection. -/
def collectFraction (n : Nat) : List Digit → Nat × Nat
  | [] => (n, 0)
  | d :: ds =>
    if 10 * n + d.val ≤ wordMax then
      let (m, taken) := collectFraction (10 * n + d.val) ds
      (m, taken + 1)
    else (n, 0)

/-- A power of ten, as the nearest float. -/
def tenTo (k : Nat) : Float := Float.ofScientific 1 false k

/-- Division by a power of ten, by at most `1e308` at a time. -/
def scaleDown (x : Float) (k : Nat) : Float :=
  if k ≤ 308 then x / tenTo k
  else if x == 0 then x
  else scaleDown (x / tenTo 308) (k - 308)
termination_by k
decreasing_by omega

/-- Multiplication or division by a power of ten; refused when the result is out of range. -/
def scale? (x : Float) (e : Int) : Option Float :=
  if e ≤ 0 then some (scaleDown x e.natAbs)
  else if x == 0 then some x
  else if 308 < e then none
  else
    let y := x * tenTo e.toNat
    if y.isFinite then some y else none

/-- The magnitude of a number, read **stepwise**. -/
def stepwise? (l : Literal) : Option Float :=
  let (whole, counted) := collectWhole 0 l.whole
  let (digits, taken) := collectFraction whole l.fractionDigits
  let written : Int :=
    match l.exponent with
    | none => 0
    | some e => e.value
  scale? (Float.ofNat digits) (written + counted - taken)

/-- The float that a JSON number is **read** as; there is none for a number out of range. -/
def numberValue? (l : Literal) : Option Float :=
  (stepwise? l).map fun magnitude => if l.isNegative then -magnitude else magnitude

/-- The natural number below `2 ^ 64` that a literal denotes; a literal with a sign, a point or a
power of ten denotes none. -/
def word? (l : Literal) : Option UInt64 :=
  if l.isNatural && Digit.value l.whole ≤ wordMax then some (UInt64.ofNat (Digit.value l.whole))
  else none

end DataQuality.Json
