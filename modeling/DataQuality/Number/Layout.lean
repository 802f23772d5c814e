import DataQuality.Number.Literal
import DataQuality.Number.Shortest

/-!
# Number notations

The shortest decimal of a float says which digits are written; a `DataQuality.Layout` says how: up
to which power of ten the digits stand in their places, whether a whole number keeps a point, and
how an exponent is signed. Three layouts are in use:

* `DataQuality.Layout.plain`, for texts that people read: no exponent ever, no point on whole
  numbers;
* `DataQuality.Layout.json`, for JSON documents;
* `DataQuality.Layout.trace`, for values in log events.

Labels with a fixed number of places (`DataQuality.Number.fixed`) round the exact value instead.
-/

namespace DataQuality

/-! ### Layouts -/

/-- How the digits of a float are **laid out**. -/
structure Layout where
  /-- The powers of ten of a leading digit, first and one past the last, for which every digit
  stands in its place; without bounds all do. -/
  positional : Option (Int × Int)
  /-- Whether a whole number is written with a point and a zero. -/
  keepsPoint : Bool
  /-- Whether a positive exponent has a sign. -/
  signsExponent : Bool
  /-- Which of two equally near shortest decimals is written. -/
  tie : Tie

/-- Numbers for people: every digit in its place, no point on a whole number. -/
def Layout.plain : Layout := ⟨none, false, false, .up⟩

/-- Numbers in JSON documents: in their places from `1e-5` to below `1e+16`. -/
def Layout.json : Layout := ⟨some (-5, 16), true, true, .even⟩

/-- Numbers in log events: in their places from `1e-4` to below `1e16`. -/
def Layout.trace : Layout := ⟨some (-4, 16), true, false, .up⟩

/-- Whether a number with the given power of ten at its leading digit is written positionally. -/
def Layout.isPositional (layout : Layout) (lead : Int) : Bool :=
  match layout.positional with
  | none => true
  | some (first, past) => first ≤ lead && lead < past

/-! ### Laying out a decimal -/

/-- The fraction of a whole number. -/
def Layout.emptyFraction (layout : Layout) : Option (List Digit) :=
  if layout.keepsPoint then some [.zero] else none

/-- The digits of a decimal in their places. -/
def Layout.place (layout : Layout) (sign : Option Sign) (d : Decimal) : Literal :=
  let ds := Digit.ofNat d.significand
  if 0 ≤ d.exponent then
    ⟨sign, ds ++ List.replicate d.exponent.toNat .zero, layout.emptyFraction, none⟩
  else
    let places := (-d.exponent).toNat
    if places < ds.length then
      ⟨sign, ds.take (ds.length - places), some (ds.drop (ds.length - places)), none⟩
    else ⟨sign, [.zero], some (List.replicate (places - ds.length) .zero ++ ds), none⟩

/-- The digits of a decimal with a power of ten. -/
def Layout.scientific (layout : Layout) (sign : Option Sign) (ds : List Digit) (lead : Int) :
    Literal :=
  let exponentSign :=
    if lead < 0 then some .minus else if layout.signsExponent then some .plus else none
  let fraction := if (ds.drop 1).isEmpty then none else some (ds.drop 1)
  ⟨sign, ds.take 1, fraction, some ⟨exponentSign, Digit.ofNat lead.natAbs⟩⟩

/-- A decimal with a sign, laid out. -/
def Layout.literal (layout : Layout) (negative : Bool) (d : Decimal) : Literal :=
  let sign := if negative then some .minus else none
  let ds := Digit.ofNat d.significand
  let lead := d.exponent + ds.length - 1
  if layout.isPositional lead then layout.place sign d else layout.scientific sign ds lead

/-! ### Writing a float -/

/-- The literal of a float; there is none for an infinity or for what is not a number. -/
def Layout.ofFloat? (layout : Layout) (x : Float) : Option Literal :=
  match Binary.ofFloat x with
  | .nan => none
  | .infinite _ => none
  | .zero negative => some (layout.place (if negative then some .minus else none) ⟨0, 0⟩)
  | .finite negative m q => some (layout.literal negative (shortest layout.tie m q))

namespace Number

/-- The text of a float that has no digits. -/
def specialText (x : Float) : String :=
  if x.isNaN then "NaN" else if x < 0 then "-inf" else "inf"

/-- A float in the given layout. -/
def write (layout : Layout) (x : Float) : String :=
  match layout.ofFloat? x with
  | some literal => literal.text
  | none => specialText x

/-- A float for people: the shortest digits that read back, without exponent. -/
def plain (x : Float) : String := write .plain x

/-- A float in a log event. -/
def trace (x : Float) : String := write .trace x

/-- A **cell number** for people: the plain text, in which a zero has no sign. -/
def display (x : Float) : String := if x == 0 then "0" else plain x

/-- The digits of `n / 10 ^ places` with that many places. -/
def placeDigits (negative : Bool) (places n : Nat) : Literal :=
  let ds := Digit.ofNat n
  let padded := List.replicate (places + 1 - ds.length) .zero ++ ds
  ⟨if negative then some .minus else none, padded.take (padded.length - places),
    some (padded.drop (padded.length - places)), none⟩

/-- A float with a **fixed number of places**: the exact value rounded, a half going to the even
neighbour. -/
def fixed (places : Nat) (x : Float) : String :=
  match Binary.ofFloat x with
  | .nan => specialText x
  | .infinite _ => specialText x
  | .zero negative => (placeDigits negative places 0).text
  | .finite negative m q =>
    (placeDigits negative places
      (roundDiv .even (m * powNum 2 q * Nat.pow 10 places) (powDen 2 q))).text

end Number

end DataQuality
