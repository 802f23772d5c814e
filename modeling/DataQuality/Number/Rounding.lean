/-!
# Exact rounding of binary fractions

A finite float is `m · 2 ^ q` for a natural number `m` and an integer `q`; what is done to it here
is done on `m` and `q`, in exact arithmetic.

* `DataQuality.Binary` is that view of a float.
* `DataQuality.roundDiv` rounds a quotient of natural numbers to a neighbour, and
  `DataQuality.Tie` says which way a quotient halfway between its neighbours goes.
* `DataQuality.Number.roundHalfAway` rounds a float to an integer, and
  `DataQuality.Number.narrow` to the nearest float of single precision.
-/

namespace DataQuality

/-! ### The parts of a float -/

/-- A float **taken apart**. -/
inductive Binary where
  /-- Not a number. -/
  | nan
  /-- An infinity. -/
  | infinite (negative : Bool)
  /-- A zero. -/
  | zero (negative : Bool)
  /-- The number `± mantissa · 2 ^ exponent`, with a mantissa that is not zero. -/
  | finite (negative : Bool) (mantissa : Nat) (exponent : Int)
  deriving DecidableEq

/-- Whether a sign is the negative one. -/
def Binary.isMinus : Float.Model.UnpackedFloat.Sign → Bool
  | .negative => true
  | .positive => false

/-- The parts of a float. -/
def Binary.ofFloat (x : Float) : Binary :=
  match x.toModel.unpack with
  | .notANumber => .nan
  | .infinity s => .infinite (isMinus s)
  | .zero s => .zero (isMinus s)
  | .finite s m q _ => .finite (isMinus s) m q

/-! ### Rounding a quotient -/

/-- Where a quotient **halfway** between two neighbours goes. -/
inductive Tie where
  /-- To the larger neighbour. -/
  | up
  /-- To the even neighbour. -/
  | even
  deriving DecidableEq

/-- Of two neighbours `n` and `n + 1`, the one that a tie goes to. -/
def Tie.choose (tie : Tie) (n : Nat) : Nat :=
  match tie with
  | .up => n + 1
  | .even => if n % 2 = 0 then n else n + 1

/-- The natural number nearest to a quotient. -/
def roundDiv (tie : Tie) (num den : Nat) : Nat :=
  let n := num / den
  match compare (2 * (num % den)) den with
  | .lt => n
  | .gt => n + 1
  | .eq => tie.choose n

/-- The numerator of `2 ^ q` or `10 ^ q`, for a possibly negative exponent. -/
def powNum (base : Nat) (q : Int) : Nat := Nat.pow base q.toNat

/-- The denominator of `2 ^ q` or `10 ^ q`, for a possibly negative exponent. -/
def powDen (base : Nat) (q : Int) : Nat := Nat.pow base (-q).toNat

/-! ### Rounding a float -/

namespace Number

/-- Positive infinity. -/
def infinity : Float := 1.0 / 0.0

/-- The number `± n · 2 ^ q`, exact whenever it is a float. -/
def scaled (negative : Bool) (n : Nat) (q : Int) : Float :=
  let magnitude :=
    if 0 ≤ q then Float.ofNat (n * powNum 2 q) else Float.ofNat n / Float.ofNat (powDen 2 q)
  if negative then -magnitude else magnitude

/-- The integer nearest to a float, a half going away from zero. -/
def roundHalfAway (x : Float) : Float :=
  match Binary.ofFloat x with
  | .finite negative m q =>
    if 0 ≤ q then x else scaled negative (roundDiv .up m (powDen 2 q)) 0
  | _ => x

/-- The **single-precision** float nearest to a float, ties going to the even mantissa: 24 bits of
mantissa, fewer below `2 ^ -126`, and an infinity from `2 ^ 128` on. -/
def narrow (x : Float) : Float :=
  match Binary.ofFloat x with
  | .finite negative m q =>
    let unit := max (q + m.log2 - 23) (-149)
    let n := roundDiv .even (m * powNum 2 (q - unit)) (powDen 2 (q - unit))
    if n * powNum 2 unit ≥ Nat.pow 2 128 * powDen 2 unit then
      if negative then -infinity else infinity
    else scaled negative n unit
  | _ => x

end Number

end DataQuality
