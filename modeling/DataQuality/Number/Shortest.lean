import DataQuality.Number.Rounding

/-!
# The shortest decimal of a float

A float stands for every real number that rounds to it. `DataQuality.shortest` finds, among the
decimals in that interval, those with the fewest digits, and of these the one nearest to the float.

The search goes through the decimal grids `10 ^ j`, from coarse to fine. On each grid only the two
neighbours of the float have to be looked at: if any point of the grid lies in the interval, one of
these two does. The first grid with a hit gives the fewest digits. Everything is exact arithmetic on
natural numbers; a grid that is never found would leave the exact decimal expansion of the float, so
the result lies in the interval in any case.
-/

namespace DataQuality

/-- A **decimal**: the number `significand · 10 ^ exponent`. -/
structure Decimal where
  /-- The digits, as one number. -/
  significand : Nat
  /-- The power of ten. -/
  exponent : Int
  deriving DecidableEq, Inhabited

/-! ### The interval of a float -/

/-- The **rounding interval** of the float `m · 2 ^ q`, in units of `2 ^ (q - 2)`: the float lies
at `4 * m`, and the interval reaches half a gap to either side. The gap below a power of two is
half the gap above it, except at the bottom of the range. -/
structure RoundingInterval where
  /-- The lower end. -/
  low : Nat
  /-- The float itself. -/
  value : Nat
  /-- The upper end. -/
  high : Nat
  /-- Whether the ends belong to the interval. -/
  closed : Bool

/-- The rounding interval of `m · 2 ^ q`. The ends round to the even mantissa. -/
def RoundingInterval.ofParts (m : Nat) (q : Int) : RoundingInterval where
  low := 4 * m - (if m = Nat.pow 2 52 ∧ -1074 < q then 1 else 2)
  value := 4 * m
  high := 4 * m + 2
  closed := m % 2 = 0

/-- Whether `a ≤ b`, or `a < b` when the end does not belong. -/
def RoundingInterval.below (i : RoundingInterval) (a b : Nat) : Bool :=
  if i.closed then a ≤ b else a < b

/-- Whether `c · 10 ^ j` lies in the interval, whose unit is `2 ^ u`. -/
def RoundingInterval.holds (i : RoundingInterval) (u : Int) (c : Nat) (j : Int) : Bool :=
  let point := c * (powNum 10 j * powDen 2 u)
  let unit := powNum 2 u * powDen 10 j
  i.below (i.low * unit) point && i.below point (i.high * unit)

/-! ### The search -/

/-- On the grid `10 ^ j`, the neighbour of the float that lies in the interval; the nearer one if
both do. -/
def RoundingInterval.hit? (i : RoundingInterval) (tie : Tie) (u j : Int) : Option Nat :=
  let num := i.value * (powNum 2 u * powDen 10 j)
  let den := powNum 10 j * powDen 2 u
  let c := num / den
  match i.holds u c j, i.holds u (c + 1) j with
  | false, false => none
  | true, false => some c
  | false, true => some (c + 1)
  | true, true => some (roundDiv tie num den)

/-- The first hit on one of the `fuel` grids from `10 ^ j` downwards. -/
def RoundingInterval.search? (i : RoundingInterval) (tie : Tie) (u : Int) :
    Nat → Int → Option Decimal
  | 0, _ => none
  | fuel + 1, j =>
    match i.hit? tie u j with
    | some c => some ⟨c, j⟩
    | none => i.search? tie u fuel (j - 1)

/-- A grid that is coarser than the leading digit of `m · 2 ^ q`. -/
def coarseGrid (m : Nat) (q : Int) : Int := (m.log2 + 1 + q) * 30103 / 100000 + 1

/-- The float `m · 2 ^ q` as an exact decimal. -/
def Decimal.exact (m : Nat) (q : Int) : Decimal :=
  if 0 ≤ q then ⟨m * Nat.pow 2 q.toNat, 0⟩ else ⟨m * Nat.pow 5 (-q).toNat, q⟩

/-- The **shortest decimal** that rounds to `m · 2 ^ q`, the nearest one of that length; between two
equally near ones `tie` decides. -/
def shortest (tie : Tie) (m : Nat) (q : Int) : Decimal :=
  ((RoundingInterval.ofParts m q).search? tie (q - 2) 24 (coarseGrid m q)).getD (.exact m q)

end DataQuality
