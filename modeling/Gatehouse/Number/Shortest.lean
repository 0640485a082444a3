import Gatehouse.Number.Binary64

/-!
# Shortest decimals

The fewest decimal digits that read back as a given double, and among those the
nearest to it. `Shortest.ofFinite` tests, for one digit, two digits and so on, the two
neighbours of the value on the grid of decimals with that many digits; seventeen digits
always suffice.
-/

namespace Gatehouse

/-- The decimal `digits * 10 ^ exponent`. -/
structure Decimal where
  digits : Nat
  exponent : Int
deriving Repr, DecidableEq

/-- Which of two equally near decimals is taken. -/
inductive Tie
  | up
  | even
deriving Repr, DecidableEq

namespace Shortest

/-- The reals that round to a double, in units of a quarter of its last place. -/
structure Interval where
  value : Nat
  low : Nat
  high : Nat
  closed : Bool

/-- The interval of `mantissa * 2 ^ exponent`, in units of `2 ^ (exponent - 2)`. The gap below
a power of two is half as wide as the one above it. -/
def interval (mantissa : Nat) (exponent : Int) : Interval :=
  let below := if mantissa = Binary64.leastMantissa ∧ Binary64.minExponent < exponent then 1 else 2
  ⟨4 * mantissa, 4 * mantissa - below, 4 * mantissa + 2, mantissa % 2 = 0⟩

def Interval.contains (i : Interval) (num den : Nat) : Bool :=
  if i.closed then i.low * den ≤ num ∧ num ≤ i.high * den
  else i.low * den < num ∧ num < i.high * den

/-- `base ^ exponent` as a fraction. -/
def power (base : Nat) (exponent : Int) : Nat × Nat :=
  if exponent < 0 then (1, Nat.pow base exponent.natAbs) else (Nat.pow base exponent.natAbs, 1)

/-- Whether the lower of two neighbours is taken, when the value lies `rest / num` of a step
above it. -/
def takesBelow (tie : Tie) (below rest num : Nat) : Bool :=
  2 * rest < num || (2 * rest == num && tie == .even && below % 2 == 0)

/-- The neighbour of the value on the grid of multiples of `10 ^ k` that lies in the interval,
the nearer of two. The interval is in units of `2 ^ unit`. -/
def onGrid (tie : Tie) (i : Interval) (unit k : Int) : Option Decimal :=
  let (n2, d2) := power 2 unit
  let (n10, d10) := power 10 k
  -- one step of the grid is `num / den` units
  let num := n10 * d2
  let den := d10 * n2
  let below := i.value * den / num
  let rest := i.value * den % num
  let hit (d : Nat) : Bool := i.contains (d * num) den
  match decide (below ≠ 0) && hit below, hit (below + 1) with
  | true, true => some ⟨if takesBelow tie below rest num then below else below + 1, k⟩
  | true, false => some ⟨below, k⟩
  | false, true => some ⟨below + 1, k⟩
  | false, false => none

/-- The position of the highest decimal digit: the value is at least `10 ^ top` and below
`10 ^ (top + 1)`. -/
def top (mantissa : Nat) (exponent : Int) : Int :=
  let (n, d) := power 2 exponent
  if d = 1 then ((Nat.toDigits 10 (mantissa * n)).length : Int) - 1
  else
    let whole := mantissa * n * Nat.pow 10 400 / d
    ((Nat.toDigits 10 whole).length : Int) - 401

/-- The first grid with a hit, from the coarsest on. -/
def search (tie : Tie) (i : Interval) (unit : Int) : Nat → Int → Option Decimal
  | 0, _ => none
  | fuel + 1, k =>
    match onGrid tie i unit k with
    | some d => some d
    | none => search tie i unit fuel (k - 1)

/-- The decimal without zeros at its end. -/
def trim : Nat → Decimal → Decimal
  | 0, d => d
  | fuel + 1, d =>
    if d.digits ≠ 0 ∧ d.digits % 10 = 0 then trim fuel ⟨d.digits / 10, d.exponent + 1⟩ else d

/-- The shortest decimal that reads back as `mantissa * 2 ^ exponent`. -/
def ofFinite (tie : Tie) (mantissa : Nat) (exponent : Int) : Decimal :=
  if mantissa = 0 then ⟨0, 0⟩
  else
    let i := interval mantissa exponent
    let found := search tie i (exponent - 2) 20 (top mantissa exponent + 1)
    trim 20 (found.getD ⟨mantissa, 0⟩)

end Shortest

end Gatehouse
