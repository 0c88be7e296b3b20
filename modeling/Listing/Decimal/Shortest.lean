import Listing.Decimal.Double
import Listing.Text.Digits

/-!
# The shortest decimal of a double

The fewest digits that lie between the two halfway points around a double, and of those the nearest.
The halfway points count as inside when the significand is even, as rounding goes to even.
-/

namespace Listing.Decimal

structure Scientific where
  digits : Nat
  exponent : Int
  deriving DecidableEq, Repr

/-- The decimals that round to a double: between `low` and `high`, in quarter units. -/
structure Interval where
  low : Nat
  value : Nat
  high : Nat
  closed : Bool

/-- Below a power of two the doubles lie twice as close as above it. -/
def Interval.around (units : Nat) : Interval :=
  let shift := Double.spare units
  let step := Nat.pow 2 shift
  let below := if 0 < shift && units == Nat.pow 2 (52 + shift) then step else 2 * step
  ⟨4 * units - below, 4 * units, 4 * units + 2 * step, units / step % 2 == 0⟩

/-- The quarter units of `d · 10^k`, and of one, over a common scale. -/
def quarters (d : Nat) (k : Int) : Nat × Nat :=
  if 0 ≤ k then (d * Nat.pow 10 k.toNat * (4 * Double.unity), 1)
  else (d * (4 * Double.unity), Nat.pow 10 (-k).toNat)

def Interval.holds (i : Interval) (d : Nat) (k : Int) : Bool :=
  let (q, scale) := quarters d k
  if i.closed then i.low * scale ≤ q && q ≤ i.high * scale
  else i.low * scale < q && q < i.high * scale

/-- The place of the leading digit: `10^p ≤ value < 10^(p+1)`. -/
def leadingPlace (units : Nat) : Int :=
  ((Nat.toDigits 10 (units * Nat.pow 10 400 / Double.unity)).length : Int) - 401

/-- The better of the two decimals around a value on the grid of `10^k`, if one is inside. -/
def candidate (i : Interval) (units : Nat) (k : Int) : Option Nat :=
  let below := if 0 ≤ k then units / (Nat.pow 10 k.toNat * Double.unity)
    else units * Nat.pow 10 (-k).toNat / Double.unity
  let (q, scale) := quarters below k
  let (next, _) := quarters (below + 1) k
  let value := i.value * scale
  match i.holds below k && below != 0, i.holds (below + 1) k with
  | false, false => none
  | true, false => some below
  | false, true => some (below + 1)
  | true, true =>
    let down := value - q
    let up := next - value
    if down < up || (down == up && below % 2 == 0) then some below else some (below + 1)

/-- Tries `grids` ever finer grids from `10^k` downwards. -/
def search (i : Interval) (units : Nat) : Nat → Int → Scientific
  | 0, k => ⟨units * Nat.pow 10 (-k).toNat / Double.unity, k⟩
  | grids + 1, k =>
    match candidate i units k with
    | some digits => ⟨digits, k⟩
    | none => search i units grids (k - 1)

def stripZeros : Nat → Scientific → Scientific
  | 0, s => s
  | fuel + 1, s =>
    if s.digits % 10 == 0 && s.digits != 0 then stripZeros fuel ⟨s.digits / 10, s.exponent + 1⟩
    else s

def shortest (units : Nat) : Scientific :=
  stripZeros 20 (search (Interval.around units) units 17 (leadingPlace units))

/-- How a decimal is laid out: positionally while its leading place is within bounds. -/
structure Layout where
  least : Int
  most : Int
  /-- Whether a whole number shows a zero behind the point. -/
  pointZero : Bool
  /-- Whether a positive exponent shows its sign. -/
  plusSign : Bool

open Text in
def Layout.render (l : Layout) (s : Scientific) : List Char :=
  let ds := decimal s.digits
  let place := s.exponent + ds.length - 1
  if l.least ≤ place ∧ place ≤ l.most then
    if 0 ≤ s.exponent then
      ds ++ List.replicate s.exponent.toNat '0' ++ (if l.pointZero then ['.', '0'] else [])
    else if 0 ≤ place then
      ds.take (place.toNat + 1) ++ '.' :: ds.drop (place.toNat + 1)
    else '0' :: '.' :: List.replicate ((-place).toNat - 1) '0' ++ ds
  else
    let mantissa := if ds.length ≤ 1 then ds else ds.take 1 ++ '.' :: ds.drop 1
    let sign := if place < 0 then ['-'] else if l.plusSign then ['+'] else []
    mantissa ++ 'e' :: sign ++ decimal place.natAbs

/-- A finite double in a layout; zero keeps its sign. -/
def Layout.text (l : Layout) (negative : Bool) (units : Nat) : List Char :=
  let body := if units = 0 then l.render ⟨0, 0⟩ else l.render (shortest units)
  if negative then '-' :: body else body

end Listing.Decimal
