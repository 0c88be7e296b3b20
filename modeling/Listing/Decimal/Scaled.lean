import Listing.Decimal.Double

/-!
# Scaling by a power of ten

A significand and a power of ten joined by one multiplication or one division of doubles. The result
can differ from the nearest double in the last place, because each operand has been rounded before.
-/

namespace Listing.Decimal.Double

/-- The largest power of ten that one factor holds. -/
def stride : Nat := 308

def powerUnits (n : Nat) : Nat := roundUnits (Nat.pow 10 n * unity) 1

def timesPower (units n : Nat) : Nat := roundUnits (units * powerUnits n) unity

def overPower (units n : Nat) : Nat := roundUnits (units * unity) (powerUnits n)

/-- `units` divided by `10^n`, a stride at a time; after four strides nothing is left of 64 bits. -/
def scaleDown : Nat → Nat → Nat → Nat
  | 0, _, _ => 0
  | strides + 1, units, n =>
    if n ≤ stride then overPower units n
    else if units = 0 then 0
    else scaleDown strides (overPower units stride) (n - stride)

/-- `significand · 10^exponent`; none where that is beyond the largest double. -/
def scaled? (negative : Bool) (significand : Nat) (exponent : Int) : Option Double :=
  let units := roundUnits (significand * unity) 1
  if exponent < 0 then some (.finite negative (scaleDown 4 units (-exponent).toNat))
  else if exponent.toNat ≤ stride then
    let product := timesPower units exponent.toNat
    if product < limit then some (.finite negative product) else none
  else if units = 0 then some (.finite negative 0)
  else none

end Listing.Decimal.Double
