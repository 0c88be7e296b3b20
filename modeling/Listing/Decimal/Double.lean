/-!
# Binary64 numbers

A finite double is a whole number of units of 2^-1074, with a sign. Rounding, comparison and scaling
are therefore exact arithmetic on naturals.
-/

namespace Listing.Decimal

inductive Double where
  | nan
  | infinite (negative : Bool)
  | finite (negative : Bool) (units : Nat)
  deriving DecidableEq, Repr

namespace Double

def unity : Nat := Nat.pow 2 1074

/-- The units in 2^1024, which no finite double reaches. -/
def limit : Nat := Nat.pow 2 2098

/-- How many low bits a significand of 53 bits leaves out of `units`. -/
def spare (units : Nat) : Nat := units.log2 - 52

/-- `num / den` units to 53 significant bits; a half goes to the even neighbour. -/
def roundUnits (num den : Nat) : Nat :=
  let shift := spare (num / den)
  let step := den * Nat.pow 2 shift
  let quotient := num / step
  let rest := 2 * (num % step)
  let up := rest > step || (rest == step && quotient % 2 == 1)
  (if up then quotient + 1 else quotient) * Nat.pow 2 shift

def ofUnits (negative : Bool) (units : Nat) : Double :=
  if units < limit then .finite negative units else .infinite negative

def ofRatio (negative : Bool) (num den : Nat) : Double :=
  ofUnits negative (roundUnits (num * unity) den)

def ofInt (n : Int) : Double := ofRatio (n < 0) n.natAbs 1

/-- The double nearest to `digits · 10^exponent`. Beyond four hundred places the answer is an
infinity or zero whatever the digits are. -/
def ofScientific (negative : Bool) (digits : Nat) (exponent : Int) : Double :=
  let places := (Nat.toDigits 10 digits).length + exponent
  if digits = 0 ∨ places < -400 then .finite negative 0
  else if 400 < places then .infinite negative
  else if 0 ≤ exponent then ofRatio negative (digits * Nat.pow 10 exponent.toNat) 1
  else ofRatio negative digits (Nat.pow 10 (-exponent).toNat)

/-- A number that orders the doubles; the infinities stand outside all finite ones. -/
def rank? : Double → Option Int
  | nan => none
  | infinite negative => some (if negative then -(limit : Int) else limit)
  | finite negative units => some (if negative then -(units : Int) else units)

/-- The order of two doubles: none where one of them is no number, and zeros are equal. -/
def compare? (a b : Double) : Option Ordering :=
  match a.rank?, b.rank? with
  | some x, some y => some (compare x y)
  | _, _ => none

theorem rank?_eq_none {a : Double} : a.rank? = none ↔ a = nan := by
  cases a with
  | nan => exact iff_of_true rfl rfl
  | infinite => exact iff_of_false (Option.some_ne_none _) nofun
  | finite => exact iff_of_false (Option.some_ne_none _) nofun

theorem compare?_eq_none {a b : Double} : a.compare? b = none ↔ a = nan ∨ b = nan := by
  rw [← rank?_eq_none, ← rank?_eq_none]
  unfold compare?
  cases a.rank? <;> cases b.rank? <;> simp

end Double
end Listing.Decimal
