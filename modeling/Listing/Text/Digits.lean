import Listing.Count

/-!
# Decimal digits

Whole numbers written in decimal. `natural?_decimal` says that what `decimal` writes is read back.
-/

namespace Listing.Text

def decimal (n : Nat) : List Char := Nat.toDigits 10 n

/-- The value of a text that consists of one or more digits. Leading zeros do no harm. -/
def natural? (cs : List Char) : Option Nat :=
  if !cs.isEmpty && cs.all Char.isDigit then some (Nat.ofDigitChars 10 cs 0) else none

/-- Digits with a value below `limit`. -/
def naturalBelow? (limit : Nat) (cs : List Char) : Option Nat :=
  (natural? cs).filter (· < limit)

/-- `naturalBelow?`, where a plus sign may lead. -/
def unsigned? (limit : Nat) : List Char → Option Nat
  | '+' :: cs => naturalBelow? limit cs
  | cs => naturalBelow? limit cs

/-- Digits that may follow one sign. -/
def integer? : List Char → Option Int
  | '-' :: cs => (natural? cs).map fun n => -(n : Int)
  | '+' :: cs => (natural? cs).map fun n => (n : Int)
  | cs => (natural? cs).map fun n => (n : Int)

def int64? (cs : List Char) : Option Int64 :=
  (integer? cs).bind fun n =>
    if -9223372036854775808 ≤ n ∧ n ≤ 9223372036854775807 then some (Int64.ofInt n) else none

def count? (cs : List Char) : Option Count := (natural? cs).bind Count.ofNat?

/-- A count, where a plus sign may lead. -/
def unsignedCount? (cs : List Char) : Option Count :=
  (unsigned? UInt64.size cs).map UInt64.ofNat

/-- Two digits or more, a zero put in front where one is missing. -/
def twoDigits (n : Nat) : List Char := if n < 10 then '0' :: decimal n else decimal n

theorem decimal_ne_nil (n : Nat) : decimal n ≠ [] := Nat.toDigits_ne_nil

theorem isDigit_of_mem_decimal {n : Nat} {c : Char} (h : c ∈ decimal n) : c.isDigit = true :=
  Nat.isDigit_of_mem_toDigits (by decide) (by decide) h

theorem natural?_decimal (n : Nat) : natural? (decimal n) = some n := by
  have digits : (decimal n).all Char.isDigit = true :=
    List.all_eq_true.mpr fun _ => isDigit_of_mem_decimal
  have value : Nat.ofDigitChars 10 (decimal n) 0 = n :=
    Nat.ofDigitChars_toDigits (by decide) (by decide)
  simp [natural?, digits, decimal_ne_nil, value]

end Listing.Text
