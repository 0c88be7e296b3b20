import Listing.Decimal.Double
import Listing.Text.Blank
import Listing.Text.Digits

/-!
# Texts that are numbers

A text counts as a number when, blanks at its ends apart, it is an optional sign before a decimal with
digits on at least one side of its point, before an exponent if there is one, or before a name of
infinity or of the missing number in any case. The value is the nearest double.
-/

namespace Listing.Decimal
open Text

/-- An exponent: the letter, an optional sign and digits. No exponent at all is zero. -/
def exponent? : List Char → Option Int
  | [] => some 0
  | c :: cs => if c = 'e' ∨ c = 'E' then integer? cs else none

def magnitude? (negative : Bool) (cs : List Char) : Option Double :=
  let whole := cs.takeWhile Char.isDigit
  let afterWhole := cs.dropWhile Char.isDigit
  let (fraction, tail) := match afterWhole with
    | '.' :: rest => (rest.takeWhile Char.isDigit, rest.dropWhile Char.isDigit)
    | rest => ([], rest)
  if whole.isEmpty && fraction.isEmpty then none
  else (exponent? tail).map fun e =>
    .ofScientific negative (Nat.ofDigitChars 10 (whole ++ fraction) 0) (e - fraction.length)

def unsignedNumber? (negative : Bool) (cs : List Char) : Option Double :=
  match String.ofList (cs.map Char.toLower) with
  | "inf" | "infinity" => some (.infinite negative)
  | "nan" => some .nan
  | _ => magnitude? negative cs

def number? (cs : List Char) : Option Double :=
  match trim cs with
  | '-' :: rest => unsignedNumber? true rest
  | '+' :: rest => unsignedNumber? false rest
  | rest => unsignedNumber? false rest

end Listing.Decimal
