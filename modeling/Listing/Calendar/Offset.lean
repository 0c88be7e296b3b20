import Listing.Text.Blank
import Listing.Text.Digits

/-!
# Offsets from universal time

A sign, two digits of hours and two digits of minutes, with colons or blanks between them if any. Where
a pattern allows for it, minutes may be left out at the end of a text.
-/

namespace Listing.Calendar

/-- Seconds east of universal time, less than a day either way. -/
structure Offset where
  seconds : Int
  bounded : -86400 < seconds ∧ seconds < 86400
  deriving DecidableEq

def digit? (c : Char) : Option Nat := if c.isDigit then some (c.toNat - 48) else none

/-- The sign of an offset; the minus sign proper counts as well as the hyphen. -/
def signed? : List Char → Option (Int × List Char)
  | '+' :: cs => some (1, cs)
  | '-' :: cs => some (-1, cs)
  | '−' :: cs => some (-1, cs)
  | _ => none

def twoDigits? : List Char → Option (Nat × List Char)
  | a :: b :: cs =>
    match digit? a, digit? b with
    | some tens, some ones => some (tens * 10 + ones, cs)
    | _, _ => none
  | _ => none

def scanOffset? (bare : Bool) (cs : List Char) : Option (Int × List Char) := do
  let (sign, cs) ← signed? cs
  let (hours, cs) ← twoDigits? cs
  let cs := cs.dropWhile fun c => c = ':' || Text.isSpace c
  if bare && cs.isEmpty then return (sign * (hours * 3600 : Nat), [])
  let (minutes, cs) ← twoDigits? cs
  if 60 ≤ minutes then none
  return (sign * (hours * 3600 + minutes * 60 : Nat), cs)

/-- The letter Z stands for universal time itself. -/
def scanZulu? (bare : Bool) : List Char → Option (Int × List Char)
  | 'Z' :: cs | 'z' :: cs => some (0, cs)
  | cs => scanOffset? bare cs

namespace Offset

/-- What follows the minutes is not looked at. -/
def ofString? (s : String) : Option Offset := do
  let (seconds, _) ← scanOffset? false s.toList
  if h : -86400 < seconds ∧ seconds < 86400 then return ⟨seconds, h⟩ else none

def toString (o : Offset) : String :=
  let sign := if o.seconds < 0 then '-' else '+'
  let minutes := o.seconds.natAbs / 60
  String.ofList (sign :: Text.twoDigits (minutes / 60) ++ ':' :: Text.twoDigits (minutes % 60))

end Offset
end Listing.Calendar
