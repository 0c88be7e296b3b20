import Listing.Calendar.Pattern
import Listing.Calendar.Week
import Listing.Text.Digits

/-!
# Writing dates

A moment in a pattern. The name of a time zone and an offset cannot be written, since a moment belongs to
no zone. Moments are whole seconds.
-/

namespace Listing.Calendar
open Text

def monthNames : List (List Char) :=
  ["January", "February", "March", "April", "May", "June", "July", "August", "September", "October",
    "November", "December"].map String.toList

def weekdayNames : List (List Char) :=
  ["Monday", "Tuesday", "Wednesday", "Thursday", "Friday", "Saturday", "Sunday"].map String.toList

/-- A sign and a number, as wide as both of them together are to be. -/
def padSigned (pad : Pad) (width : Nat) (sign : List Char) (n : Nat) : List Char :=
  let ds := decimal n
  let room := width - sign.length - ds.length
  match pad with
  | .bare => sign ++ ds
  | .zero => sign ++ List.replicate room '0' ++ ds
  | .blank => List.replicate room ' ' ++ sign ++ ds

def padTo (pad : Pad) (width n : Nat) : List Char := padSigned pad width [] n

/-- Years of one to four digits stand as they are, all others with their sign. -/
def writeYear (pad : Pad) (year : Int) : List Char :=
  if 0 ≤ year ∧ year ≤ 9999 then padTo pad 4 year.toNat
  else padSigned pad 5 [if year < 0 then '-' else '+'] year.natAbs

/-- Two characters. Tens beyond the digits take the characters that come next. -/
def writeOctet (pad : Pad) (n : Nat) : List Char :=
  if n < 100 then padTo pad 2 n else [Char.ofNat (48 + n / 10), Char.ofNat (48 + n % 10)]

/-- The seconds from the start of the epoch. -/
def Moment.timestamp (m : Moment) : Int :=
  (Date.daysToYear m.date.year + m.date.ordinal - 1) * 86400 + m.hour * 3600 + m.minute * 60 + m.second

def writeNumber (m : Moment) (pad : Pad) : DateField → List Char
  | .year => writeYear pad m.date.year
  -- Of the number of centuries the lowest eight bits are written.
  | .century => writeOctet pad (m.date.year / 100 % 256).toNat
  | .yearOfCentury => padTo pad 2 (m.date.year % 100).toNat
  | .weekYear => writeYear pad m.date.weekYear
  | .weekYearOfCentury => padTo pad 2 (m.date.weekYear % 100).toNat
  | .quarter => decimal ((m.date.month + 2) / 3)
  | .month => padTo pad 2 m.date.month
  | .day => padTo pad 2 m.date.day
  | .sundayWeek => padTo pad 2 (m.date.weekOf 6)
  | .mondayWeek => padTo pad 2 (m.date.weekOf 0)
  | .isoWeek => padTo pad 2 m.date.isoWeek
  | .weekdayFromSunday => decimal ((m.date.weekday + 1) % 7)
  | .weekdayFromMonday => decimal (m.date.weekday + 1)
  | .ordinal => padTo pad 3 m.date.ordinal
  | .hour => padTo pad 2 m.hour
  | .hourOfHalf => padTo pad 2 ((m.hour + 11) % 12 + 1)
  | .minute => padTo pad 2 m.minute
  | .second => padTo pad 2 m.second
  | .nanosecond => padTo pad 9 0
  | .timestamp => padSigned pad 9 (if m.timestamp < 0 then ['-'] else []) m.timestamp.natAbs

def writeName (names : List (List Char)) (full : Bool) (place : Nat) : List Char :=
  let name := names.getD place []
  if full then name else name.take 3

def writeFraction : FractionForm → List Char
  | .shortest => []
  | .dotted digits => '.' :: List.replicate digits '0'
  | .bare digits => List.replicate digits '0'

def writeItem (m : Moment) : Item → Option (List Char)
  | .literal cs => some cs
  | .space cs => some cs
  | .number field pad => some (writeNumber m pad field)
  | .monthName full => some (writeName monthNames full (m.date.month - 1))
  | .weekdayName full => some (writeName weekdayNames full m.date.weekday)
  | .half capital =>
    let letter := if m.hour < 12 then 'A' else 'P'
    some (if capital then [letter, 'M'] else [letter.toLower, 'm'])
  | .fraction form => some (writeFraction form)
  | .mark => some ['T']
  | .zoneName => none
  | .offset _ => none

def writeItems (m : Moment) : List Item → Option (List Char)
  | [] => some []
  | item :: rest =>
    match writeItem m item, writeItems m rest with
    | some here, some after => some (here ++ after)
    | _, _ => none

def Pattern.write? (p : Pattern) (m : Moment) : Option String :=
  (writeItems m p.items).map String.ofList

/-- `year-month-day`. -/
def Date.toString (d : Date) : String :=
  String.ofList (writeYear .zero d.year ++ '-' :: padTo .zero 2 d.month ++ '-' ::
    padTo .zero 2 d.day)

end Listing.Calendar
