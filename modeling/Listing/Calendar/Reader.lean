import Listing.Calendar.Offset
import Listing.Calendar.Writer

/-!
# Reading dates

A text is read item by item, and what the items say must then determine one day and agree with it. Numbers
may have blanks in front and fewer digits than their field is wide; a year with a sign may have any number
of digits.
-/

namespace Listing.Calendar
open Text

/-- What a text can say about a moment. -/
inductive Slot where
  | year
  | century
  | yearOfCentury
  | weekYear
  | weekYearOfCentury
  | quarter
  | month
  | day
  | sundayWeek
  | mondayWeek
  | isoWeek
  | weekday
  | ordinal
  | half
  | hourOfHalf
  | minute
  | second
  | nanosecond
  | timestamp
  | offset
  deriving DecidableEq

abbrev Readings := List (Slot × Int)

/-- The digits that a field takes without a sign, and the numbers that it admits. -/
structure DateField.Bounds where
  width : Nat
  low : Int
  high : Int

namespace DateField

def bounds : DateField → Bounds
  | .year | .weekYear => ⟨4, -2147483648, 2147483647⟩
  | .century | .yearOfCentury | .weekYearOfCentury => ⟨2, 0, 99⟩
  | .quarter => ⟨1, 1, 4⟩
  | .month => ⟨2, 1, 12⟩
  | .day => ⟨2, 1, 31⟩
  | .sundayWeek | .mondayWeek => ⟨2, 0, 53⟩
  | .isoWeek => ⟨2, 1, 53⟩
  | .weekdayFromSunday => ⟨1, 0, 6⟩
  | .weekdayFromMonday => ⟨1, 1, 7⟩
  | .ordinal => ⟨3, 1, 366⟩
  | .hour => ⟨2, 0, 23⟩
  | .hourOfHalf => ⟨2, 1, 12⟩
  | .minute => ⟨2, 0, 59⟩
  | .second => ⟨2, 0, 60⟩
  | .nanosecond => ⟨9, 0, 999999999⟩
  -- Numbers beyond 64 bits are too large, however many digits there are.
  | .timestamp => ⟨18446744073709551615, 0, 9223372036854775807⟩

def signed : DateField → Bool
  | .year | .weekYear => true
  | _ => false

/-- What a number says. An hour of the day says two things, and twelve hours stand for none. -/
def tells (n : Int) : DateField → List (Slot × Int)
  | .year => [(.year, n)]
  | .century => [(.century, n)]
  | .yearOfCentury => [(.yearOfCentury, n)]
  | .weekYear => [(.weekYear, n)]
  | .weekYearOfCentury => [(.weekYearOfCentury, n)]
  | .quarter => [(.quarter, n)]
  | .month => [(.month, n)]
  | .day => [(.day, n)]
  | .sundayWeek => [(.sundayWeek, n)]
  | .mondayWeek => [(.mondayWeek, n)]
  | .isoWeek => [(.isoWeek, n)]
  | .weekdayFromSunday => [(.weekday, (n + 6) % 7)]
  | .weekdayFromMonday => [(.weekday, n - 1)]
  | .ordinal => [(.ordinal, n)]
  | .hour => [(.half, n / 12), (.hourOfHalf, n % 12)]
  | .hourOfHalf => [(.hourOfHalf, n % 12)]
  | .minute => [(.minute, n)]
  | .second => [(.second, n)]
  | .nanosecond => [(.nanosecond, n)]
  | .timestamp => [(.timestamp, n)]

end DateField

/-- Notes what is said. What was said before must be the same. -/
def note? (readings : Readings) (slot : Slot) (n : Int) : Option Readings :=
  match readings.lookup slot with
  | some known => if known = n then some readings else none
  | none => some ((slot, n) :: readings)

def noteNumber? (readings : Readings) (field : DateField) (n : Int) : Option Readings :=
  if n < field.bounds.low ∨ field.bounds.high < n then none
  else (field.tells n).foldlM (fun readings said => note? readings said.1 said.2) readings

/-- As many digits as there are, up to `most`, and at least one. -/
def scanDigits? (most : Nat) (cs : List Char) : Option (Nat × List Char) :=
  let ds := (cs.take most).takeWhile Char.isDigit
  (natural? ds).map (·, cs.drop ds.length)

def scanNumber? (field : DateField) (cs : List Char) : Option (Int × List Char) :=
  match field.signed, trimStart cs with
  | true, '-' :: rest => (scanDigits? rest.length rest).map fun (n, rest) => (-(n : Int), rest)
  | true, '+' :: rest => (scanDigits? rest.length rest).map fun (n, rest) => (n, rest)
  | _, cs => (scanDigits? field.bounds.width cs).map fun (n, rest) => (n, rest)

def startsWithName (name cs : List Char) : Bool :=
  (name.map Char.toLower).isPrefixOf (cs.map Char.toLower)

/-- The place of the name that comes first. Three letters stand for a name; where full names are read, the
rest of the name is taken as well if it is there. -/
def scanName? (names : List (List Char)) (full : Bool) (cs : List Char) : Option (Nat × List Char) :=
  names.zipIdx.findSome? fun (name, place) =>
    if full && startsWithName name cs then some (place, cs.drop name.length)
    else if startsWithName (name.take 3) cs then some (place, cs.drop 3)
    else none

/-- The nanoseconds of a fraction. Behind a dot there may be any number of digits, and without the dot
there is no fraction. -/
def scanFraction? : FractionForm → List Char → Option (Option Nat × List Char)
  | .bare digits, cs =>
    if cs.length < digits then none
    else (natural? (cs.take digits)).map fun n => (some (n * Nat.pow 10 (9 - digits)), cs.drop digits)
  | _, '.' :: cs =>
    let ds := cs.takeWhile Char.isDigit
    (natural? (ds.take 9)).map fun n => (some (n * Nat.pow 10 (9 - ds.length)), cs.drop ds.length)
  | _, cs => some (none, cs)

def scanZone? (form : OffsetForm) (cs : List Char) : Option (Int × List Char) :=
  match form with
  | .plain => scanOffset? false cs
  | .lenient => scanZulu? true cs
  | .universal =>
    if startsWithName ['U', 'T', 'C'] cs then some (0, cs.drop 3) else scanZulu? false cs

def readItem (readings : Readings) (cs : List Char) : Item → Option (Readings × List Char)
  | .literal text => if text.isPrefixOf cs then some (readings, cs.drop text.length) else none
  | .space _ => some (readings, trimStart cs)
  | .number field _ => do
    let (n, rest) ← scanNumber? field cs
    return (← noteNumber? readings field n, rest)
  | .monthName full => do
    let (place, rest) ← scanName? monthNames full cs
    return (← note? readings .month (place + 1 : Nat), rest)
  | .weekdayName full => do
    let (place, rest) ← scanName? weekdayNames full cs
    return (← note? readings .weekday place, rest)
  | .half _ =>
    if startsWithName ['A', 'M'] cs then (note? readings .half 0).map (·, cs.drop 2)
    else if startsWithName ['P', 'M'] cs then (note? readings .half 1).map (·, cs.drop 2)
    else none
  | .fraction form => do
    match ← scanFraction? form cs with
    | (some n, rest) => return (← note? readings .nanosecond n, rest)
    | (none, rest) => return (readings, rest)
  | .mark =>
    match cs with
    | 'T' :: rest | 't' :: rest | ' ' :: rest => some (readings, rest)
    | _ => none
  | .zoneName => some (readings, cs.dropWhile (!isSpace ·))
  | .offset form => do
    let (n, rest) ← scanZone? form (trimStart cs)
    return (← note? readings .offset n, rest)

def readItems : List Item → Readings → List Char → Option Readings
  | [], readings, cs => if cs.isEmpty then some readings else none
  | item :: items, readings, cs =>
    match readItem readings cs item with
    | some (readings, rest) => readItems items readings rest
    | none => none

/-- A year, if anything is known of it. Two digits alone mean a year from 1970 to 2069, and a century
alone is not enough. Next to a full year both must agree with it. -/
def resolveYear? (full century short : Option Int) : Option (Option Int) :=
  match full, century, short with
  | full, none, none => some full
  | some year, _, _ =>
    if 0 ≤ year ∧ century.all (· = year / 100) ∧ short.all (· = year % 100) then some (some year) else none
  | none, some century, some short => some (some (century * 100 + short))
  | none, none, some short => some (some (if short < 70 then 2000 + short else 1900 + short))
  | none, some _, none => none

/-- Whether a day is what was said; times of day say nothing about it. -/
def Slot.agrees (d : Date) (n : Int) : Slot → Bool
  | .year => n = d.year
  | .century => 0 ≤ d.year ∧ n = d.year / 100
  | .yearOfCentury => 0 ≤ d.year ∧ n = d.year % 100
  | .weekYear => n = d.weekYear
  | .weekYearOfCentury => 0 ≤ d.weekYear ∧ n = d.weekYear % 100
  | .quarter => n = ((d.month + 2) / 3 : Nat)
  | .month => n = d.month
  | .day => n = d.day
  | .sundayWeek => n = d.weekOf 6
  | .mondayWeek => n = d.weekOf 0
  | .isoWeek => n = d.isoWeek
  | .weekday => n = d.weekday
  | .ordinal => n = d.ordinal
  | .half | .hourOfHalf | .minute | .second | .nanosecond | .timestamp | .offset => true

namespace Readings

/-- The day that the readings name, by month and day, or else by its place in the year, or else by a week
and the day in it. What is enough for a day is not passed over, even if there is no such day. -/
def named? (r : Readings) (year weekYear : Option Int) : Option Date :=
  let said := fun slot => (r.lookup slot).map Int.toNat
  Option.join (
    (do return Date.ofYmd? (← year) (← said .month) (← said .day)) <|>
    (do return Date.ofOrdinal? (← year) (← said .ordinal)) <|>
    (do return Date.ofWeek? 6 (← year) (← said .sundayWeek) (← said .weekday)) <|>
    (do return Date.ofWeek? 0 (← year) (← said .mondayWeek) (← said .weekday)) <|>
    (do return Date.ofIsoWeek? (← weekYear) (← said .isoWeek) (← said .weekday)))

def date? (r : Readings) : Option Date := do
  let year ← resolveYear? (r.lookup .year) (r.lookup .century) (r.lookup .yearOfCentury)
  let weekYear ← resolveYear? (r.lookup .weekYear) none (r.lookup .weekYearOfCentury)
  (r.named? year weekYear).filter fun d => r.all fun (slot, n) => slot.agrees d n

end Readings

def Pattern.read? (p : Pattern) (cs : List Char) : Option Date :=
  (readItems p.items [] cs).bind Readings.date?

end Listing.Calendar
