/-!
# Calendar dates

Days of the proleptic Gregorian calendar, within the years that can be told apart.
-/

namespace Listing.Calendar

def isLeap (year : Int) : Bool := year % 4 == 0 && (year % 100 != 0 || year % 400 == 0)

def daysIn (year : Int) (month : Nat) : Nat :=
  if month = 2 then (if isLeap year then 29 else 28)
  else if month = 4 ∨ month = 6 ∨ month = 9 ∨ month = 11 then 30
  else 31

def minYear : Int := -262143

def maxYear : Int := 262142

abbrev IsDate (year : Int) (month day : Nat) : Prop :=
  (minYear ≤ year ∧ year ≤ maxYear) ∧ (1 ≤ month ∧ month ≤ 12) ∧ 1 ≤ day ∧ day ≤ daysIn year month

structure Date where
  year : Int
  month : Nat
  day : Nat
  valid : IsDate year month day
  deriving DecidableEq

theorem daysIn_pos (year : Int) (month : Nat) : 28 ≤ daysIn year month := by
  unfold daysIn
  split
  · split <;> omega
  · split <;> omega

namespace Date

def ofYmd? (year : Int) (month day : Nat) : Option Date :=
  if h : IsDate year month day then some ⟨year, month, day, h⟩ else none

/-- The days of a year before the first of a month. -/
def daysBefore (year : Int) (month : Nat) : Nat :=
  (List.range (month - 1)).foldl (fun days m => days + daysIn year (m + 1)) 0

/-- The place of a day in its year, from one. -/
def ordinal (d : Date) : Nat := daysBefore d.year d.month + d.day

/-- The day at a place in its year, looked for month by month. -/
def ofOrdinal? (year : Int) (ordinal : Nat) : Option Date :=
  (List.range 12).findSome? fun m =>
    if daysBefore year (m + 1) < ordinal then
      ofYmd? year (m + 1) (ordinal - daysBefore year (m + 1))
    else none

def epoch : Date := ⟨1970, 1, 1, by decide⟩

/-- The days from the epoch to the first of January of a year. -/
def daysToYear (year : Int) : Int :=
  let before := year - 1
  before * 365 + before / 4 - before / 100 + before / 400 - 719162

/-- The day so many days after the epoch. Four centuries have 146097 days, and the year that this
rate gives is off by one at most. -/
def ofEpochDay? (days : Int) : Option Date :=
  (List.range 3).findSome? fun (n : Nat) =>
    let year := 1969 + days * 400 / 146097 + n
    ofOrdinal? year (days - daysToYear year + 1).toNat

def firstOfMonth (d : Date) : Date where
  year := d.year
  month := d.month
  day := 1
  valid := ⟨d.valid.1, d.valid.2.1, Nat.le_refl 1,
    Nat.le_trans (by decide) (daysIn_pos d.year d.month)⟩

/-- The day before the first of the next month. The last month of all has none. -/
def lastOfMonth? (d : Date) : Option Date :=
  if d.month = 12 ∧ d.year = maxYear then none
  else some {
    year := d.year
    month := d.month
    day := daysIn d.year d.month
    valid := ⟨d.valid.1, d.valid.2.1, Nat.le_trans (by decide) (daysIn_pos d.year d.month),
      Nat.le_refl _⟩ }

/-- The same day `n` months later, or the last day of that month if it is shorter. -/
def addMonths? (d : Date) (n : Nat) : Option Date :=
  let months := d.year * 12 + (d.month - 1 : Nat) + n
  let year := months / 12
  let month := (months % 12).toNat + 1
  ofYmd? year month (min d.day (daysIn year month))

def le (a b : Date) : Prop :=
  a.year < b.year ∨
    (a.year = b.year ∧ (a.month < b.month ∨ (a.month = b.month ∧ a.day ≤ b.day)))

instance : LE Date := ⟨le⟩

instance (a b : Date) : Decidable (a ≤ b) := by
  change Decidable (le a b)
  unfold le
  infer_instance

end Date

structure Moment where
  date : Date
  hour : Nat
  minute : Nat
  second : Nat

namespace Date

/-- The first minute past midnight. -/
def opening (d : Date) : Moment := ⟨d, 0, 1, 0⟩

def closing (d : Date) : Moment := ⟨d, 23, 59, 0⟩

end Date
end Listing.Calendar
