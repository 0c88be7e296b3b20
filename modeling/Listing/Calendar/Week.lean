import Listing.Calendar.Date

/-!
# Weeks

Days of the week are counted from Monday as zero. The weeks of a year start on one day of the week, and
what stands before the first of them is week zero. In the other count of weeks, that of ISO 8601, each
week starts on a Monday and belongs to the year that has its Thursday.
-/

namespace Listing.Calendar

/-- The day of the week on which a year starts. The epoch is a Thursday. -/
def firstWeekday (year : Int) : Nat := ((Date.daysToYear year + 3) % 7).toNat

/-- The days from a day of the week to the next time it is another one. -/
def daysUntil (weekday other : Nat) : Nat := (7 + other - weekday) % 7

/-- The number of weeks that belong to a year. -/
def weeksIn (year : Int) : Nat :=
  if firstWeekday year = 3 ∨ (firstWeekday year = 2 ∧ isLeap year) then 53 else 52

namespace Date

def weekday (d : Date) : Nat := (firstWeekday d.year + d.ordinal - 1) % 7

/-- The week of the year, in weeks that start on a day of the week. -/
def weekOf (d : Date) (start : Nat) : Nat := (d.ordinal + 6 - daysUntil start d.weekday) / 7

def ofWeek? (start : Nat) (year : Int) (week weekday : Nat) : Option Date :=
  let place := 1 + daysUntil (firstWeekday year) start + week * 7 + daysUntil start weekday
  if place ≤ 7 then none else ofOrdinal? year (place - 7)

/-- The year that the week of a day belongs to. -/
def weekYear (d : Date) : Int :=
  let week := (d.ordinal + 9 - d.weekday) / 7
  if week = 0 then d.year - 1 else if weeksIn d.year < week then d.year + 1 else d.year

/-- The week in that year. -/
def isoWeek (d : Date) : Nat :=
  let week := (d.ordinal + 9 - d.weekday) / 7
  if week = 0 then weeksIn (d.year - 1) else if weeksIn d.year < week then 1 else week

def ofIsoWeek? (year : Int) (week weekday : Nat) : Option Date :=
  if week = 0 ∨ weeksIn year < week then none
  else
    -- The fourth of January is always in the first week.
    let monday := daysToYear year + 3 - (firstWeekday year + 3) % 7
    ofEpochDay? (monday + (week - 1) * 7 + weekday)

end Date
end Listing.Calendar
