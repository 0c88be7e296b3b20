import Listing.Calendar.Date
import Listing.Text.Digits

/-!
# TOML dates and times

A date, a time of day, or both with an offset from universal time or without. Seconds may be left out.
Each reader returns the normal form of what it reads with the rest of the text.
-/

namespace Listing.Toml.DateTime
open Text

def digits? (width : Nat) (cs : List Char) : Option (Nat × List Char) :=
  let ds := cs.take width
  if ds.length = width then (natural? ds).map (·, cs.drop width) else none

def after? (c : Char) : List Char → Option (List Char)
  | d :: cs => if d = c then some cs else none
  | [] => none

def day? (cs : List Char) : Option (List Char × List Char) := do
  let (year, rest) ← digits? 4 cs
  let (month, rest) ← digits? 2 (← after? '-' rest)
  let (day, rest) ← digits? 2 (← after? '-' rest)
  if (Calendar.Date.ofYmd? year month day).isNone then none
  return (cs.take 10, rest)

def clock? (cs : List Char) : Option (List Char × List Char) := do
  let (hour, rest) ← digits? 2 cs
  let (minute, rest) ← digits? 2 (← after? ':' rest)
  if 24 ≤ hour ∨ 60 ≤ minute then none
  return (cs.take 5, rest)

/-- A fraction of a second to nine places, without zeros at its end but for a first one. -/
def fraction (ds : List Char) : List Char :=
  let kept := ((ds.take 9).reverse.dropWhile (· = '0')).reverse
  if kept.isEmpty then ['0'] else kept

/-- A time of day; a second may be the leap second. -/
def time? (cs : List Char) : Option (List Char × List Char) := do
  let (clock, rest) ← clock? cs
  match rest with
  | ':' :: more =>
    let (second, rest) ← digits? 2 more
    if 60 < second then none
    let upToSecond := clock ++ ':' :: more.take 2
    match rest with
    | '.' :: rest =>
      let ds := rest.takeWhile Char.isDigit
      if ds.isEmpty then none
      return (upToSecond ++ '.' :: fraction ds, rest.drop ds.length)
    | rest => return (upToSecond, rest)
  | rest => return (clock, rest)

/-- An offset. The zero offset takes a plus sign. -/
def zone? : List Char → Option (List Char × List Char)
  | 'Z' :: cs | 'z' :: cs => some (['Z'], cs)
  | '+' :: cs => (clock? cs).map fun (clock, rest) => ('+' :: clock, rest)
  | '-' :: cs => (clock? cs).map fun (clock, rest) =>
    ((if clock = "00:00".toList then '+' else '-') :: clock, rest)
  | _ => none

def all? (read : List Char × List Char) : Option (List Char) :=
  if read.2.isEmpty then some read.1 else none

/-- A date, with a time and an offset behind it if need be. -/
def dated? (cs : List Char) : Option (List Char) := do
  let (day, rest) ← day? cs
  match rest with
  | [] => return day
  | c :: rest =>
    if c ≠ 'T' ∧ c ≠ 't' ∧ c ≠ ' ' then none
    let (time, rest) ← time? rest
    if rest.isEmpty then return day ++ 'T' :: time
    return day ++ 'T' :: time ++ (← zone? rest >>= all?)

def normal? (cs : List Char) : Option (List Char) :=
  match dated? cs with
  | some text => some text
  | none => time? cs >>= all?

end Listing.Toml.DateTime
