import Listing.Calendar.Reader
import Listing.Condition.Group
import Listing.Fragment.Basic

/-!
# Date windows

Records hold a first and a last day. A window selects the records whose days overlap it: those that
reach into it from before, those that reach out of it, and those that start or end inside.
-/

namespace Listing

open Calendar in
/-- The patterns of stored dates and of the date that names a month. -/
structure DateFormats where
  storage : Pattern
  month : Pattern

namespace DateFormats

def pattern? (source : String) : Except FragmentError Calendar.Pattern :=
  match Calendar.Pattern.ofString? source with
  | some pattern => .ok pattern
  | none => .error (.invalidDateFormat source)

def make (storage month : String) : Except FragmentError DateFormats := do
  return ⟨← pattern? storage, ← pattern? month⟩

def render (formats : DateFormats) (m : Calendar.Moment) : Except FragmentError Scalar :=
  match formats.storage.write? m with
  | some text => .ok (.text text)
  | none => .error (.invalidDateFormat formats.storage.source)

end DateFormats

namespace Fragment
open Calendar

/-- The field of a date fragment, whether or not its dates can be read. -/
def dateField (raw : String) : String :=
  String.ofList <| Text.trim <| match Text.cut? dashes raw.toList with
    | some (field, _) => field
    | none => raw.toList

/-- The tests of an overlap with the window from `first` to `last`. -/
def overlapOf (field : String) (first last : Scalar) : Group :=
  let start := field ++ ".0.value"
  let finish := field ++ ".0.end_value"
  ⟨.or, [
    .group .and [.test start (.compare first .le), .test finish (.compare first .gt)],
    .group .and [.test start (.compare last .lt), .test finish (.compare last .ge)],
    .test start (.between first last),
    .test finish (.between first last)]⟩

/-- The overlap with whole days, from the first minute of the first to the last minute of the last. -/
def overlap (formats : DateFormats) (field : String) (first last : Date) :
    Except FragmentError Group := do
  return overlapOf field (← formats.render first.opening) (← formats.render last.closing)

/-- `field--START,END`, in the storage pattern. -/
def date (formats : DateFormats) (raw : String) : Except FragmentError Group :=
  let cs := Text.trim raw.toList
  let invalid := FragmentError.invalidDate .date (String.ofList cs)
  match Text.cut? dashes cs with
  | none => .error invalid
  | some (field, window) =>
    match Text.cut? [','] window with
    | none => .error invalid
    | some (first, last) =>
      if field.isEmpty then .error invalid
      else match formats.storage.read? (Text.trim first), formats.storage.read? (Text.trim last) with
        | some first, some last => overlap formats (String.ofList field) first last
        | _, _ => .error invalid

/-- `field--DAY`, in the month pattern: the whole month of that day. -/
def month (formats : DateFormats) (raw : String) : Except FragmentError Group :=
  let cs := Text.trim raw.toList
  let invalid := FragmentError.invalidDate .byMonth (String.ofList cs)
  match Text.cut? dashes cs with
  | none => .error invalid
  | some (field, day) =>
    if field.isEmpty then .error invalid
    else match formats.month.read? (Text.trim day) with
      | none => .error invalid
      | some day =>
        match day.lastOfMonth? with
        | none => .error invalid
        | some last => overlap formats (String.ofList field) day.firstOfMonth last

/-- The window from a day to the same day some months later. -/
def fallback (formats : DateFormats) (field : String) (today : Date) (months : Nat) :
    Except FragmentError Group :=
  match today.addMonths? months with
  | some last => overlap formats field today last
  | none => .error (.invalidDate .date field)

end Fragment
end Listing
