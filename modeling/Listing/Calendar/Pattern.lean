import Listing.Text.Blank

/-!
# Date patterns

A pattern is literal text with fields behind percent signs. White space in it stands for any white
space when a date is read, and for itself when one is written.
-/

namespace Listing.Calendar

/-- The numbers that a pattern can show. -/
inductive DateField where
  | year
  | century
  | yearOfCentury
  | weekYear
  | weekYearOfCentury
  | quarter
  | month
  | day
  | sundayWeek
  | mondayWeek
  | isoWeek
  | weekdayFromSunday
  | weekdayFromMonday
  | ordinal
  | hour
  | hourOfHalf
  | minute
  | second
  | nanosecond
  | timestamp
  deriving DecidableEq

inductive Pad where
  | zero
  | blank
  | bare
  deriving DecidableEq

/-- How a fraction of a second is written: behind a dot if there is one at all, or in so many digits, with
a dot in front or without. -/
inductive FractionForm where
  | shortest
  | dotted (digits : Nat)
  | bare (digits : Nat)
  deriving DecidableEq

/-- What may stand for an offset: hours and minutes, also the letter Z or hours alone, or also the letter
or the name of universal time. -/
inductive OffsetForm where
  | plain
  | lenient
  | universal
  deriving DecidableEq

inductive Item where
  | literal (cs : List Char)
  | space (cs : List Char)
  | number (field : DateField) (pad : Pad)
  | monthName (full : Bool)
  | weekdayName (full : Bool)
  /-- The half of the day. -/
  | half (capital : Bool)
  | fraction (form : FractionForm)
  /-- The mark between a date and a time of day. -/
  | mark
  | zoneName
  | offset (form : OffsetForm)
  deriving DecidableEq

namespace Item

def clock : List Item :=
  [number .hour .zero, literal [':'], number .minute .zero, literal [':'], number .second .zero]

def ofLetter? (c : Char) : Option (List Item) :=
  match c with
  | 'Y' => some [number .year .zero]
  | 'C' => some [number .century .zero]
  | 'y' => some [number .yearOfCentury .zero]
  | 'G' => some [number .weekYear .zero]
  | 'g' => some [number .weekYearOfCentury .zero]
  | 'q' => some [number .quarter .bare]
  | 'm' => some [number .month .zero]
  | 'd' => some [number .day .zero]
  | 'e' => some [number .day .blank]
  | 'U' => some [number .sundayWeek .zero]
  | 'W' => some [number .mondayWeek .zero]
  | 'V' => some [number .isoWeek .zero]
  | 'w' => some [number .weekdayFromSunday .bare]
  | 'u' => some [number .weekdayFromMonday .bare]
  | 'j' => some [number .ordinal .zero]
  | 'H' => some [number .hour .zero]
  | 'k' => some [number .hour .blank]
  | 'I' => some [number .hourOfHalf .zero]
  | 'l' => some [number .hourOfHalf .blank]
  | 'M' => some [number .minute .zero]
  | 'S' => some [number .second .zero]
  | 'f' => some [number .nanosecond .zero]
  | 's' => some [number .timestamp .bare]
  | 'b' | 'h' => some [monthName false]
  | 'B' => some [monthName true]
  | 'a' => some [weekdayName false]
  | 'A' => some [weekdayName true]
  | 'p' => some [half true]
  | 'P' => some [half false]
  | 'Z' => some [zoneName]
  | 'z' => some [offset .plain]
  | '%' => some [literal ['%']]
  | 'n' => some [space ['\n']]
  | 't' => some [space ['\t']]
  | 'F' => some [number .year .zero, literal ['-'], number .month .zero, literal ['-'],
      number .day .zero]
  | 'D' | 'x' => some [number .month .zero, literal ['/'], number .day .zero, literal ['/'],
      number .yearOfCentury .zero]
  | 'v' => some [number .day .blank, literal ['-'], monthName false, literal ['-'], number .year .zero]
  | 'T' | 'X' => some clock
  | 'R' => some [number .hour .zero, literal [':'], number .minute .zero]
  | 'r' => some [number .hourOfHalf .zero, literal [':'], number .minute .zero, literal [':'],
      number .second .zero, space [' '], half true]
  | 'c' => some ([weekdayName false, space [' '], monthName false, space [' '], number .day .blank,
      space [' ']] ++ clock ++ [space [' '], number .year .zero])
  | '+' => some [number .year .zero, space [], literal ['-'], number .month .zero, space [], literal ['-'],
      number .day .zero, mark, number .hour .zero, space [], literal [':'], number .minute .zero, space [],
      literal [':'], number .second .zero, fraction .shortest, offset .universal]
  | _ => none

/-- The fields of more than one letter. -/
def longForms : List (List Char × Item) := [
  (['#', 'z'], offset .lenient),
  ([':', 'z'], offset .plain),
  ([':', ':', 'z'], offset .plain),
  ([':', ':', ':', 'z'], offset .plain),
  (['.', 'f'], fraction .shortest),
  (['.', '3', 'f'], fraction (.dotted 3)),
  (['.', '6', 'f'], fraction (.dotted 6)),
  (['.', '9', 'f'], fraction (.dotted 9)),
  (['3', 'f'], fraction (.bare 3)),
  (['6', 'f'], fraction (.bare 6)),
  (['9', 'f'], fraction (.bare 9))]

def padOf? (c : Char) : Option Pad :=
  match c with
  | '-' => some .bare
  | '0' => some .zero
  | '_' => some .blank
  | _ => none

/-- A single number with its padding replaced; nothing else can be padded. -/
def padded? (pad : Pad) : List Item → Option (List Item)
  | [number field _] => some [number field pad]
  | _ => none

/-- The items of the field behind a percent sign, and the number of characters that it takes. -/
def field? : List Char → Option (List Item × Nat)
  | [] => none
  | flag :: cs =>
    match padOf? flag with
    | some pad => ((cs.head?.bind ofLetter?).bind (padded? pad)).map (·, 2)
    | none =>
      match longForms.find? fun form => form.1.isPrefixOf (flag :: cs) with
      | some (name, item) => some ([item], name.length)
      | none => (ofLetter? flag).map (·, 1)

def prepend (c : Char) : List Item → List Item
  | literal cs :: items =>
    if Text.isSpace c then space [c] :: literal cs :: items else literal (c :: cs) :: items
  | space cs :: items =>
    if Text.isSpace c then space (c :: cs) :: items else literal [c] :: space cs :: items
  | items => (if Text.isSpace c then space [c] else literal [c]) :: items

end Item

/-- The items of a pattern behind so many characters, none if a percent sign has no field behind it. -/
def itemsBehind? : Nat → List Char → Option (List Item)
  | _, [] => some []
  | n + 1, _ :: cs => itemsBehind? n cs
  | 0, c :: cs =>
    if c = '%' then
      match Item.field? cs with
      | some (found, width) => (itemsBehind? width cs).map (found ++ ·)
      | none => none
    else (itemsBehind? 0 cs).map (Item.prepend c)

/-- A pattern together with the text that it was made from. -/
structure Pattern where
  source : String
  items : List Item

def Pattern.ofString? (s : String) : Option Pattern := (itemsBehind? 0 s.toList).map (⟨s, ·⟩)

end Listing.Calendar
