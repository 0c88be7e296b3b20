import Listing.Fragment.Basic
import Listing.Condition.Sort
import Listing.Paging.Spec

/-!
# Order and window

`field-DIRECTION` sorts, `start-length` picks a window and `page-perPage--mode` a page. Offsets and
pages past the range of a count are refused here, so that nothing after this has to.
-/

namespace Listing.Fragment

def nullWord : List Char := "null".toList

def sortKey (entry : List Char) : Except FragmentError SortKey :=
  match Text.cutLast? ['-'] entry with
  | none => .error (malformed .sort entry .sortShape)
  | some (field, direction) =>
    if field.isEmpty then .error (malformed .sort entry .noField)
    else match Direction.ofChars? direction with
      | none => .error (.invalidDirection (String.ofList entry))
      | some direction => .ok ⟨String.ofList field, direction⟩

/-- Sort keys, the first one the most significant. Entries with the word `null` are passed over. -/
def sortKeys (raw : String) : Except FragmentError (List SortKey) :=
  ((entries raw.toList).filter (!Text.occurs nullWord ·)).mapM sortKey

def countPair? (cs : List Char) : Option (Count × Count) :=
  match Text.cut? ['-'] cs with
  | some (a, b) =>
    match Text.count? a, Text.count? b with
    | some a, some b => some (a, b)
    | _, _ => none
  | none => none

def window (raw : String) : Except FragmentError Window := do
  let cs ← required .range raw
  match countPair? cs with
  | none => throw (malformed .range cs .rangeShape)
  | some (start, length) =>
    if length = 0 then throw (malformed .range cs .emptyRange)
    if (Count.add? start length).isNone then throw (.invalidNumber .range (String.ofList cs))
    return ⟨start, length⟩

/-- `default`, `simple`, or `restricted-N` for an odd `N` of 32 bits. -/
def pagerMode? (cs : List Char) : Option PagerMode :=
  let cs := Text.trim cs
  if cs = PagerMode.full.text then some .full
  else if cs = PagerMode.simple.text then some .simple
  else
    let stem := "restricted-".toList
    if stem.isPrefixOf cs then
      match Text.naturalBelow? UInt32.size (cs.drop stem.length) with
      | some size => if size % 2 = 1 then some (.restricted (UInt32.ofNat size)) else none
      | none => none
    else none

def pagerMode (cs : List Char) : Except FragmentError PagerMode :=
  match pagerMode? cs with
  | some mode => .ok mode
  | none => .error (.invalidPagerMode (String.ofList cs))

def pageSpec (raw : String) : Except FragmentError PageSpec := do
  let cs ← required .paged raw
  let (numbers, mode?) := match Text.cut? dashes cs with
    | some (numbers, mode) => (numbers, some mode)
    | none => (cs, none)
  match countPair? numbers with
  | none => throw (malformed .paged cs .pageShape)
  | some (page, perPage) =>
    if page = 0 ∨ perPage = 0 then throw (malformed .paged cs .zeroPage)
    if (Count.mul? page perPage).isNone then throw (.invalidNumber .paged (String.ofList numbers))
    match mode? with
    | none => return ⟨page, perPage, .full⟩
    | some mode => return ⟨page, perPage, ← pagerMode mode⟩

end Listing.Fragment
