import Listing.Sorting.Runs

/-!
# Stable sorting

Items that tie stay as they came. Under a comparison that is no order the sort may give up, or leave the
items in some order of its own.
-/

namespace Listing.Sorting
variable {α : Type} (less : α → α → Bool)

/-- The place among three whose item is the middle one. -/
def middle (precedes : Nat → Nat → Bool) (a b c : Nat) : Nat :=
  if precedes a b = precedes a c then if precedes b c = precedes a b then b else c else a

/-- The middle one of three places, each of which stands for those behind it if there are many. -/
def middleOf (precedes : Nat → Nat → Bool) (width a b c : Nat) : Nat :=
  if width < 8 then middle precedes a b c
  else
    let part := width / 8
    let within := fun start => middleOf precedes part start (start + part * 4) (start + part * 7)
    middle precedes (within a) (within b) (within c)
termination_by width

def pivotPlace (items : List α) : Nat :=
  let precedes := fun i j =>
    match items[i]?, items[j]? with
    | some a, some b => less a b
    | _, _ => false
  let part := items.length / 8
  middleOf precedes part 0 (part * 4) (part * 7)

/-- Parts the items around a pivot, which is not compared with itself, and sorts both parts. Where nothing
precedes the pivot, the items that tie with it are put aside. -/
def sortParts? (sort? : Option α → List α → Option (List α)) (ancestor : Option α) (before : List α)
    (pivot : α) (after : List α) : Option (List α) :=
  let lower := (before ++ after).filter (less · pivot)
  if ancestor.any (!less · pivot) || lower.isEmpty then do
    let level := before.filter (!less pivot ·) ++ pivot :: after.filter (!less pivot ·)
    let upper ← sort? none ((before ++ after).filter (less pivot ·))
    return level ++ upper
  else do
    let upper ← sort? (some pivot)
      (before.filter (!less · pivot) ++ pivot :: after.filter (!less · pivot))
    let lower ← sort? ancestor lower
    return lower ++ upper

/-- Sorts by parting a list around pivots, at most `limit` times in a row. No item precedes the
`ancestor`, the pivot above this part of the list. -/
def quick? : Nat → Option α → List α → Option (List α)
  | limit, ancestor, items =>
    if items.length ≤ 32 then sortSmall? less items
    else match limit with
      -- An eager sort leaves no run for later.
      | 0 => sortRuns? less (sortSmall? less) 0 true items
      | limit + 1 =>
        match items.splitAt (pivotPlace less items) with
        | (before, pivot :: after) => sortParts? less (quick? limit) ancestor before pivot after
        | (_, []) => none

/-- The items in order, or none if the comparison is seen to be no order. -/
def stable? (items : List α) : Option (List α) :=
  let length := items.length
  if length ≤ 20 then some (insertAll less [] items)
  else
    let quick? := fun run => quick? less (2 * run.length.log2) none run
    sortRuns? less quick? (max (length - length / 2) (min length 500000)) (length ≤ 64) items

end Listing.Sorting
