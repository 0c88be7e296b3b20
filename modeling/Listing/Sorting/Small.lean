/-!
# Sorting short lists

A comparison says of two items whether the first one must stand before the second. A short list is
sorted by insertion, or in halves that are merged from both ends at once. Under a comparison that is an
order the ends meet; where they run past each other the sort gives up.
-/

namespace Listing.Sorting
variable {α : Type} (less : α → α → Bool)

/-- Puts an item behind all those before it that it does not precede; the list has its last item first. -/
def insertBehind (item : α) : List α → List α
  | [] => [item]
  | last :: rest =>
    if less item last then last :: insertBehind item rest else item :: last :: rest

def insertAll (done items : List α) : List α :=
  (items.foldl (fun done item => insertBehind less item done) done.reverse).reverse

def sortTwo (a b : α) : α × α := if less b a then (b, a) else (a, b)

/-- Two pairs merged by three comparisons. -/
def mergeTwos : α × α → α × α → List α
  | (low, high), (low', high') =>
    let below := less low' low
    let above := less high' high
    let left := if below then low else if above then low' else high
    let right := if above then high' else if below then high else low'
    let inner := if less right left then [right, left] else [left, right]
    (if below then low' else low) :: inner ++ [if above then high else high']

def sortFour (a b c d : α) : List α := mergeTwos less (sortTwo less a b) (sortTwo less c d)

/-- A merge that was broken off: what it has put together, and what it leaves of both sides. -/
structure Partial (α : Type) where
  merged : List α
  left : List α
  right : List α

/-- Merges two sides as far as `n` items. The left one goes first unless the right one precedes it. -/
def mergeFirst : Nat → List α → List α → Partial α
  | n + 1, a :: left, b :: right =>
    if less b a then
      let rest := mergeFirst n (a :: left) right
      { rest with merged := b :: rest.merged }
    else
      let rest := mergeFirst n left (b :: right)
      { rest with merged := a :: rest.merged }
  | _, left, right => ⟨[], left, right⟩

/-- Merges two sides from both ends at once, with as many steps at each end as the left side has items.
None if an item is taken at both ends. -/
def mergeEnds? (left right : List α) : Option (List α) :=
  let front := mergeFirst less left.length left right
  let back := mergeFirst (flip less) left.length right.reverse left.reverse
  if left.length ≤ front.left.length + back.right.length ∧
      right.length ≤ front.right.length + back.left.length then
    -- One item at most is left between the ends.
    let middle := front.left.take (front.left.length + back.right.length - left.length) ++
      front.right.take (front.right.length + back.left.length - right.length)
    some (front.merged ++ middle ++ back.merged.reverse)
  else none

/-- Sorts one half of a list of some length; the longer the list, the more items are sorted by networks. -/
def sortHalf? (length : Nat) : List α → Option (List α)
  | a :: b :: c :: d :: rest =>
    if length < 8 then some (insertAll less [] (a :: b :: c :: d :: rest))
    else match decide (16 ≤ length), rest with
      | true, e :: f :: g :: h :: rest =>
        (mergeEnds? less (sortFour less a b c d) (sortFour less e f g h)).map (insertAll less · rest)
      | _, rest => some (insertAll less (sortFour less a b c d) rest)
  | items => some (insertAll less [] items)

def sortSmall? (items : List α) : Option (List α) := do
  let half := items.length / 2
  let left ← sortHalf? less items.length (items.take half)
  let right ← sortHalf? less items.length (items.drop half)
  mergeEnds? less left right

end Listing.Sorting
