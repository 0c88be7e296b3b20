import Listing.Sorting.Small

/-!
# Sorting by runs

A list is cut into runs, stretches that are in order already or are left to be sorted later. Runs are
merged by a tree that keeps merges balanced: each border between two runs has a depth in it, and deeper
merges come first.
-/

namespace Listing.Sorting
variable {α : Type} (less : α → α → Bool)

structure Run (α : Type) where
  items : List α
  sorted : Bool

/-- Merges two sorted sides, from the end at which the shorter one runs out first. -/
def merge (left right : List α) : List α :=
  if left.length ≤ right.length then left.merge right fun a b => !less b a
  else (right.reverse.merge left.reverse fun b a => !less b a).reverse

/-- The items that follow each other behind `last`, and the rest. -/
def chain (follows : α → α → Bool) (last : α) : List α → List α × List α
  | next :: rest =>
    if follows last next then (next :: (chain follows next rest).1, (chain follows next rest).2)
    else ([], next :: rest)
  | [] => ([], [])

/-- The run with which a list starts, and the rest. A strictly descending run is turned round. -/
def firstRun : List α → List α × List α
  | [] => ([], [])
  | a :: rest =>
    if rest.head?.any (less · a) then
      let down := chain (fun last next => less next last) a rest
      ((a :: down.1).reverse, down.2)
    else
      let up := chain (fun last next => !less next last) a rest
      (a :: up.1, up.2)

/-- The next run, and what is left behind it. Instead of a run that is too short an eager sort sorts a
few items at once, and any other sort leaves as many as make a run for later. -/
def nextRun? (eager : Bool) (least : Nat) (items : List α) : Option (Run α × List α) :=
  let natural := firstRun less items
  if least ≤ natural.1.length then some (⟨natural.1, true⟩, natural.2)
  else if eager then
    (sortSmall? less (items.take 32)).map fun run => (⟨run, true⟩, items.drop 32)
  else some (⟨items.take least, false⟩, items.drop least)

/-- All runs of a list of at most `n` items. -/
def runs? (eager : Bool) (least : Nat) : Nat → List α → Option (List (Run α))
  | _, [] => some []
  | 0, _ :: _ => none
  | n + 1, items => do
    let (run, rest) ← nextRun? less eager least items
    return run :: (← runs? eager least n rest)

/-- The number of items that make a run; in long lists about the square root of their length. -/
def leastRun (length : Nat) : Nat :=
  if length ≤ 4096 then min (length - length / 2) 64
  else
    let shift := (1 + length.log2) / 2
    (Nat.pow 2 shift + length / Nat.pow 2 shift) / 2

/-- The depth of the border in the middle of two runs: the number of leading digits that the places of
both runs in the list have in common, as binary fractions of 62 digits. -/
def borderDepth (length start middle stop : Nat) : Nat :=
  let scale := (Nat.pow 2 62 + length - 1) / length
  let apart := (scale * (start + middle)) ^^^ (scale * (middle + stop))
  if apart = 0 then 64 else 63 - apart.log2

section
variable (quick? : List α → Option (List α)) (room : Nat)

def Run.settle? (run : Run α) : Option (List α) :=
  if run.sorted then some run.items else quick? run.items

/-- Joins two runs. If both are to be sorted later they are sorted as one where there is room for it. -/
def join? (left right : Run α) : Option (Run α) :=
  if left.items.length + right.items.length ≤ room ∧ !left.sorted ∧ !right.sorted then
    some ⟨left.items ++ right.items, false⟩
  else do
    let left ← left.settle? quick?
    let right ← right.settle? quick?
    return ⟨merge less left right, true⟩

/-- Joins the last run with those before it whose borders are at least as deep as `depth`. -/
def joinDeeper? (depth : Nat) : Run α → List (Nat × Run α) → Option (Run α × List (Nat × Run α))
  | last, (border, run) :: stack =>
    if depth ≤ border then do
      joinDeeper? depth (← join? less quick? room run last) stack
    else some (last, (border, run) :: stack)
  | last, [] => some (last, [])

/-- Joins all runs, with those before the last one on a stack and those behind it still to come. -/
def joinAll? (length : Nat) : Nat → Run α → List (Nat × Run α) → List (Run α) → Option (Run α)
  | scanned, last, stack, next :: rest => do
    let stop := scanned + next.items.length
    let depth := borderDepth length (scanned - last.items.length) scanned stop
    let (joined, stack) ← joinDeeper? less quick? room depth last stack
    joinAll? length stop next ((depth, joined) :: stack) rest
  | _, last, stack, [] => do
    let (joined, _) ← joinDeeper? less quick? room 0 last stack
    return joined

/-- Sorts a list by its runs; `quick?` sorts those that were left for later. -/
def sortRuns? (eager : Bool) (items : List α) : Option (List α) := do
  match ← runs? less eager (leastRun items.length) items.length items with
  | [] => return []
  | first :: rest =>
    (← joinAll? less quick? room items.length first.items.length first [] rest).settle? quick?

end

end Listing.Sorting
