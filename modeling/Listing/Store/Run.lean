import Listing.Sorting.Stable
import Listing.Store.Basic
import Listing.Store.Selection

/-!
# Running queries on a store

A store filters its records, puts them in order and cuts the window out. A random order is any
rearrangement; which one is left to the caller. Records that their sort keys hold in no order may not be
sorted at all, and then there is no result.
-/

namespace Listing

/-- A way to rearrange ids that neither loses nor repeats one. -/
structure Shuffle where
  order : List Count → List Count
  perm : ∀ ids, (order ids).Perm ids

namespace Shuffle

def still : Shuffle := ⟨id, fun ids => .refl ids⟩

/-- Orders ids by a key of their places. -/
def byKey (key : Nat → UInt64) : Shuffle where
  order ids := (ids.zipIdx.mergeSort fun a b => key a.2 ≤ key b.2).map Prod.fst
  perm ids := by simpa using (List.mergeSort_perm ids.zipIdx _).map Prod.fst

end Shuffle

namespace Store

abbrev Entry := Count × Json

def precedes (keys : List SortKey) (a b : Entry) : Bool := compareRecords keys a.2 b.2 == .lt

/-- The entries in order; those that tie stay as they came. -/
def sortEntries (keys : List SortKey) (entries : List Entry) : Option (List Entry) :=
  if keys.isEmpty then some entries else Sorting.stable? (precedes keys) entries

def matching (s : Store) (selection : Selection) : List Entry :=
  s.records.entries.filter fun entry => selection.admits entry.2

def sequence (s : Store) (shuffle : Shuffle) (selection : Selection) : Option (List Count) :=
  let hits := s.matching selection
  if selection.hasTag randomTag then some (shuffle.order (hits.map Prod.fst))
  else (sortEntries selection.sort hits).map (·.map Prod.fst)

def cutWindow (window : Option Window) (ids : List Count) : List Count :=
  match window with
  | some w => (ids.drop w.start.toNat).take w.length.toNat
  | none => ids

def run (s : Store) (shuffle : Shuffle) (selection : Selection) : Option (List Count) :=
  (s.sequence shuffle selection).map (cutWindow selection.window)

def execute (s : Store) (shuffle : Shuffle) (d : Descriptor) : Option (List Count) :=
  s.run shuffle (selecting.applyQuery d .empty)

/-- The number of results over all pages. -/
def count (s : Store) (d : Descriptor) : Count :=
  Count.clamp (s.matching (selecting.applyFilters d .empty)).length

end Store
end Listing
