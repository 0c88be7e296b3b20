import Listing.Query.Descriptor

/-!
# Calls on a storage

A descriptor is put to a storage as a sequence of calls: the bundle, the conditions, the category group,
the date group, then the order and the window. Each storage says what the calls do to its queries.
-/

namespace Listing

/-- What a storage with queries `Q` and groups `G` offers. -/
structure Storage (Q G : Type) where
  newGroup : Conjunction → G
  addToGroup : String → Test → G → G
  nest : G → G → G
  condition : String → Test → Q → Q
  group : G → Q → Q
  sort : String → Direction → Q → Q
  window : Window → Q → Q
  tag : String → Q → Q
  honours : String → Bool

def randomTag : String := "random_order"

namespace Storage
variable {Q G : Type} (s : Storage Q G)

mutual
def addChild (g : G) : Condition → G
  | .leaf l => s.addToGroup l.field l.test g
  | .group conjunction children => s.nest (addChildren (s.newGroup conjunction) children) g

def addChildren (g : G) : List Condition → G
  | [] => g
  | c :: rest => addChildren (addChild g c) rest
end

def buildGroup (g : Group) : G := s.addChildren (s.newGroup g.conjunction) g.children

/-- All that a count needs. -/
def applyFilters (d : Descriptor) (q : Q) : Q :=
  let q := match d.bundle.test with
    | some test => s.condition d.bundleField test q
    | none => q
  let q := d.conditions.entries.foldl (fun q (field, test) => s.condition field test q) q
  (d.group.toList ++ d.dates.toList).foldl (fun q g => s.group (s.buildGroup g) q) q

/-- The filters, the order and the window. -/
def applyQuery (d : Descriptor) (q : Q) : Q :=
  let q := s.applyFilters d q
  let q :=
    if d.random && s.honours randomTag then s.tag randomTag q
    else d.sort.foldl (fun q key => s.sort key.field key.direction q) q
  s.window d.window q

end Storage

inductive Call where
  | condition (field : String) (test : Test)
  | group (g : Group)
  | sort (key : SortKey)
  | window (w : Window)
  | tag (name : String)

/-- The storage that writes down its calls, in order. -/
def recorder (honours : String → Bool) : Storage (List Call) Group where
  newGroup conjunction := ⟨conjunction, []⟩
  addToGroup field test g := { g with children := g.children ++ [.test field test] }
  nest inner g := { g with children := g.children ++ [inner.toCondition] }
  condition field test calls := calls ++ [.condition field test]
  group g calls := calls ++ [.group g]
  sort field direction calls := calls ++ [.sort ⟨field, direction⟩]
  window w calls := calls ++ [.window w]
  tag name calls := calls ++ [.tag name]
  honours := honours

end Listing
