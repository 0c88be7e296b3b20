import Listing.Condition.Group
import Listing.Condition.Sort
import Listing.OrderedMap
import Listing.Paging.Spec

/-!
# Query descriptors

A request in normal form: what to select, in which order, and which stretch of it.
-/

namespace Listing

inductive Bundle where
  | any
  | one (name : String)
  | many (names : List String)
  deriving DecidableEq

namespace Bundle

def ofList : List String → Bundle
  | [] => any
  | [name] => one name
  | names => many names

def test : Bundle → Option Test
  | any => none
  | one name => some (.equals (.text name))
  | many names => some (.isIn (names.map .text))

end Bundle

structure Descriptor where
  entityKind : String
  bundleField : String
  bundle : Bundle
  /-- Tests that must all hold, one to a field. -/
  conditions : OrderedMap String Test
  /-- The category group. -/
  group : Option Group
  /-- The date group. -/
  dates : Option Group
  window : Window
  sort : List SortKey
  /-- A random order instead of the sorted one, where the storage offers it. -/
  random : Bool

end Listing
