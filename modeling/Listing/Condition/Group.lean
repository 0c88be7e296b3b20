import Listing.Condition.Scalar

/-!
# Groups of conditions

Trees of tests on fields, joined by AND and OR.
-/

namespace Listing

inductive Conjunction where
  | and
  | or
  deriving DecidableEq

def Conjunction.symbol : Conjunction → String
  | and => "AND"
  | or => "OR"

structure Leaf where
  field : String
  test : Test
  deriving DecidableEq

inductive Condition where
  | leaf (leaf : Leaf)
  | group (conjunction : Conjunction) (children : List Condition)

/-- The root of a tree: a conjunction over its children. -/
structure Group where
  conjunction : Conjunction
  children : List Condition

namespace Condition

mutual
/-- The leaves of a tree, depth first. -/
def leaves : Condition → List Leaf
  | leaf l => [l]
  | group _ children => leavesOfAll children

def leavesOfAll : List Condition → List Leaf
  | [] => []
  | c :: rest => leaves c ++ leavesOfAll rest
end

def test (field : String) (test : Test) : Condition := leaf ⟨field, test⟩

end Condition

namespace Group

def toCondition (g : Group) : Condition := .group g.conjunction g.children

def isEmpty (g : Group) : Bool := g.children.isEmpty

def leaves (g : Group) : List Leaf := g.toCondition.leaves

def single (field : String) (test : Test) : Group := ⟨.and, [.test field test]⟩

end Group
end Listing
