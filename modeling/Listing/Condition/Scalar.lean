import Listing.Text.Blank
import Listing.Text.Case
import Listing.Text.Digits

/-!
# Operands and operators

What a field is compared with, and how.
-/

namespace Listing

/-- An operand: an integer of 64 bits, or any other text as it was given. -/
inductive Scalar where
  | int (n : Int64)
  | text (s : String)
  deriving DecidableEq

namespace Scalar

/-- Digits that may follow one sign are an integer, if it is in range. -/
def ofChars (cs : List Char) : Scalar :=
  match Text.int64? cs with
  | some n => .int n
  | none => .text (String.ofList cs)

def ofString (s : String) : Scalar := ofChars s.toList

def toString : Scalar → String
  | int n => ToString.toString n.toInt
  | text s => s

def int? : Scalar → Option Int64
  | int n => some n
  | text _ => none

end Scalar

inductive Operator where
  | eq | ne | le | lt | gt | ge | between | isIn | notIn | contains
  deriving DecidableEq

namespace Operator

def symbol : Operator → String
  | eq => "="
  | ne => "!="
  | le => "<="
  | lt => "<"
  | gt => ">"
  | ge => ">="
  | between => "BETWEEN"
  | isIn => "IN"
  | notIn => "NOT IN"
  | contains => "CONTAINS"

/-- Every spelling, in upper case. -/
def spellings : List (String × Operator) := [
  ("=", eq), ("==", eq), ("!=", ne), ("<>", ne), ("<=", le), ("<", lt), (">", gt), (">=", ge),
  ("BETWEEN", between), ("IN", isIn), ("NOT IN", notIn), ("NOT_IN", notIn), ("CONTAINS", contains)]

/-- The operator that a text spells, blanks around it and the case of its letters apart. -/
def ofChars? (cs : List Char) : Option Operator :=
  spellings.lookup (String.ofList (Text.upperAscii (Text.trim cs)))

end Operator

inductive Test where
  | equals (operand : Scalar)
  | compare (operand : Scalar) (operator : Operator)
  | between (low high : Scalar)
  | isIn (operands : List Scalar)
  | notIn (operands : List Scalar)
  deriving DecidableEq

namespace Test

/-- The operator that a test shows; equality is left unsaid. -/
def operator : Test → Option Operator
  | equals _ => none
  | compare _ op => some op
  | between _ _ => some .between
  | isIn _ => some .isIn
  | notIn _ => some .notIn

def ofOperator (operand : Scalar) : Operator → Test
  | .eq => .equals operand
  | op => .compare operand op

end Test
end Listing
