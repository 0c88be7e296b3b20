import Listing.Condition.Scalar
import Listing.Decimal.Reader
import Listing.Json.Printer
import Listing.Text.Split

/-!
# Comparing values

Two values compare as numbers when both are numbers, written out or not, and as texts otherwise. A
number that is none compares with nothing.
-/

namespace Listing.Store

/-- The number that a value is or spells; a truth value is one or zero. -/
def number? : Json → Option Decimal.Double
  | .number n => some n.toDouble
  | .text s => Decimal.number? s.toList
  | .bool b => some (.ofInt (if b then 1 else 0))
  | _ => none

/-- The text of a value that is not a container. -/
def text? : Json → Option String
  | .text s => some s
  | .number n => some n.text
  | .bool b => some (if b then "true" else "false")
  | _ => none

def operandNumber? : Scalar → Option Decimal.Double
  | .int n => some (.ofInt n.toInt)
  | .text s => Decimal.number? s.toList

/-- The order of a value against an operand, if they have one. -/
def compareOperand (value : Json) (operand : Scalar) : Option Ordering :=
  match number? value, operandNumber? operand with
  | some a, some b => a.compare? b
  | _, _ => (text? value).map (compare · operand.toString)

/-- The order of texts, in which no text comes first. -/
def compareTexts : Option String → Option String → Ordering
  | none, none => .eq
  | none, some _ => .lt
  | some _, none => .gt
  | some a, some b => compare a b

def compareValues (a b : Json) : Ordering :=
  match number? a, number? b with
  | some x, some y => (x.compare? y).getD .eq
  | _, _ => compareTexts (text? a) (text? b)

/-- Whether a text holds another, in lower case both. -/
def containsText (text sought : String) : Bool :=
  Text.occurs (Text.lower sought.toList) (Text.lower text.toList)

/-- Whether a comparison allows an order. Operators on more than one operand allow none. -/
def admits : Operator → Ordering → Bool
  | .eq, o => o == .eq
  | .ne, o => o != .eq
  | .le, o => o != .gt
  | .lt, o => o == .lt
  | .gt, o => o == .gt
  | .ge, o => o != .lt
  | .between, _ | .isIn, _ | .notIn, _ | .contains, _ => false

/-- Whether one value passes a comparison with one operand. -/
def passes (value : Json) (operand : Scalar) : Operator → Bool
  | .contains => (text? value).any (containsText · operand.toString)
  | op => (compareOperand value operand).any (admits op)

def listed (value : Json) (operands : List Scalar) : Bool :=
  operands.any fun operand => compareOperand value operand == some .eq

/-- Whether the values of a field pass a test: one of them is enough, but none may be on a list of
exclusions. -/
def passesTest (values : List Json) : Test → Bool
  | .equals operand => values.any (passes · operand .eq)
  | .compare operand op => values.any (passes · operand op)
  | .between low high => values.any fun v => passes v low .ge && passes v high .le
  | .isIn operands => values.any (listed · operands)
  | .notIn operands => !values.any (listed · operands)

end Listing.Store
