import Listing.Fragment.Basic
import Listing.Condition.Group

/-!
# Field tests

`name--value--OP`, repeated after commas. The name ends at the first pair of dashes and the operator
starts after the last one, so that the value may hold dashes itself. An `address` is a search for text
in one column of a field.
-/

namespace Listing.Fragment

/-- `low-high`, with one dash. -/
def bounds? (raw : List Char) : Option (List Char × List Char) :=
  match Text.cut? ['-'] raw with
  | some (low, high) =>
    if low.isEmpty || high.isEmpty || high.contains '-' then none else some (low, high)
  | none => none

def operands? (raw : List Char) : Option (List Scalar) :=
  let items := (raw.splitOn '-').filter (!·.isEmpty)
  if items.isEmpty then none else some (items.map Scalar.ofChars)

def test (raw : List Char) : Operator → Except Flaw Test
  | .between =>
    match bounds? raw with
    | some (low, high) => .ok (.between (Scalar.ofChars low) (Scalar.ofChars high))
    | none => .error .boundsShape
  | .isIn =>
    match operands? raw with
    | some list => .ok (.isIn list)
    | none => .error .emptyList
  | .notIn =>
    match operands? raw with
    | some list => .ok (.notIn list)
    | none => .error .emptyList
  | op => .ok (Test.ofOperator (Scalar.ofChars raw) op)

def fieldTest (fragment : List Char) : Except FragmentError Leaf :=
  match Text.cut? dashes fragment with
  | none => .error (malformed .field fragment .fieldShape)
  | some (name, tail) =>
    match Text.cutLast? dashes tail with
    | none => .error (malformed .field fragment .noOperator)
    | some (raw, op) =>
      if name.isEmpty then .error (malformed .field fragment .noField)
      else match Operator.ofChars? op with
        | none => .error (.unknownOperator (String.ofList fragment) (String.ofList op))
        | some operator =>
          match test raw operator with
          | .error flaw => .error (malformed .field fragment flaw)
          | .ok test => .ok ⟨String.ofList name, test⟩

/-- The tests of a `field` value; the first fragment that fails decides. -/
def fieldTests (raw : String) : Except FragmentError (List Leaf) := do
  (entries (← required .field raw)).mapM fieldTest

/-- `field--column--value`. The value may be empty and may hold dashes. -/
def address (raw : String) : Except FragmentError Leaf := do
  let cs ← required .address raw
  match Text.cut? dashes cs with
  | none => throw (malformed .address cs .addressShape)
  | some (field, tail) =>
    match Text.cut? dashes tail with
    | none => throw (malformed .address cs .addressShape)
    | some (column, value) =>
      if field.isEmpty || column.isEmpty then throw (malformed .address cs .addressShape)
      else return ⟨String.ofList (field ++ '.' :: column),
        .compare (.text (String.ofList value)) .contains⟩

end Listing.Fragment
