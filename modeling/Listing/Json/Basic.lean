import Listing.Count
import Listing.Decimal.Double

/-!
# JSON values

Numbers keep their kind: a natural or a negative integer of 64 bits, or a double. The fields of an
object are sorted by name, and no name stands twice in what `withField` builds.
-/

namespace Listing

inductive Json.Number where
  | natural (n : Count)
  /-- Below zero. -/
  | negative (n : Int64)
  | double (d : Decimal.Double)
  deriving DecidableEq

inductive Json where
  | null
  | bool (b : Bool)
  | number (n : Json.Number)
  | text (s : String)
  | array (items : List Json)
  | object (fields : List (String × Json))
  deriving BEq

namespace Json

instance : Inhabited Json := ⟨null⟩

def Number.toDouble : Number → Decimal.Double
  | natural n => .ofInt n.toNat
  | negative n => .ofInt n.toInt
  | double d => d

/-- The fields with `name` set to `value`, in sorted order. -/
def putField (name : String) (value : Json) : List (String × Json) → List (String × Json)
  | [] => [(name, value)]
  | field :: rest =>
    match compare name field.1 with
    | .lt => (name, value) :: field :: rest
    | .eq => (name, value) :: rest
    | .gt => field :: putField name value rest

/-- An object of these fields, of which a later one replaces an earlier one of its name. -/
def ofFields (fields : List (String × Json)) : Json :=
  object (fields.foldl (fun done (name, value) => putField name value done) [])

def field? (name : String) : Json → Option Json
  | object fields => fields.lookup name
  | _ => none

def isObject : Json → Bool
  | object _ => true
  | _ => false

def isNull : Json → Bool
  | null => true
  | _ => false

def ofNat (n : Nat) : Json := number (.natural (UInt64.ofNat n))

def ofCount (n : Count) : Json := number (.natural n)

def ofInt64 (n : Int64) : Json :=
  if n < 0 then number (.negative n) else number (.natural n.toUInt64)

def ofOption : Option Json → Json
  | some value => value
  | none => null

def count? : Json → Option Count
  | number (.natural n) => some n
  | _ => none

end Json
end Listing
