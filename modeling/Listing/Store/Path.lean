import Listing.Json.Basic
import Listing.Text.Digits

/-!
# Paths into records

A path is a list of segments between dots. A number picks an item of a list and leaves a single value as
it is; a name picks a field, of every item where the value is a list.
-/

namespace Listing.Store

/-- The place that a segment names, if it is a number. -/
def index? (segment : List Char) : Option Nat := Text.unsigned? UInt64.size segment

/-- The values one segment further on. -/
def step (segment : List Char) (value : Json) : List Json :=
  let name := String.ofList segment
  match value, index? segment with
  | .array items, some i => items[i]?.toList
  | .array items, none => items.filterMap (Json.field? name)
  | .object fields, place =>
    match fields.lookup name with
    | some found => [found]
    | none => if place = some 0 then [value] else []
  | other, place => if place = some 0 then [other] else []

def spread : Json → List Json
  | .array items => items
  | value => [value]

/-- The values along the segments of a path. -/
def walk (segments : List (List Char)) (values : List Json) : List Json :=
  segments.foldl (fun values segment => values.flatMap (step segment)) values

/-- Every value at the end of a path, lists taken item by item and nulls left out. -/
def resolve (record : Json) (path : String) : List Json :=
  ((walk (path.toList.splitOn '.') [record]).flatMap spread).filter (!·.isNull)

theorem walk_cons (segment : List Char) (rest : List (List Char)) (values : List Json) :
    walk (segment :: rest) values = walk rest (values.flatMap (step segment)) := rfl

end Listing.Store
