import Listing.Fragment.Basic
import Listing.Condition.Group
import Listing.OrderedMap

/-!
# Category terms

`field--term-term-…`: the terms of a category field that records must carry, or must not. The word
`all` anywhere in a value lifts the restriction.
-/

namespace Listing.Fragment

def everything : List Char := "all".toList

def fieldTerms (key : Key) (fragment : List Char) :
    Except FragmentError (String × List Scalar) :=
  match Text.cut? dashes fragment with
  | none => .error (malformed key fragment .termsShape)
  | some (field, tail) =>
    match terms? tail with
    | none => .error (malformed key fragment .termsShape)
    | some terms =>
      if field.isEmpty then .error (malformed key fragment .noField)
      else .ok (String.ofList field, terms.map Scalar.ofChars)

/-- The records under some of the terms, or all records. -/
def category (raw : String) : Except FragmentError (Option Group) := do
  let cs ← required .category raw
  if Text.occurs everything cs then return none
  let (field, terms) ← fieldTerms .category cs
  return some (.single field (.isIn terms))

/-- One restriction per field. A field that comes again takes the later terms. -/
def categories (raw : String) : Except FragmentError (Option Group) := do
  let cs ← required .categories raw
  let chosen := (entries cs).filter (!Text.occurs everything ·)
  let pairs ← chosen.mapM (fieldTerms .categories)
  let merged := (OrderedMap.ofList pairs).entries
  if merged.isEmpty then return none
  return some ⟨.and, merged.map fun (field, terms) => .test field (.isIn terms)⟩

/-- The records under none of the terms. -/
def categoryIgnore (raw : String) : Except FragmentError Group := do
  let cs ← required .categoryIgnore raw
  let (field, terms) ← fieldTerms .categoryIgnore cs
  return .single field (.notIn terms)

end Listing.Fragment
