import Listing.Fragment.Error
import Listing.Condition.Scalar
import Listing.Text.Split

/-!
# Parts of a fragment

Two dashes part the segments of a fragment, one dash the items of a list, a comma its fragments.
-/

namespace Listing.Fragment

def dashes : List Char := ['-', '-']

/-- A value that says something, without the blanks around it. -/
def required (key : Key) (raw : String) : Except FragmentError (List Char) :=
  if Text.isBlank raw.toList then .error (.emptyInput key) else .ok (Text.trim raw.toList)

/-- The entries between commas, trimmed, the empty ones left out. -/
def entries (cs : List Char) : List (List Char) :=
  ((cs.splitOn ',').map Text.trim).filter (!·.isEmpty)

/-- Items between single dashes, none of them empty. -/
def terms? (cs : List Char) : Option (List (List Char)) :=
  let parts := cs.splitOn '-'
  if parts.all (!·.isEmpty) then some parts else none

def malformed (key : Key) (fragment : List Char) (flaw : Flaw) : FragmentError :=
  .malformed key (String.ofList fragment) flaw

/-! ### Values without a grammar of their own -/

def scalar (key : Key) (raw : String) : Except FragmentError Scalar :=
  (required key raw).map Scalar.ofChars

def bundles (raw : String) : List String := (entries raw.toList).map String.ofList

def flag (raw : String) : Bool :=
  let text := Text.trimmed raw
  text == "1" || text == "true"

/-- `id-id-…`. -/
def idList (raw : String) : Except FragmentError (List Scalar) := do
  let cs ← required .nids raw
  match terms? cs with
  | some ids => return ids.map Scalar.ofChars
  | none => throw (malformed .nids cs .idsShape)

end Listing.Fragment
