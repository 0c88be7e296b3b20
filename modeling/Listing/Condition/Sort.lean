import Listing.Text.Blank
import Listing.Text.Case

/-! # Sort directives -/

namespace Listing

inductive Direction where
  | asc
  | desc
  deriving DecidableEq

namespace Direction

def symbol : Direction → String
  | asc => "ASC"
  | desc => "DESC"

/-- The direction that a text spells, blanks around it and the case of its letters apart. -/
def ofChars? (cs : List Char) : Option Direction :=
  match String.ofList (Text.upperAscii (Text.trim cs)) with
  | "ASC" => some asc
  | "DESC" => some desc
  | _ => none

end Direction

structure SortKey where
  field : String
  direction : Direction
  deriving DecidableEq

end Listing
