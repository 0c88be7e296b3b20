import Listing.Json.Basic
import Listing.Paging.Pager

/-!
# Responses

What a request comes to, down to the sentence that stands where no records can be shown.
-/

namespace Listing

/-- Records made ready for a page, in the order of the listing. -/
structure Rendered where
  entityKind : String
  viewMode : String
  items : List Json

inductive Response where
  | rendered (output : Rendered) (pager : Option Pager)
  | noResults
  | invalidDate
  | invalidInput (reason : String)
  | emptyBlock
  | failure

namespace Response

def message : Response → Option String
  | rendered _ _ => none
  | noResults => some "Sorry, there are no results for your current selection."
  | invalidDate => some "Sorry, the date format is not valid."
  | invalidInput _ => some "Sorry, the request could not be understood."
  | emptyBlock => some "This block is empty"
  | failure => some "Sorry, the results could not be loaded."

/-- Only what a storage has answered is worth remembering. -/
def isCacheable : Response → Bool
  | rendered _ _ | noResults => true
  | _ => false

def isFailure : Response → Bool
  | failure => true
  | _ => false

end Response
end Listing
