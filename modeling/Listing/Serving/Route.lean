import Listing.Fragment.Basic
import Listing.Params

/-!
# Routes

Fixed listings, written as requests.
-/

namespace Listing.Route

def dateField : String := "field_date"

def categoryField : String := "field_category.entity.tid"

/-- A category that restricts a listing: not blank and without the word `all`. -/
def activeCategory? (category : Option String) : Option String :=
  match category with
  | none => none
  | some text =>
    let cs := Text.trim text.toList
    if cs.isEmpty || Text.occurs "all".toList cs then none else some (String.ofList cs)

/-- A window written `START--END` as the fragment grammar wants it. -/
def dateWindow (cs : List Char) : List Char :=
  match Text.cut? Fragment.dashes cs with
  | some (first, last) => first ++ ',' :: last
  | none => cs

/-- A calendar: the records that overlap a window, featured ones first and then by date. -/
def calendar (contentType viewMode : String) (category date : Option String) : Params :=
  let p := OrderedMap.ofList [("content_type", contentType), ("view_mode", viewMode)]
  let p := match date.map fun text => Text.trim text.toList with
    | none | some [] => p
    | some cs =>
      (p.insert "date" (dateField ++ "--" ++ String.ofList (dateWindow cs))).insert "sort"
        "field_featured-DESC,field_date-ASC"
  match activeCategory? category with
  | some text => p.insert "category" text
  | none => p

/-- A paged listing with the newest first, perhaps of one category alone. -/
def paged (contentType viewMode : String) (page perPage : Count) (category : Option String) :
    Params :=
  let spec := toString page.toNat ++ "-" ++ toString perPage.toNat
  let p := OrderedMap.ofList [("content_type", contentType), ("view_mode", viewMode),
    ("paged", spec), ("sort", "created-DESC")]
  match activeCategory? category with
  | some term => p.insert "field" (categoryField ++ "--" ++ term ++ "--=")
  | none => p

end Listing.Route
