/-!
# Request keys

The parameters that a request may carry.
-/

namespace Listing

inductive Key where
  | entityType
  | contentType
  | viewMode
  | sticky
  | nid
  | nids
  | sort
  | range
  | paged
  | field
  | address
  | category
  | categories
  | categoryIgnore
  | date
  | byMonth
  | random
  deriving DecidableEq

namespace Key

def name : Key → String
  | entityType => "entity_type"
  | contentType => "content_type"
  | viewMode => "view_mode"
  | sticky => "sticky"
  | nid => "nid"
  | nids => "nids"
  | sort => "sort"
  | range => "range"
  | paged => "paged"
  | field => "field"
  | address => "address"
  | category => "category"
  | categories => "categories"
  | categoryIgnore => "category_ignore"
  | date => "date"
  | byMonth => "byMonth"
  | random => "random"

def all : List Key := [
  entityType, contentType, viewMode, sticky, nid, nids, sort, range, paged, field, address, category,
  categories, categoryIgnore, date, byMonth, random]

/-- Case matters in the name of a key. -/
def ofName? (s : String) : Option Key := all.find? (·.name == s)

theorem ofName?_name (k : Key) : ofName? k.name = some k := by cases k <;> decide

theorem name_of_ofName? {s : String} {k : Key} (h : ofName? s = some k) : k.name = s := by
  simpa using List.find?_some h

end Key
end Listing
