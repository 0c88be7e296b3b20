import Listing.Config.Basic
import Listing.Serving.Response

/-!
# JSON forms

Descriptors, pagers, responses and settings as JSON values.
-/

namespace Listing
open Json

def Scalar.toJson : Scalar → Json
  | int n => ofInt64 n
  | text s => .text s

def scalarsToJson (list : List Scalar) : Json := array (list.map Scalar.toJson)

def Test.toJson : Test → Json
  | equals s => object [("equals", s.toJson)]
  | compare s op => object [("compare", array [s.toJson, text op.symbol])]
  | between low high => object [("between", array [low.toJson, high.toJson])]
  | isIn list => object [("in", scalarsToJson list)]
  | notIn list => object [("not_in", scalarsToJson list)]

def Leaf.toJson (l : Leaf) : Json := object [("field", text l.field), ("value", l.test.toJson)]

def groupObject (c : Conjunction) (children : List Json) : Json :=
  object [("children", array children), ("conjunction", text c.symbol)]

mutual
def Condition.toJson : Condition → Json
  | .leaf l => object [("leaf", l.toJson)]
  | .group c children => object [("group", groupObject c (conditionsToJson children))]

def conditionsToJson : List Condition → List Json
  | [] => []
  | c :: rest => c.toJson :: conditionsToJson rest
end

def Group.toJson (g : Group) : Json := groupObject g.conjunction (conditionsToJson g.children)

def Window.toJson (w : Window) : Json :=
  object [("length", ofCount w.length), ("start", ofCount w.start)]

def SortKey.toJson (k : SortKey) : Json :=
  object [("direction", text k.direction.symbol), ("field", text k.field)]

def PagerMode.toJson : PagerMode → Json
  | full => .text "default"
  | simple => .text "simple"
  | restricted size => object [("restricted", ofNat size.toNat)]

def PageSpec.toJson (s : PageSpec) : Json :=
  object [("mode", s.mode.toJson), ("page", ofCount s.page), ("per_page", ofCount s.perPage)]

def Bundle.toJson : Bundle → Json
  | any => text "any"
  | one name => object [("one", text name)]
  | many names => object [("many", array (names.map text))]

def Descriptor.fields (d : Descriptor) : List (String × Json) := [
  ("entity_kind", text d.entityKind), ("bundle_field", text d.bundleField),
  ("bundle", d.bundle.toJson),
  ("conditions", ofFields (d.conditions.entries.map fun (field, test) => (field, test.toJson))),
  ("group", ofOption (d.group.map Group.toJson)), ("group2", ofOption (d.dates.map Group.toJson)),
  ("range", d.window.toJson), ("sort", array (d.sort.map SortKey.toJson)), ("random", bool d.random)]

def Descriptor.toJson (d : Descriptor) : Json := ofFields d.fields

def ParsedRequest.toJson (r : ParsedRequest) : Json :=
  object [("descriptor", r.descriptor.toJson), ("pager", ofOption (r.pager.map PageSpec.toJson)),
    ("view_mode", text r.viewMode)]

def PagerState.toJson (s : PagerState) : Json :=
  object [("current_page", ofCount s.current), ("mode", s.mode.toJson),
    ("per_page", ofCount s.perPage), ("total_items", ofCount s.totalItems),
    ("total_pages", ofCount s.totalPages)]

def LinkKind.name : LinkKind → String
  | prev => "prev"
  | next => "next"
  | page => "page"
  | ellipsis => "ellipsis"
  | text => "text"

def PagerLink.toJson (l : PagerLink) : Json :=
  object [("is_active", bool l.active), ("is_ellipsis", bool (l.kind == .ellipsis)),
    ("kind", text l.kind.name), ("label", text l.label), ("target_page", ofCount l.target),
    ("target_page_spec", text l.spec)]

def pagerObject (state : PagerState) (links : List PagerLink) : Json :=
  object [("links", array (links.map PagerLink.toJson)), ("state", state.toJson)]

def Pager.toJson (p : Pager) : Json := pagerObject p.state p.links

def Rendered.toJson (r : Rendered) : Json :=
  object [("entity_kind", text r.entityKind), ("items", array r.items), ("view_mode", text r.viewMode)]

def Response.fields : Response → List (String × Json)
  | rendered output pager => [("output", output.toJson), ("pager", ofOption (pager.map Pager.toJson)),
      ("status", text "rendered")]
  | noResults => [("status", text "no_results")]
  | invalidDate => [("status", text "invalid_date")]
  | invalidInput reason => [("reason", text reason), ("status", text "invalid_input")]
  | emptyBlock => [("status", text "empty_block")]
  | failure => [("status", text "failure")]

def Response.toJson (r : Response) : Json := object r.fields

def Response.toJsonWithMessage (r : Response) : Json :=
  match r.message with
  | some message => ofFields (r.fields ++ [("message", text message)])
  | none => r.toJson

def InvalidDatePolicy.name : InvalidDatePolicy → String
  | reject => "reject"
  | fallback => "fallback"

def QuerySettings.toJson (s : QuerySettings) : Json := ofFields [
  ("default_entity_kind", text s.entityKind), ("default_bundle", ofOption (s.bundle.map text)),
  ("status_field", text s.statusField), ("default_status", ofOption (s.status.map ofInt64)),
  ("id_field", text s.idField), ("default_range", s.window.toJson),
  ("default_sort", array (s.sort.map SortKey.toJson)), ("default_view_mode", text s.viewMode),
  ("storage_date_format", text s.storagePattern), ("month_date_format", text s.monthPattern),
  ("storage_timezone", text s.timezone), ("invalid_date_policy", text s.invalidDates.name),
  ("fallback_months", ofNat s.fallbackMonths.toNat),
  ("bundle_keys", ofFields (s.bundleFields.entries.map fun (kind, field) => (kind, text field)))]

def Config.toJson (c : Config) : Json := object [
  ("cache", object [("capacity", ofCount c.cache.capacity), ("enabled", bool c.cache.enabled),
    ("ttl_secs", ofCount c.cache.ttl)]),
  ("data", object [("records", ofOption (c.records.map text))]),
  ("debug", object [("verbosity", ofNat c.verbosity.toNat)]),
  ("output", object [("include_message", bool c.output.message), ("pretty", bool c.output.pretty)]),
  ("query", c.query.toJson)]

end Listing
