import Listing.Calendar.Offset
import Listing.Condition.Sort
import Listing.Fragment.Dates
import Listing.OrderedMap
import Listing.Paging.Spec

/-!
# Query settings

What a request gets where it says nothing itself.
-/

namespace Listing

inductive InvalidDatePolicy where
  | reject
  /-- A window of some months from today takes its place. -/
  | fallback
  deriving DecidableEq

structure QuerySettings where
  entityKind : String
  /-- None for any bundle. -/
  bundle : Option String
  statusField : String
  /-- The publication status that every record must have, if any. -/
  status : Option Int64
  idField : String
  window : Window
  sort : List SortKey
  viewMode : String
  storagePattern : String
  monthPattern : String
  timezone : String
  invalidDates : InvalidDatePolicy
  fallbackMonths : UInt32
  /-- The bundle field of an entity kind, where it is not the usual one. -/
  bundleFields : OrderedMap String String
  deriving DecidableEq

namespace QuerySettings

def standard : QuerySettings where
  entityKind := "node"
  bundle := some "page"
  statusField := "status"
  status := some 1
  idField := "nid"
  window := ⟨0, 1000⟩
  sort := []
  viewMode := "teaser"
  storagePattern := "%Y-%m-%d"
  monthPattern := "%d-%m-%Y"
  timezone := "+00:00"
  invalidDates := .reject
  fallbackMonths := 2
  bundleFields := ∅

def usualBundleField (kind : String) : String :=
  if kind = "taxonomy_term" then "vid" else if kind = "media" then "bundle" else "type"

def bundleField (s : QuerySettings) (kind : String) : String :=
  (s.bundleFields.get? kind).getD (usualBundleField kind)

inductive Fault where
  | format (error : FragmentError)
  | timezone (text : String)
  deriving DecidableEq

def Fault.message : Fault → String
  | format error => error.message
  | timezone text =>
    "Invalid storage timezone '" ++ text ++ "', expected an offset like +01:00"

def formats (s : QuerySettings) : Except Fault DateFormats :=
  (DateFormats.make s.storagePattern s.monthPattern).mapError .format

def offset (s : QuerySettings) : Except Fault Calendar.Offset :=
  match Calendar.Offset.ofString? s.timezone with
  | some offset => .ok offset
  | none => .error (.timezone s.timezone)

end QuerySettings
end Listing
