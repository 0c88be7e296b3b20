import Listing.Config.Basic
import Listing.Json.Basic
import Listing.Serving.Dispatch

/-!
# Configurations from documents

A document gives any of the members by name, in an object, or from the front, in a list. Members that it
leaves out keep their defaults and members that nobody knows are passed over; a value of the wrong type
spoils the whole.
-/

namespace Listing

/-- How a kind of document writes members. -/
structure Dialect where
  /-- Whether a list may go on behind the last member. -/
  surplus : Bool
  /-- Whether null stands for no value. Otherwise it is a number too large to be held, which spoils the
  whole wherever it is looked at. -/
  nulls : Bool

namespace Dialect

def json : Dialect := ⟨false, true⟩

def toml : Dialect := ⟨true, false⟩

end Dialect

namespace Json

mutual
/-- Whether null stands nowhere in a value. -/
def hasNoNull : Json → Bool
  | null => false
  | array items => haveNoNull items
  | object fields => fieldsHaveNoNull fields
  | _ => true

def haveNoNull : List Json → Bool
  | [] => true
  | item :: rest => hasNoNull item && haveNoNull rest

def fieldsHaveNoNull : List (String × Json) → Bool
  | [] => true
  | (_, value) :: rest => hasNoNull value && fieldsHaveNoNull rest
end

def members? (d : Dialect) (names : List String) : Json → Option (String → Option Json)
  | object fields =>
    let unknown := fields.filter fun field => !names.contains field.1
    if d.nulls || fieldsHaveNoNull unknown then some fun name => fields.lookup name else none
  | array items =>
    if d.surplus || items.length ≤ names.length then
      some fun name => (names.zip items).lookup name
    else none
  | _ => none

/-- A member, or its default where it is missing. -/
def orElse {α : Type} (found : Option Json) (decode : Json → Option α) (default : α) : Option α :=
  match found with
  | some value => decode value
  | none => some default

def string? : Json → Option String
  | text s => some s
  | _ => none

def bool? : Json → Option Bool
  | bool b => some b
  | _ => none

def int64? : Json → Option Int64
  | number (.negative n) => some n
  | number (.natural n) => if n.toNat < 9223372036854775808 then some n.toInt64 else none
  | _ => none

def natBelow? (limit : Nat) : Json → Option Nat
  | number (.natural n) => if n.toNat < limit then some n.toNat else none
  | _ => none

/-- A value, or null where that stands for none. -/
def nullable {α : Type} (d : Dialect) (decode : Json → Option α) : Json → Option (Option α)
  | null => if d.nulls then some none else none
  | value => (decode value).map some

def isVoid (d : Dialect) : Json → Bool
  | null => d.nulls
  | array items => !d.nulls && items.isEmpty
  | object fields => !d.nulls && fields.isEmpty
  | _ => false

/-- One of several names, alone or as the only field of an object without a value. -/
def choice? {α : Type} (d : Dialect) (names : List (String × α)) : Json → Option α
  | text s => names.lookup s
  | object [(name, value)] => if isVoid d value then names.lookup name else none
  | _ => none

end Json

open Json

def Window.decode (d : Dialect) (value : Json) : Option Window := do
  let get ← members? d ["start", "length"] value
  return ⟨← (← get "start").count?, ← (← get "length").count?⟩

def Direction.decode (d : Dialect) : Json → Option Direction :=
  choice? d [("ASC", .asc), ("DESC", .desc)]

def SortKey.decode (d : Dialect) (value : Json) : Option SortKey := do
  let get ← members? d ["field", "direction"] value
  return ⟨← (← get "field").string?, ← Direction.decode d (← get "direction")⟩

def decodeList {α : Type} (decode : Json → Option α) : Json → Option (List α)
  | .array items => items.mapM decode
  | _ => none

def decodeTexts : Json → Option (OrderedMap String String)
  | .object fields => do
    return OrderedMap.ofList (← fields.mapM fun (name, value) => return (name, ← value.string?))
  | _ => none

def InvalidDatePolicy.decode (d : Dialect) : Json → Option InvalidDatePolicy :=
  choice? d [("reject", .reject), ("fallback", .fallback)]

def QuerySettings.memberNames : List String := [
  "default_entity_kind", "default_bundle", "status_field", "default_status", "id_field",
  "default_range", "default_sort", "default_view_mode", "storage_date_format", "month_date_format",
  "storage_timezone", "invalid_date_policy", "fallback_months", "bundle_keys"]

def QuerySettings.decode (d : Dialect) (value : Json) : Option QuerySettings := do
  let get ← members? d QuerySettings.memberNames value
  let s := QuerySettings.standard
  return {
    entityKind := ← orElse (get "default_entity_kind") string? s.entityKind
    bundle := ← orElse (get "default_bundle") (nullable d string?) s.bundle
    statusField := ← orElse (get "status_field") string? s.statusField
    status := ← orElse (get "default_status") (nullable d int64?) s.status
    idField := ← orElse (get "id_field") string? s.idField
    window := ← orElse (get "default_range") (Window.decode d) s.window
    sort := ← orElse (get "default_sort") (decodeList (SortKey.decode d)) s.sort
    viewMode := ← orElse (get "default_view_mode") string? s.viewMode
    storagePattern := ← orElse (get "storage_date_format") string? s.storagePattern
    monthPattern := ← orElse (get "month_date_format") string? s.monthPattern
    timezone := ← orElse (get "storage_timezone") string? s.timezone
    invalidDates := ← orElse (get "invalid_date_policy") (InvalidDatePolicy.decode d) s.invalidDates
    fallbackMonths := ← orElse (get "fallback_months")
      (fun v => (natBelow? UInt32.size v).map UInt32.ofNat) s.fallbackMonths
    bundleFields := ← orElse (get "bundle_keys") decodeTexts s.bundleFields }

def CacheSettings.decode (d : Dialect) (value : Json) : Option CacheSettings := do
  let get ← members? d ["enabled", "capacity", "ttl_secs"] value
  let s := Config.standard.cache
  return ⟨← orElse (get "enabled") bool? s.enabled, ← orElse (get "capacity") count? s.capacity,
    ← orElse (get "ttl_secs") count? s.ttl⟩

def OutputSettings.decode (d : Dialect) (value : Json) : Option OutputSettings := do
  let get ← members? d ["pretty", "include_message"] value
  let s := Config.standard.output
  return ⟨← orElse (get "pretty") bool? s.pretty, ← orElse (get "include_message") bool? s.message⟩

def decodeOnly {α : Type} (d : Dialect) (name : String) (decode : Json → Option α) (default : α)
    (value : Json) : Option α := do
  orElse ((← members? d [name] value) name) decode default

def Config.decode (d : Dialect) (value : Json) : Option Config := do
  let get ← members? d ["query", "data", "cache", "output", "debug"] value
  let c := Config.standard
  return {
    query := ← orElse (get "query") (QuerySettings.decode d) c.query
    records := ← orElse (get "data") (decodeOnly d "records" (nullable d string?) none) c.records
    cache := ← orElse (get "cache") (CacheSettings.decode d) c.cache
    output := ← orElse (get "output") (OutputSettings.decode d) c.output
    verbosity := ← orElse (get "debug") (decodeOnly d "verbosity"
      (fun v => (natBelow? UInt8.size v).map UInt8.ofNat) 0) c.verbosity }

def Block.decode (d : Dialect) (value : Json) : Option Block := do
  let get ← members? d ["content_type", "view_mode"] value
  return ⟨← orElse (get "content_type") (nullable d string?) none,
    ← orElse (get "view_mode") (nullable d string?) none⟩

end Listing
