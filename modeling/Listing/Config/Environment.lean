import Listing.Config.Basic

/-!
# Settings from the environment

Variables override the configuration. A value that cannot be read puts the default back.
-/

namespace Listing.Config

/-- Everything but `0` and `false`. -/
def isOn (value : String) : Bool :=
  value ≠ "0" && value.toList.map Char.toLower ≠ "false".toList

def override {α : Type} (setting : Option String) (read : String → α) (member : α) : α :=
  match setting with
  | some value => read value
  | none => member

def withEnvironment (c : Config) (env : String → Option String) : Config :=
  let d := Config.standard
  let natural (limit : Nat) (value : String) := Text.unsigned? limit value.toList
  let count (default : Count) (value : String) := (Text.unsignedCount? value.toList).getD default
  { query := { c.query with
      entityKind := override (env "EFQ_ENTITY_KIND") id c.query.entityKind
      bundle := override (env "EFQ_BUNDLE")
        (fun v => if Text.isBlank v.toList then none else some v) c.query.bundle
      status := override (env "EFQ_STATUS")
        (fun v =>
          if v.toList.map Char.toLower = "none".toList then none
          else (Text.int64? v.toList).orElse fun _ => d.query.status) c.query.status
      viewMode := override (env "EFQ_VIEW_MODE") id c.query.viewMode
      timezone := override (env "EFQ_TIMEZONE") id c.query.timezone
      invalidDates := override (env "EFQ_INVALID_DATE_POLICY")
        (fun v => if Text.lower v.toList = "fallback".toList then .fallback else .reject)
        c.query.invalidDates
      fallbackMonths := override (env "EFQ_FALLBACK_MONTHS")
        (fun v => match natural UInt32.size v with
          | some n => UInt32.ofNat n
          | none => d.query.fallbackMonths) c.query.fallbackMonths }
    records := override (env "EFQ_DATA") some c.records
    cache := {
      enabled := override (env "EFQ_CACHE") isOn c.cache.enabled
      capacity := override (env "EFQ_CACHE_CAPACITY") (count d.cache.capacity) c.cache.capacity
      ttl := override (env "EFQ_CACHE_TTL") (count d.cache.ttl) c.cache.ttl }
    output := c.output
    verbosity := override (env "EFQ_VERBOSITY")
      (fun v => match natural UInt8.size v with
        | some n => UInt8.ofNat n
        | none => 0) c.verbosity }

end Listing.Config
