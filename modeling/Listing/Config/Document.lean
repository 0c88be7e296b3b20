import Listing.Config.Decode
import Listing.Encoding
import Listing.Toml.Reader
import Listing.Toml.Writer

/-!
# Configuration files

A configuration as a TOML document. Members without a value are left out.
-/

namespace Listing
open Toml (quote Section)

def flagText (b : Bool) : String := if b then "true" else "false"

namespace QuerySettings

/-- The sections of the query settings, tables behind plain values. -/
def sections (s : QuerySettings) : List Section :=
  let optional (name : String) (value : Option String) := (value.map (name, ·)).toList
  let plain :=
    [("default_entity_kind", quote s.entityKind)] ++
    optional "default_bundle" (s.bundle.map quote) ++
    [("status_field", quote s.statusField)] ++
    optional "default_status" (s.status.map fun n => toString n.toInt) ++
    [("id_field", quote s.idField)] ++
    (if s.sort.isEmpty then [("default_sort", "[]")] else []) ++
    [("default_view_mode", quote s.viewMode), ("storage_date_format", quote s.storagePattern),
      ("month_date_format", quote s.monthPattern), ("storage_timezone", quote s.timezone),
      ("invalid_date_policy", quote s.invalidDates.name),
      ("fallback_months", toString s.fallbackMonths.toNat)]
  [⟨"[query]", plain⟩,
    ⟨"[query.default_range]", [("start", toString s.window.start.toNat),
      ("length", toString s.window.length.toNat)]⟩] ++
  s.sort.map (fun key => ⟨"[[query.default_sort]]",
    [("field", quote key.field), ("direction", quote key.direction.symbol)]⟩) ++
  [⟨"[query.bundle_keys]",
    s.bundleFields.entries.map fun (kind, field) => (Toml.key kind, quote field)⟩]

end QuerySettings

namespace Config

def toToml (c : Config) : String := Toml.renderSections <|
  c.query.sections ++ [
    ⟨"[data]", (c.records.map fun path => ("records", quote path)).toList⟩,
    ⟨"[cache]", [("enabled", flagText c.cache.enabled),
      ("capacity", toString c.cache.capacity.toNat), ("ttl_secs", toString c.cache.ttl.toNat)]⟩,
    ⟨"[output]", [("pretty", flagText c.output.pretty), ("include_message", flagText c.output.message)]⟩,
    ⟨"[debug]", [("verbosity", toString c.verbosity.toNat)]⟩]

def ofToml? (text : String) : Option Config := (Toml.parse? text).bind (Config.decode .toml)

end Config
end Listing
