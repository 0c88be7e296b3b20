import Listing.Fragment.Field
import Listing.Fragment.Order
import Listing.Fragment.Terms
import Listing.Params
import Listing.Query.Descriptor
import Listing.Query.Settings

/-!
# Building descriptors

The parameters of a request are taken one by one into a draft, in their order. Keys outside the
language and blank values are passed over. Precedence between keys is settled at the end: a page over a
window, a category over an ignore list, and a page over a random order.
-/

namespace Listing

inductive BuildError where
  | fragment (error : FragmentError)
  | invalidDate (key : Key) (value : String)
  | settings (fault : QuerySettings.Fault)
  deriving DecidableEq

namespace BuildError

/-- A date that cannot be read is told apart from all other errors. -/
def ofFragment : FragmentError → BuildError
  | .invalidDate key value => invalidDate key value
  | error => fragment error

def message : BuildError → String
  | fragment error => error.message
  | invalidDate key value => (FragmentError.invalidDate key value).message
  | settings fault => "Invalid configuration: " ++ fault.message

end BuildError

/-- A descriptor with what travels beside it. -/
structure ParsedRequest where
  descriptor : Descriptor
  viewMode : String
  pager : Option PageSpec

/-- A request of which some parameters have been taken in. -/
structure Draft where
  descriptor : Descriptor
  viewMode : String
  pager : Option PageSpec
  window : Option Window
  ignored : Option Group

/-- Binds a field to a test; a field that has one takes the new test in its place. -/
def Draft.require (d : Draft) (field : String) (test : Test) : Draft :=
  { d with descriptor.conditions := d.descriptor.conditions.insert field test }

/-- Settings that can be used, and the day on which a window of today starts. -/
structure Builder where
  settings : QuerySettings
  formats : DateFormats
  offset : Calendar.Offset
  today : Calendar.Date

namespace Builder

def make (settings : QuerySettings) (today : Calendar.Date) : Except BuildError Builder := do
  let formats ← settings.formats.mapError .settings
  let offset ← settings.offset.mapError .settings
  return ⟨settings, formats, offset, today⟩

def blank (b : Builder) : Draft where
  descriptor := {
    entityKind := b.settings.entityKind
    bundleField := ""
    bundle := match b.settings.bundle with
      | some name => .one name
      | none => .any
    conditions := match b.settings.status with
      | some status => OrderedMap.insert ∅ b.settings.statusField (.equals (.int status))
      | none => ∅
    group := none
    dates := none
    window := b.settings.window
    sort := b.settings.sort
    random := false }
  viewMode := b.settings.viewMode
  pager := none
  window := none
  ignored := none

/-- The window that stands in for dates that cannot be read. -/
def recover (b : Builder) (raw : String) (error : FragmentError) :
    Except FragmentError Group :=
  match error, b.settings.invalidDates with
  | .invalidDate _ _, .fallback =>
    let field := Fragment.dateField raw
    if field.isEmpty then .error error
    else Fragment.fallback b.formats field b.today b.settings.fallbackMonths.toNat
  | _, _ => .error error

def dates (b : Builder) (read : DateFormats → String → Except FragmentError Group)
    (raw : String) : Except FragmentError Group :=
  match read b.formats raw with
  | .ok group => .ok group
  | .error error => b.recover raw error

def apply (b : Builder) (d : Draft) (raw : String) : Key → Except FragmentError Draft
  | .entityType => .ok { d with descriptor.entityKind := Text.trimmed raw }
  | .contentType => .ok { d with descriptor.bundle := .ofList (Fragment.bundles raw) }
  | .viewMode => .ok { d with viewMode := Text.trimmed raw }
  | .sticky => do return d.require "sticky" (.equals (← Fragment.scalar .sticky raw))
  | .nid => do return d.require b.settings.idField (.equals (← Fragment.scalar .nid raw))
  | .nids => do return d.require b.settings.idField (.isIn (← Fragment.idList raw))
  | .sort => do return { d with descriptor.sort := ← Fragment.sortKeys raw }
  | .range => do return { d with window := some (← Fragment.window raw) }
  | .paged => do return { d with pager := some (← Fragment.pageSpec raw) }
  | .field => do
    return (← Fragment.fieldTests raw).foldl (fun d leaf => d.require leaf.field leaf.test) d
  | .address => do
    let leaf ← Fragment.address raw
    return d.require leaf.field leaf.test
  | .category => do
    match ← Fragment.category raw with
    | some group => return { d with descriptor.group := some group }
    | none => return d
  | .categories => do
    match ← Fragment.categories raw with
    | some group => return { d with descriptor.group := some group }
    | none => return d
  | .categoryIgnore => do return { d with ignored := some (← Fragment.categoryIgnore raw) }
  | .date => do return { d with descriptor.dates := some (← b.dates Fragment.date raw) }
  | .byMonth => do return { d with descriptor.dates := some (← b.dates Fragment.month raw) }
  | .random => .ok { d with descriptor.random := Fragment.flag raw }

def take (b : Builder) (d : Draft) (entry : String × String) : Except BuildError Draft :=
  match Key.ofName? entry.1 with
  | none => .ok d
  | some key =>
    if Text.isBlank entry.2.toList then .ok d
    else (b.apply d entry.2 key).mapError .ofFragment

/-- Settles what one parameter leaves of another. -/
def finish (b : Builder) (d : Draft) : ParsedRequest where
  descriptor := { d.descriptor with
    group := match d.descriptor.group with
      | some group => some group
      | none => d.ignored
    random := d.descriptor.random && d.pager.isNone
    window := match d.pager, d.window with
      | some pager, _ => pager.window
      | none, some window => window
      | none, none => d.descriptor.window
    bundleField := b.settings.bundleField d.descriptor.entityKind }
  viewMode := d.viewMode
  pager := d.pager

def build (b : Builder) (p : Params) : Except BuildError ParsedRequest := do
  return b.finish (← p.entries.foldlM b.take b.blank)

end Builder
end Listing
