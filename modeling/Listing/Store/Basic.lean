import Listing.Json.Printer
import Listing.Json.Reader
import Listing.OrderedMap
import Listing.Text.Blank

/-!
# Record stores

Records in memory under their ids, in the order in which the ids first came. A record carries its own
id in one of its fields.
-/

namespace Listing

inductive ExecutionError where
  | query (detail : String)
  | invalidRecord (detail : String)
  | unavailable (detail : String)
  /-- The sort keys hold the records in no order. -/
  | disorder
  deriving DecidableEq

def ExecutionError.message : ExecutionError → String
  | query detail => "Query failed: " ++ detail
  | invalidRecord detail => "Invalid record: " ++ detail
  | unavailable detail => "Storage unavailable: " ++ detail
  | disorder => "user-provided comparison function does not correctly implement a total order"

inductive RecordFlaw where
  | notObject (value : Json)
  | noId (field : String) (record : Json)

def RecordFlaw.detail : RecordFlaw → String
  | notObject value => "expected an object, got " ++ value.compact
  | noId field record => "missing or non-numeric '" ++ field ++ "' in " ++ record.compact

inductive LoadError where
  | notJson
  | notList
  | record (flaw : RecordFlaw)

def LoadError.report : LoadError → ExecutionError
  | notJson => .unavailable "Invalid records JSON"
  | notList => .unavailable "Records JSON must be an array of objects"
  | record flaw => .invalidRecord flaw.detail

structure Store where
  idField : String
  records : OrderedMap Count Json

namespace Store

def empty (idField : String) : Store := ⟨idField, ∅⟩

/-- The id in a record: a count, or a text that spells one. -/
def idOf? (idField : String) (record : Json) : Option Count :=
  match record.field? idField with
  | some (.number (.natural n)) => some n
  | some (.text s) => Text.unsignedCount? (Text.trim s.toList)
  | _ => none

/-- Adds a record, in the place of the one with its id if there is one. -/
def insert (s : Store) (record : Json) : Except RecordFlaw (Count × Store) :=
  if !record.isObject then .error (.notObject record)
  else match idOf? s.idField record with
    | some id => .ok (id, { s with records := s.records.insert id record })
    | none => .error (.noId s.idField record)

def ofRecords (idField : String) (records : List Json) : Except RecordFlaw Store :=
  records.foldlM (fun s record => (s.insert record).map Prod.snd) (empty idField)

def ofJson (idField : String) (text : String) : Except LoadError Store :=
  match Json.parse? text with
  | none => .error .notJson
  | some (.array records) => (ofRecords idField records).mapError .record
  | some _ => .error .notList

def get? (s : Store) (id : Count) : Option Json := s.records.get? id

def size (s : Store) : Nat := s.records.size

end Store
end Listing
