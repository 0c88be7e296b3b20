import Listing.Json.Printer
import Listing.Json.Reader
import Listing.Params

/-!
# Batches

Several requests in one JSON text: a list of objects, each a request with its keys in sorted order.
-/

namespace Listing.Batch

inductive Error where
  /-- No JSON, or no list of objects. -/
  | shape
  | value (key : String) (found : Json)

def Error.detail? : Error → Option String
  | shape => none
  | value key found =>
    some ("parameter '" ++ key ++ "' must be a string, got " ++ found.compact)

def textOf? : Json → Option String
  | .text s => some s
  | .number n => some n.text
  | .bool b => some (if b then "true" else "false")
  | _ => none

def request (fields : List (String × Json)) : Except Error Params := do
  let pairs ← fields.mapM fun (key, value) =>
    match textOf? value with
    | some text => .ok (key, text)
    | none => .error (.value key value)
  return OrderedMap.ofList pairs

def objects? : List Json → Option (List (List (String × Json)))
  | [] => some []
  | .object fields :: rest => (objects? rest).map (fields :: ·)
  | _ => none

def parse (text : String) : Except Error (List Params) :=
  match Json.parse? text with
  | some (.array items) =>
    match objects? items with
    | some requests => requests.mapM request
    | none => .error .shape
  | _ => .error .shape

end Listing.Batch
