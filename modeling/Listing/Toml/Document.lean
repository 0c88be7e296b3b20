import Listing.Json.Basic

/-!
# TOML documents

A document under construction, as a tree of tables. A header defines a table once; dotted keys add to
the tables that dotted keys made; an array of tables grows by one with each of its headers.
-/

namespace Listing.Toml

/-- How a table came to be. -/
inductive Origin where
  /-- On the way to the table of a header. -/
  | implied
  | header
  | dotted
  deriving DecidableEq

inductive Node where
  | leaf (value : Json)
  | table (origin : Origin) (entries : List (String × Node))
  /-- An array of tables, the latest one first. -/
  | series (tables : List (List (String × Node)))

abbrev Entries := List (String × Node)

mutual
def Node.toJson : Node → Json
  | .leaf value => value
  | .table _ entries => .ofFields (entriesToFields entries)
  | .series tables => .array (tablesToJson tables).reverse

def entriesToFields : List (String × Node) → List (String × Json)
  | [] => []
  | (name, node) :: rest => (name, node.toJson) :: entriesToFields rest

def tablesToJson : List (List (String × Node)) → List Json
  | [] => []
  | entries :: rest => .ofFields (entriesToFields entries) :: tablesToJson rest
end

namespace Entries

def toJson (entries : Entries) : Json := .ofFields (entriesToFields entries)

def replace (name : String) (node : Node) (entries : Entries) : Entries :=
  entries.map fun entry => if entry.1 == name then (name, node) else entry

/-- Acts on the table at the end of a path, made on the way where it is missing. Dotted keys do not
enter what a header defined. -/
def within (byDots : Bool) (act : Origin → Entries → Option Entries) :
    List String → Origin → Entries → Option Entries
  | [], origin, entries => act origin entries
  | name :: path, _, entries =>
    match entries.lookup name with
    | none =>
      let origin := if byDots then .dotted else .implied
      (within byDots act path origin []).map fun made => entries ++ [(name, .table origin made)]
    | some (.table origin inner) =>
      if byDots && origin == .header then none
      else (within byDots act path origin inner).map fun made =>
        replace name (.table origin made) entries
    | some (.series (latest :: earlier)) =>
      (within byDots act path .header latest).map fun made =>
        replace name (.series (made :: earlier)) entries
    | some _ => none

/-- Sets a key of the table at hand; `path` are the dotted parts before the last. -/
def assign (path : List String) (name : String) (value : Json) (origin : Origin)
    (entries : Entries) : Option Entries :=
  within true (fun origin entries =>
    if !path.isEmpty && origin != .dotted then none
    else if (entries.lookup name).isSome then none
    else some (entries ++ [(name, .leaf value)])) path origin entries

def assignUnder (header path : List String) (name : String) (value : Json) (root : Entries) :
    Option Entries :=
  within false (assign path name value) header .header root

def define (path : List String) (name : String) (root : Entries) : Option Entries :=
  within false (fun _ entries =>
    match entries.lookup name with
    | none => some (entries ++ [(name, .table .header [])])
    | some (.table .implied inner) => some (replace name (.table .header inner) entries)
    | some _ => none) path .header root

def extend (path : List String) (name : String) (root : Entries) : Option Entries :=
  within false (fun _ entries =>
    match entries.lookup name with
    | none => some (entries ++ [(name, .series [[]])])
    | some (.series tables) => some (replace name (.series ([] :: tables)) entries)
    | some _ => none) path .header root

end Entries
end Listing.Toml
