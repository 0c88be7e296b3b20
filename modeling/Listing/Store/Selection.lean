import Listing.Query.Calls
import Listing.Store.Compare
import Listing.Store.Path

/-!
# Selections

A query on records in memory: the conditions that a record must meet, the sort keys, the window and the
tags. `selecting` is the storage whose calls build one.
-/

namespace Listing.Store

structure Selection where
  filters : List Condition
  sort : List SortKey
  window : Option Window
  tags : List String

namespace Selection

def empty : Selection := ⟨[], [], none, []⟩

def hasTag (s : Selection) (tag : String) : Bool := s.tags.contains tag

end Selection

/-- The storage of a memory store. It honours the random order. -/
def selecting : Storage Selection Group where
  newGroup conjunction := ⟨conjunction, []⟩
  addToGroup field test g := { g with children := g.children ++ [.test field test] }
  nest inner g := { g with children := g.children ++ [inner.toCondition] }
  condition field test s := { s with filters := s.filters ++ [.test field test] }
  group g s := { s with filters := s.filters ++ [g.toCondition] }
  sort field direction s := { s with sort := s.sort ++ [⟨field, direction⟩] }
  window w s := { s with window := some w }
  tag name s := { s with tags := s.tags ++ [name] }
  honours tag := tag == randomTag

mutual
/-- Whether a record meets a condition. A group without children is met. -/
def meets (record : Json) : Condition → Bool
  | .leaf l => passesTest (resolve record l.field) l.test
  | .group .and children => children.isEmpty || meetsAll record children
  | .group .or children => children.isEmpty || meetsSome record children

def meetsAll (record : Json) : List Condition → Bool
  | [] => true
  | c :: rest => meets record c && meetsAll record rest

def meetsSome (record : Json) : List Condition → Bool
  | [] => false
  | c :: rest => meets record c || meetsSome record rest
end

def Selection.admits (s : Selection) (record : Json) : Bool := meetsAll record s.filters

def orient : Direction → Ordering → Ordering
  | .asc, o => o
  | .desc, o => o.swap

/-- The order by one key. A record with a value comes before one without, whatever the direction. -/
def compareBy (key : SortKey) (a b : Json) : Ordering :=
  match (resolve a key.field).head?, (resolve b key.field).head? with
  | some x, some y => orient key.direction (compareValues x y)
  | some _, none => .lt
  | none, some _ => .gt
  | none, none => .eq

/-- The order by the first key that tells two records apart. -/
def compareRecords (keys : List SortKey) (a b : Json) : Ordering :=
  match keys with
  | [] => .eq
  | key :: rest =>
    match compareBy key a b with
    | .eq => compareRecords rest a b
    | o => o

end Listing.Store
