import Listing.OrderedMap
import Listing.Digest.Sha256

/-!
# Request parameters

A request is a flat map from keys to texts, in the order in which they were given. Its digest does
not see that order: `encoding` lists the entries sorted.
-/

namespace Listing

abbrev Params := OrderedMap String String

namespace Params

def entryLe (p q : String × String) : Bool :=
  match compare p.1 q.1 with
  | .lt => true
  | .gt => false
  | .eq => (compare p.2 q.2).isLE

def sortedEntries (p : Params) : List (String × String) := p.entries.mergeSort entryLe

/-- Each entry as key, unit separator, value, record separator. -/
def encodeEntry (entry : String × String) : List UInt8 :=
  entry.1.toUTF8.toList ++ 0x1F :: entry.2.toUTF8.toList ++ [0x1E]

def encoding (p : Params) : List UInt8 := p.sortedEntries.flatMap encodeEntry

/-- The key under which answers to a request are remembered. -/
def digest (p : Params) : String := Digest.Sha256.hex p.encoding

end Params
end Listing
