import Listing.Text.CaseTable

/-!
# Lower case

The full lower-case form of a text. A capital sigma that ends a word becomes a final sigma, and a
capital I with a dot becomes two characters; every other character has one lower-case form wherever
it stands.
-/

namespace Listing.Text

def lowerChar (c : Char) : Char :=
  match lowerRuns.find? (·.covers c.toNat) with
  | some run => Char.ofNat (c.toNat + run.shift).toNat
  | none => c

/-- Whether a cased letter comes next, ignorable characters passed over. -/
def meetsCased (cs : List Char) : Bool :=
  match cs.dropWhile isCaseIgnorable with
  | c :: _ => isCased c
  | [] => false

/-- Lower case for the rest of a text; `before` is what precedes it, the nearest character first. -/
def lowerFrom (before : List Char) : List Char → List Char
  | [] => []
  | c :: cs =>
    let here :=
      if c = 'Σ' then [if meetsCased before && !meetsCased cs then 'ς' else 'σ']
      else if c = 'İ' then ['i', '\u0307']
      else [lowerChar c]
    here ++ lowerFrom (c :: before) cs

def lower (cs : List Char) : List Char := lowerFrom [] cs

def upperAscii (cs : List Char) : List Char := cs.map Char.toUpper

end Listing.Text
