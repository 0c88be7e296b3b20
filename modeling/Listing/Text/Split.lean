/-!
# Separators

Cutting a text at the first or the last occurrence of a separator, at all of them, and looking for
one text inside another. `cut?_append` says what a cut keeps.
-/

namespace Listing.Text

/-- The text before and after the first occurrence of `sep`. -/
def cut? (sep : List Char) : List Char → Option (List Char × List Char)
  | [] => if sep.isEmpty then some ([], []) else none
  | c :: cs =>
    if sep.isPrefixOf (c :: cs) then some ([], (c :: cs).drop sep.length)
    else (cut? sep cs).map fun (before, after) => (c :: before, after)

/-- The text before and after the last occurrence of `sep`. -/
def cutLast? (sep : List Char) : List Char → Option (List Char × List Char)
  | [] => if sep.isEmpty then some ([], []) else none
  | c :: cs =>
    match cutLast? sep cs with
    | some (before, after) => some (c :: before, after)
    | none => if sep.isPrefixOf (c :: cs) then some ([], (c :: cs).drop sep.length) else none

def occurs (sought : List Char) : List Char → Bool
  | [] => sought.isEmpty
  | c :: cs => sought.isPrefixOf (c :: cs) || occurs sought cs

/-- The texts between the occurrences of a non-empty `sep`; the first `skip` characters belong to an
occurrence that has already been counted. -/
def splitAllFrom (sep : List Char) : Nat → List Char → List (List Char)
  | _, [] => [[]]
  | skip + 1, _ :: cs => splitAllFrom sep skip cs
  | 0, c :: cs =>
    if sep.isPrefixOf (c :: cs) then [] :: splitAllFrom sep (sep.length - 1) cs
    else (splitAllFrom sep 0 cs).modifyHead (c :: ·)

/-- The non-empty texts between the occurrences of `sep`. An empty separator stands between any two
characters. -/
def pieces (sep cs : List Char) : List (List Char) :=
  if sep.isEmpty then cs.map ([·])
  else (splitAllFrom sep 0 cs).filter (!·.isEmpty)

theorem isPrefixOf_iff_append {sep cs : List Char} :
    sep.isPrefixOf cs = true ↔ cs = sep ++ cs.drop sep.length := by
  rw [List.isPrefixOf_iff_prefix, List.prefix_iff_eq_append]
  exact eq_comm

theorem cut?_append {sep cs before after : List Char} (h : cut? sep cs = some (before, after)) :
    cs = before ++ sep ++ after := by
  induction cs generalizing before with
  | nil =>
    simp only [cut?] at h
    split at h
    · rename_i empty
      simp_all
    · cases h
  | cons c cs ih =>
    simp only [cut?] at h
    split at h
    · rename_i found
      cases h
      simpa using isPrefixOf_iff_append.mp found
    · obtain ⟨⟨b, a⟩, cut, same⟩ := Option.map_eq_some_iff.mp h
      cases same
      simpa using ih cut

end Listing.Text
