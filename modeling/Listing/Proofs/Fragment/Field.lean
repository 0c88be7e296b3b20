import Listing.Fragment.Field
import Listing.Proofs.Text.Cuts

/-!
The `field` grammar. A test that is written as its name, its value and its operator is read as just these,
whatever dashes the value holds. Only a comma starts another test.
-/

namespace Listing.Fragment
open Text

/-! ### Values -/

theorem required_eq_ok {key : Key} {raw : String} {cs : List Char} :
    required key raw = .ok cs ↔ isBlank raw.toList = false ∧ trim raw.toList = cs := by
  unfold required
  cases isBlank raw.toList with
  | true => simp
  | false => simp

theorem required_of_solid {key : Key} {cs : List Char} (held : cs ≠ []) (solid : ∀ c ∈ cs, isSpace c = false) :
    required key (String.ofList cs) = .ok cs := by
  obtain ⟨c, rest, rfl⟩ := List.exists_cons_of_ne_nil held
  have full : isBlank (c :: rest) = false := isBlank_of_mem List.mem_cons_self (solid c List.mem_cons_self)
  rw [required_eq_ok, String.toList_ofList]
  exact ⟨full, trim_of_solid solid⟩

/-- Blanks around a value are blanks around its entries, which are cut off anyway. -/
theorem entries_trim (cs : List Char) : entries (trim cs) = entries cs := by
  unfold entries
  rw [map_trim_splitOn (by decide)]

theorem entries_of_single {cs : List Char} (single : ',' ∉ cs) (trimmed : trim cs = cs) (held : cs ≠ []) :
    entries cs = [cs] := by
  rw [entries, List.splitOn_eq_singleton single, List.map_singleton, trimmed]
  exact List.filter_cons_of_pos (by simpa using held)

/-! ### Tests -/

def fieldText (name raw op : List Char) : List Char := name ++ dashes ++ (raw ++ dashes ++ op)

/-- The name ends at the first pair of dashes and the operator starts behind the last one. -/
theorem fieldTest_fieldText {name op : List Char} {operator : Operator} (raw : List Char) (named : name ≠ [])
    (whole : occurs dashes (name ++ ['-']) = false) (bare : occurs dashes ('-' :: op) = false)
    (known : Operator.ofChars? op = some operator) :
    fieldTest (fieldText name raw op) =
      ((test raw operator).mapError (malformed .field (fieldText name raw op))).map
        (Leaf.mk (String.ofList name)) := by
  have front : cut? dashes (fieldText name raw op) = some (name, raw ++ dashes ++ op) :=
    cut?_of_first _ (by decide) whole
  have back : cutLast? dashes (raw ++ dashes ++ op) = some (raw, op) :=
    cutLast?_of_last raw (by decide) bare
  have solid : name.isEmpty = false := by simpa using named
  simp only [fieldTest, front, back, solid, known, Bool.false_eq_true, if_false]
  cases test raw operator <;> rfl

theorem fieldTests_of_solid {cs : List Char} (solid : isBlank cs = false) :
    fieldTests (String.ofList cs) = (entries cs).mapM fieldTest := by
  have value : required .field (String.ofList cs) = .ok (trim cs) := by
    rw [required_eq_ok, String.toList_ofList]
    exact ⟨solid, rfl⟩
  rw [fieldTests, value, ← entries_trim]
  rfl

theorem fieldTests_of_single {cs : List Char} {leaf : Leaf} (single : ',' ∉ cs) (trimmed : trim cs = cs)
    (solid : isBlank cs = false) (read : fieldTest cs = .ok leaf) :
    fieldTests (String.ofList cs) = .ok [leaf] := by
  have held : cs ≠ [] := by
    rintro rfl
    cases solid
  rw [fieldTests_of_solid solid, entries_of_single single trimmed held, List.mapM_cons, read]
  rfl

end Listing.Fragment
