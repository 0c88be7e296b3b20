import Listing.Proofs.Fragment.Tests
import Listing.Proofs.Query.Changes
import Listing.Proofs.Store.Operands
import Listing.Store.Selection

/-!
Records asked for a text that they hold. A record passes just the tests that allow a tie, and none of them where the
text spells the missing number.
-/

namespace Listing
namespace Store
open Decimal (SpellsNan)

variable {cs : List Char} {operator : Operator}

theorem meets_test (record : Json) (field : String) (test : Test) :
    meets record (.test field test) = passesTest (resolve record field) test := by
  simp only [Condition.test, meets]

/-- A text passes the comparisons with its own characters that allow a tie, unless it ties with nothing. -/
theorem passes_own (single : operator ∈ [.eq, .ne, .le, .lt, .gt, .ge]) :
    passes (.text (String.ofList cs)) (Scalar.ofChars cs) operator = true ↔
      operator ∈ [.eq, .le, .ge] ∧ ¬SpellsNan cs := by
  have tie : ∀ op ∈ [Operator.eq, .ne, .le, .lt, .gt, .ge], (admits op .eq = true ↔ op ∈ [.eq, .le, .ge]) := by decide
  have order : passes (.text (String.ofList cs)) (Scalar.ofChars cs) operator =
      (compareOperand (.text (String.ofList cs)) (Scalar.ofChars cs)).any (admits operator) := by
    cases operator with
    | contains => simp at single
    | _ => rfl
  rw [order]
  by_cases nan : SpellsNan cs
  · simp [compareOperand_own_of_nan nan, nan]
  · simp [compareOperand_own nan, nan, tie operator single]

theorem listed_own : listed (.text (String.ofList cs)) [Scalar.ofChars cs] = true ↔ ¬SpellsNan cs := by
  by_cases nan : SpellsNan cs
  · simp [listed, compareOperand_own_of_nan nan, nan]
  · simp [listed, compareOperand_own nan, nan]

end Store

namespace Fragment

theorem items_of_undashed {raw : List Char} (held : raw ≠ []) (undashed : '-' ∉ raw) : items raw = [raw] := by
  rw [items, List.splitOn_eq_singleton undashed]
  exact List.filter_cons_of_pos (by simpa using held)

inductive TakesWhole : Operator → List Char → Prop
  | compare {operator : Operator} {raw : List Char} (single : operator ∈ [.eq, .ne, .le, .lt, .gt, .ge]) :
    TakesWhole operator raw
  | isIn {raw : List Char} (held : raw ≠ []) (undashed : '-' ∉ raw) : TakesWhole .isIn raw

theorem exists_makes {operator : Operator} {raw : List Char} (whole : TakesWhole operator raw) :
    ∃ test, operator.Makes raw test ∧
      (Store.passesTest [.text (String.ofList raw)] test = true ↔
        operator ∈ [.eq, .le, .ge, .isIn] ∧ ¬Decimal.SpellsNan raw) := by
  cases whole with
  | compare single =>
    have own : Store.passes (.text (String.ofList raw)) (Scalar.ofChars raw) operator = true ↔
        operator ∈ [.eq, .le, .ge] ∧ ¬Decimal.SpellsNan raw := Store.passes_own single
    simp only [List.mem_cons, List.not_mem_nil, or_false] at single
    rcases single with rfl | rfl | rfl | rfl | rfl | rfl
    · exact ⟨_, .equals, by simpa [Store.passesTest] using own⟩
    all_goals exact ⟨_, .compare (by decide), by simpa [Store.passesTest] using own⟩
  | isIn held undashed =>
    have item := items_of_undashed held undashed
    have made : Operator.isIn.Makes raw (.isIn ((items raw).map Scalar.ofChars)) := .isIn (by simp [item])
    exact ⟨_, made, by simp [Store.passesTest, item, Store.listed_own]⟩

theorem fieldTests_text {w : WrittenTest} (proper : w.Proper) {leaf : Leaf} :
    fieldTests (String.ofList w.text) = .ok [leaf] ↔ w.Means leaf := by
  have alone : WrittenTest.joined [w] = w.text := by simp [WrittenTest.joined]
  have read : fieldTests (String.ofList (WrittenTest.joined [w])) = .ok [leaf] ↔
      List.Forall₂ WrittenTest.Means [w] [leaf] :=
    fieldTests_joined_eq_ok (List.cons_ne_nil w []) (by simpa using proper)
  simpa [alone] using read

/-- A record that holds a text in a field meets a test that asks for this text there if the test allows a tie, and
fails it otherwise. It fails all of them if the text spells the missing number. -/
theorem meets_own_text {w : WrittenTest} {operator : Operator} {record : Json} (proper : w.Proper)
    (segment : '.' ∉ w.name) (known : Operator.ofChars? w.spelling = some operator)
    (whole : TakesWhole operator w.raw)
    (held : record.field? (String.ofList w.name) = some (.text (String.ofList w.raw))) :
    ∃ test, fieldTests (String.ofList w.text) = .ok [⟨String.ofList w.name, test⟩] ∧
      (∀ b : Builder, ∃ r, b.build (.ofList [("field", String.ofList w.text)]) = .ok r ∧
        r.descriptor.conditions = b.blank.descriptor.conditions.insert (String.ofList w.name) test) ∧
      (Store.meets record (.test (String.ofList w.name) test) = true ↔
        operator ∈ [.eq, .le, .ge, .isIn] ∧ ¬Decimal.SpellsNan w.raw) := by
  obtain ⟨test, makes, passes⟩ := exists_makes whole
  have means : w.Means ⟨String.ofList w.name, test⟩ := ⟨rfl, operator, known, makes⟩
  have read := (fieldTests_text proper).mpr means
  have values := Store.resolve_field (by simpa using segment) held rfl rfl
  refine ⟨test, read, fun b => ⟨_, Builder.build_single (Builder.changeOf_field read), rfl⟩, ?_⟩
  rw [Store.meets_test, values]
  exact passes

/-- An infinity is no greater than itself. -/
theorem infinity_meets_itself :
    let w : WrittenTest := ⟨"height".toList, "-Infinity".toList, "<=".toList⟩
    let record : Json := .object [("height", .text "-Infinity")]
    w.Proper ∧ '.' ∉ w.name ∧ Operator.ofChars? w.spelling = some .le ∧ TakesWhole .le w.raw ∧
      record.field? "height" = some (.text "-Infinity") ∧
      ∃ test, fieldTests "height---Infinity--<=" = .ok [⟨"height", test⟩] ∧
        Store.meets record (.test "height" test) = true := by
  intro w record
  have proper : w.Proper := by decide
  have known : Operator.ofChars? w.spelling = some .le := by decide
  have whole : TakesWhole .le w.raw := .compare (by decide)
  have held : record.field? "height" = some (.text "-Infinity") := rfl
  obtain ⟨test, read, -, meets⟩ := meets_own_text proper (by decide) known whole held
  exact ⟨proper, by decide, known, whole, held, test, read, meets.mpr ⟨by decide, by decide⟩⟩

/-- The missing number does not equal itself as an operand, although it ties with itself in every order. -/
theorem nan_fails_itself :
    fieldTests "title--NaN--=" = .ok [⟨"title", .equals (.text "NaN")⟩] ∧
      Store.meets (.object [("title", .text "NaN")]) (.test "title" (.equals (.text "NaN"))) = false ∧
      Store.compareValues (.text "NaN") (.text "NaN") = .eq := by
  decide

end Fragment
end Listing
