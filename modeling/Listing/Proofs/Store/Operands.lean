import Listing.Proofs.Decimal.Texts
import Listing.Store.Compare
import Listing.Store.Path

/-!
Fields and operands. A path of one segment leads to the value of a field. An operand counts as the number that its
text spells, so that a text ties with the operand of its own characters, unless it spells the missing number.
-/

namespace Listing.Store

/-! ### Fields -/

theorem step_field {record value : Json} {name : String} (held : record.field? name = some value) :
    step name.toList record = [value] := by
  cases record with
  | object own =>
    change own.lookup name = some value at held
    simp only [step, String.ofList_toList, held]
  | _ => cases held

/-- At the end of a path of one segment stands the value of the field, where it is neither a list nor missing. -/
theorem resolve_field {record value : Json} {name : String} (segment : '.' ∉ name.toList)
    (held : record.field? name = some value) (single : spread value = [value]) (solid : value.isNull = false) :
    resolve record name = [value] := by
  rw [resolve, List.splitOn_eq_singleton segment, walk_cons, List.flatMap_singleton, step_field held]
  simp [walk, single, solid]

/-! ### Operands -/

theorem operandNumber?_ofChars {cs : List Char} {d : Decimal.Double} (spelled : Decimal.number? cs = some d) :
    ∃ d', operandNumber? (Scalar.ofChars cs) = some d' ∧ d'.rank? = d.rank? := by
  unfold Scalar.ofChars
  split
  · rename_i k read
    obtain ⟨d', same, rank⟩ := Decimal.number?_of_int64? read
    obtain rfl := Option.some.inj (spelled.symm.trans same)
    exact ⟨_, rfl, rank.symm⟩
  · exact ⟨d, by rw [operandNumber?, String.toList_ofList, spelled], rfl⟩

theorem ofChars_of_text {cs : List Char} (text : Decimal.number? cs = none) :
    Scalar.ofChars cs = .text (String.ofList cs) := by
  unfold Scalar.ofChars
  split
  · rename_i k read
    obtain ⟨d, spelled, -⟩ := Decimal.number?_of_int64? read
    rw [text] at spelled
    cases spelled
  · rfl

theorem compareOperand_of_numbers {value : Json} {cs : List Char} {a b : Decimal.Double}
    (number : number? value = some a) (spelled : Decimal.number? cs = some b) :
    compareOperand value (Scalar.ofChars cs) = a.compare? b := by
  obtain ⟨b', operand, rank⟩ := operandNumber?_ofChars spelled
  rw [compareOperand, number, operand]
  exact Decimal.Double.compare?_congr rfl rank

theorem number?_ofList (cs : List Char) : number? (.text (String.ofList cs)) = Decimal.number? cs := by
  rw [number?, String.toList_ofList]

theorem compareOperand_own {cs : List Char} (known : ¬Decimal.SpellsNan cs) :
    compareOperand (.text (String.ofList cs)) (Scalar.ofChars cs) = some .eq := by
  cases spelled : Decimal.number? cs with
  | some d =>
    have number : d ≠ .nan := fun nan => known (Decimal.number?_eq_nan.mp (nan ▸ spelled))
    rw [compareOperand_of_numbers ((number?_ofList cs).trans spelled) spelled]
    exact (Decimal.Double.compare?_eq_eq number).mpr rfl
  | none =>
    have number := (number?_ofList cs).trans spelled
    simp [ofChars_of_text spelled, compareOperand, number, text?, Scalar.toString]

theorem compareOperand_own_of_nan {cs : List Char} (nan : Decimal.SpellsNan cs) :
    compareOperand (.text (String.ofList cs)) (Scalar.ofChars cs) = none := by
  have spelled := Decimal.number?_eq_nan.mpr nan
  rw [compareOperand_of_numbers ((number?_ofList cs).trans spelled) spelled]
  exact Decimal.Double.compare?_eq_none.mpr (.inl rfl)

end Listing.Store
