import Mathlib.Algebra.Group.Nat.Defs
import Mathlib.Data.List.TakeWhile
import Listing.Calendar.Reader
import Listing.Proofs.Text.Cuts

/-!
Numbers in a fixed number of digits. Such a number is read back whatever stands behind it, and the order of
numbers is that of their texts.
-/

namespace Listing.Calendar
open Text

/-! ### Digits -/

theorem padTo_zero (width n : Nat) :
    padTo .zero width n = List.replicate (width - (decimal n).length) '0' ++ decimal n := rfl

theorem length_padTo {width n : Nat} (wide : 0 < width) (fits : n < 10 ^ width) :
    (padTo .zero width n).length = width := by
  have short : (decimal n).length ≤ width := (Nat.length_toDigits_le_iff (by decide) wide).mpr fits
  rw [padTo_zero, List.length_append, List.length_replicate]
  omega

theorem isDigit_of_mem_padTo {width n : Nat} {c : Char} (member : c ∈ padTo .zero width n) : c.isDigit = true := by
  rw [padTo_zero] at member
  rcases List.mem_append.mp member with zero | digit
  · rw [List.eq_of_mem_replicate zero]
    decide
  · exact isDigit_of_mem_decimal digit

theorem cons_ne_of_isDigit {c sign : Char} {cs rest : List Char} (digit : c.isDigit = true)
    (bare : sign.isDigit = false) : c :: cs ≠ sign :: rest := by
  intro same
  rw [(List.cons.inj same).1, bare] at digit
  cases digit

theorem padTo_ne_nil (width n : Nat) : padTo .zero width n ≠ [] :=
  List.append_ne_nil_of_right_ne_nil _ (decimal_ne_nil n)

theorem padTo_eq_cons (width n : Nat) : ∃ c cs, padTo .zero width n = c :: cs ∧ c.isDigit = true := by
  obtain ⟨c, cs, digits⟩ := List.exists_cons_of_ne_nil (padTo_ne_nil width n)
  have first : c ∈ padTo .zero width n := digits ▸ List.mem_cons_self
  exact ⟨c, cs, digits, isDigit_of_mem_padTo first⟩

theorem padTo_eq_concat (width n : Nat) : ∃ cs c, padTo .zero width n = cs ++ [c] ∧ c.isDigit = true :=
  ⟨_, _, (List.dropLast_concat_getLast (padTo_ne_nil width n)).symm, isDigit_of_mem_padTo (List.getLast_mem _)⟩

theorem ofDigitChars_padTo (width n : Nat) : Nat.ofDigitChars 10 (padTo .zero width n) 0 = n := by
  rw [padTo_zero, Nat.ofDigitChars_append, Nat.ofDigitChars_replicate_zero, Nat.mul_zero]
  exact Nat.ofDigitChars_ten_toDigits

/-! ### Reading -/

theorem scanDigits?_padTo {width n : Nat} (wide : 0 < width) (fits : n < 10 ^ width) (rest : List Char) :
    scanDigits? width (padTo .zero width n ++ rest) = some (n, rest) := by
  have length := length_padTo wide fits
  have all : ∀ c ∈ padTo .zero width n, c.isDigit = true := fun _ => isDigit_of_mem_padTo
  have front : ((padTo .zero width n ++ rest).take width).takeWhile Char.isDigit = padTo .zero width n := by
    rw [List.take_left' length]
    exact List.takeWhile_eq_self_iff.mpr all
  have value : natural? (padTo .zero width n) = some n := by
    simp only [natural?, List.isEmpty_eq_false_iff.mpr (padTo_ne_nil width n), List.all_eq_true.mpr all,
      ofDigitChars_padTo, Bool.not_false, Bool.and_self, if_true]
  simp only [scanDigits?, front, value, Option.map_some, List.drop_left]

theorem scanNumber?_padTo {field : DateField} {n : Nat} (wide : 0 < field.bounds.width)
    (fits : n < 10 ^ field.bounds.width) (rest : List Char) :
    scanNumber? field (padTo .zero field.bounds.width n ++ rest) = some ((n : Int), rest) := by
  obtain ⟨c, cs, digits, digit⟩ := padTo_eq_cons field.bounds.width n
  have read := scanDigits?_padTo wide fits rest
  have solid : trimStart (padTo .zero field.bounds.width n ++ rest) = padTo .zero field.bounds.width n ++ rest := by
    rw [digits]
    exact trimStart_of_head _ (isSpace_of_isDigit digit)
  unfold scanNumber?
  rw [solid]
  -- A year may have a sign in front, but this one starts with a digit.
  split
  · rename_i signed
    rw [digits] at signed
    exact absurd signed (cons_ne_of_isDigit digit (by decide))
  · rename_i signed
    rw [digits] at signed
    exact absurd signed (cons_ne_of_isDigit digit (by decide))
  · rw [read]
    rfl

theorem readItem_number {readings : Readings} {field : DateField} {slot : Slot} {pad : Pad} {n : Nat}
    (wide : 0 < field.bounds.width) (fits : n < 10 ^ field.bounds.width)
    (within : field.bounds.low ≤ n ∧ n ≤ field.bounds.high) (told : field.tells n = [(slot, (n : Int))])
    (fresh : readings.lookup slot = none) (rest : List Char) :
    readItem readings (padTo .zero field.bounds.width n ++ rest) (.number field pad) =
      some ((slot, (n : Int)) :: readings, rest) := by
  have noted : noteNumber? readings field n = some ((slot, (n : Int)) :: readings) := by
    unfold noteNumber? note?
    rw [if_neg (by omega), told, List.foldlM_cons, fresh]
    rfl
  simp only [readItem, scanNumber?_padTo wide fits rest, noted, Option.bind_eq_bind, Option.bind_some]
  rfl

/-! ### Order -/

theorem append_lt_append_iff {a b c d : List Char} (same : a.length = b.length) :
    a ++ c < b ++ d ↔ a < b ∨ a = b ∧ c < d := by
  induction a generalizing b with
  | nil =>
    obtain rfl := List.length_eq_zero_iff.mp same.symm
    simp
  | cons x a ih =>
    obtain ⟨y, b, rfl⟩ := List.exists_cons_of_length_eq_add_one same.symm
    simp only [List.cons_append, List.cons_lt_cons_iff, ih (Nat.succ.inj same), List.cons.injEq, and_or_left,
      and_assoc, or_assoc]

theorem ofDigitChars_cons_zero (c : Char) (cs : List Char) :
    Nat.ofDigitChars 10 (c :: cs) 0 = 10 ^ cs.length * (c.toNat - '0'.toNat) + Nat.ofDigitChars 10 cs 0 := by
  rw [Nat.ofDigitChars_cons, Nat.ofDigitChars_eq_ofDigitChars_zero, Nat.mul_zero, Nat.zero_add]

theorem ofDigitChars_lt {cs : List Char} (digits : ∀ c ∈ cs, c.isDigit = true) :
    Nat.ofDigitChars 10 cs 0 < 10 ^ cs.length := by
  induction cs with
  | nil => decide
  | cons c cs ih =>
    obtain ⟨digit, later⟩ := List.forall_mem_cons.mp digits
    have limits := Char.isDigit_iff_toNat.mp digit
    have value : c.toNat - '0'.toNat ≤ 9 := Nat.sub_le_sub_right limits.2 '0'.toNat
    have most := Nat.mul_le_mul_left (10 ^ cs.length) value
    have rest := ih later
    rw [ofDigitChars_cons_zero, List.length_cons, Nat.pow_succ]
    omega

theorem digits_lt_iff {a b : List Char} (same : a.length = b.length) (left : ∀ c ∈ a, c.isDigit = true)
    (right : ∀ c ∈ b, c.isDigit = true) : a < b ↔ Nat.ofDigitChars 10 a 0 < Nat.ofDigitChars 10 b 0 := by
  induction a generalizing b with
  | nil =>
    obtain rfl := List.length_eq_zero_iff.mp same.symm
    simp
  | cons x a ih =>
    obtain ⟨y, b, rfl⟩ := List.exists_cons_of_length_eq_add_one same.symm
    obtain ⟨digit, left⟩ := List.forall_mem_cons.mp left
    obtain ⟨digit', right⟩ := List.forall_mem_cons.mp right
    have short : a.length = b.length := Nat.succ.inj same
    have below := (Char.isDigit_iff_toNat.mp digit).1
    have below' := (Char.isDigit_iff_toNat.mp digit').1
    have rest := ofDigitChars_lt left
    have rest' := ofDigitChars_lt right
    rw [List.cons_lt_cons_iff, ih short left right, ofDigitChars_cons_zero, ofDigitChars_cons_zero, ← short]
    rw [← short] at rest'
    rcases Nat.lt_trichotomy x.toNat y.toNat with less | equal | more
    · have gap := Nat.mul_le_mul_left (10 ^ a.length)
        (show x.toNat - '0'.toNat + 1 ≤ y.toNat - '0'.toNat by omega)
      rw [Nat.mul_succ] at gap
      exact ⟨fun _ => by omega, fun _ => .inl less⟩
    · obtain rfl := Char.toNat_inj.mp equal
      simp
    · have gap := Nat.mul_le_mul_left (10 ^ a.length)
        (show y.toNat - '0'.toNat + 1 ≤ x.toNat - '0'.toNat by omega)
      rw [Nat.mul_succ] at gap
      refine ⟨?_, fun _ => by omega⟩
      rintro (less | ⟨rfl, _⟩)
      · exact absurd less (Nat.lt_asymm more)
      · exact absurd more (Nat.lt_irrefl _)

theorem padTo_lt_padTo_iff {width m n : Nat} (wide : 0 < width) (left : m < 10 ^ width) (right : n < 10 ^ width) :
    padTo .zero width m < padTo .zero width n ↔ m < n := by
  have same : (padTo .zero width m).length = (padTo .zero width n).length :=
    (length_padTo wide left).trans (length_padTo wide right).symm
  rw [digits_lt_iff same (fun _ => isDigit_of_mem_padTo) (fun _ => isDigit_of_mem_padTo), ofDigitChars_padTo,
    ofDigitChars_padTo]

theorem padTo_inj {width m n : Nat} : padTo .zero width m = padTo .zero width n ↔ m = n := by
  refine ⟨fun same => ?_, fun same => same ▸ rfl⟩
  rw [← ofDigitChars_padTo width m, same, ofDigitChars_padTo]

end Listing.Calendar
