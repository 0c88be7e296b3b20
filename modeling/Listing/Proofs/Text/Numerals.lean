import Mathlib.Data.List.Induction
import Listing.Proofs.Text.Cuts

/-!
Numerals: runs of decimal digits and their values, which is what the readers of whole numbers take.
-/

namespace Listing.Text

/-- One or more decimal digits with their value. Zeros may lead. -/
structure Numeral (cs : List Char) (n : Nat) : Prop where
  nonempty : cs ≠ []
  digits : ∀ c ∈ cs, c.isDigit = true
  value : Nat.ofDigitChars 10 cs 0 = n

variable {cs : List Char} {n limit : Nat}

/-! ### Readers -/

theorem natural?_eq_some : natural? cs = some n ↔ Numeral cs n := by
  unfold natural?
  constructor
  · intro read
    split at read
    · rename_i accepted
      rw [Bool.and_eq_true, Bool.not_eq_true', List.isEmpty_eq_false_iff, List.all_eq_true] at accepted
      exact ⟨accepted.1, accepted.2, Option.some.inj read⟩
    · cases read
  · rintro ⟨nonempty, digits, value⟩
    have accepted : (!cs.isEmpty && cs.all Char.isDigit) = true := by
      rw [Bool.and_eq_true, Bool.not_eq_true', List.isEmpty_eq_false_iff, List.all_eq_true]
      exact ⟨nonempty, digits⟩
    rw [if_pos accepted, value]

theorem naturalBelow?_eq_some : naturalBelow? limit cs = some n ↔ Numeral cs n ∧ n < limit := by
  rw [naturalBelow?, Option.filter_eq_some_iff, natural?_eq_some, decide_eq_true_eq]

theorem count?_eq_some {count : Count} : count? cs = some count ↔ Numeral cs count.toNat := by
  unfold count?
  rw [Option.bind_eq_some_iff]
  constructor
  · rintro ⟨value, read, whole⟩
    exact Count.ofNat?_eq_some.mp whole ▸ natural?_eq_some.mp read
  · intro numeral
    exact ⟨count.toNat, natural?_eq_some.mpr numeral, Count.ofNat?_eq_some.mpr rfl⟩

/-! ### Shape -/

theorem numeral_decimal (n : Nat) : Numeral (decimal n) n := natural?_eq_some.mp (natural?_decimal n)

theorem decimal_of_isDigit {c : Char} (digit : c.isDigit = true) : decimal (c.toNat - 48) = [c] := by
  have range := isDigit_iff.mp digit
  have small : c.toNat - 48 < 10 := by omega
  have own : Nat.digitChar (c.toNat - 48) = c := by
    refine Char.toNat_inj.mp ?_
    rw [Nat.toNat_digitChar_of_lt_ten small]
    omega
  rw [decimal, Nat.toDigits_of_lt_base small, own]

namespace Numeral

theorem notMem {c : Char} (numeral : Numeral cs n) (odd : c.isDigit = false) : c ∉ cs := by
  intro member
  rw [numeral.digits c member] at odd
  cases odd

theorem eq_cons (numeral : Numeral cs n) : ∃ c rest, cs = c :: rest ∧ isSpace c = false := by
  obtain ⟨c, rest, rfl⟩ := List.exists_cons_of_ne_nil numeral.nonempty
  exact ⟨c, rest, rfl, isSpace_of_isDigit (numeral.digits c List.mem_cons_self)⟩

theorem eq_concat (numeral : Numeral cs n) : ∃ front c, cs = front ++ [c] ∧ isSpace c = false := by
  have whole := (List.dropLast_concat_getLast numeral.nonempty).symm
  exact ⟨_, _, whole, isSpace_of_isDigit (numeral.digits _ (List.getLast_mem numeral.nonempty))⟩

theorem solid (numeral : Numeral cs n) : ∀ c ∈ cs, isSpace c = false :=
  fun c member => isSpace_of_isDigit (numeral.digits c member)

/-- Leading zeros apart, a value has one numeral. -/
theorem eq_decimal_or_lt (numeral : Numeral cs n) : cs = decimal n ∨ (decimal n).length < cs.length := by
  obtain ⟨nonempty, digits, value⟩ := numeral
  induction cs using List.reverseRecOn generalizing n with
  | nil => exact absurd rfl nonempty
  | append_singleton cs c ih =>
    obtain ⟨front, digit⟩ : (∀ d ∈ cs, d.isDigit = true) ∧ c.isDigit = true := by
      simpa only [List.forall_mem_append, List.forall_mem_singleton] using digits
    have last := decimal_of_isDigit digit
    rw [Nat.ofDigitChars_append, Nat.ofDigitChars_cons] at value
    change 10 * Nat.ofDigitChars 10 cs 0 + (c.toNat - 48) = n at value
    rcases Nat.eq_zero_or_pos (Nat.ofDigitChars 10 cs 0) with zero | held
    · obtain rfl : c.toNat - 48 = n := by omega
      rw [last]
      cases cs with
      | nil => exact .inl rfl
      | cons d cs => exact .inr (by simp)
    · have small : c.toNat - 48 < 10 := by
        have := isDigit_iff.mp digit
        omega
      have whole : decimal n = decimal (Nat.ofDigitChars 10 cs 0) ++ [c] := by
        rw [← last, ← value]
        exact (Nat.toDigits_append_toDigits (by decide) held small).symm
      have known : cs ≠ [] := by
        rintro rfl
        exact absurd held (by decide)
      rw [whole]
      rcases ih known front rfl with same | longer
      · exact .inl (congrArg (· ++ [c]) same)
      · exact .inr (by simpa using longer)

end Numeral

/-! ### Signs -/

inductive Signed : List Char → Int → Prop
  | minus {cs : List Char} {n : Nat} (numeral : Numeral cs n) : Signed ('-' :: cs) (-n)
  | plus {cs : List Char} {n : Nat} (numeral : Numeral cs n) : Signed ('+' :: cs) n
  | bare {cs : List Char} {n : Nat} (numeral : Numeral cs n) : Signed cs n

theorem integer?_eq_some {z : Int} : integer? cs = some z ↔ Signed cs z := by
  constructor
  · intro read
    have value : ∀ (f : Int → Int) (digits : List Char),
        (do return (← natural? digits : Int)).map f = some z → ∃ n : Nat, Numeral digits n ∧ f n = z := by
      intro f digits same
      obtain ⟨_, found, rfl⟩ := Option.map_eq_some_iff.mp same
      obtain ⟨n, numeral, cast⟩ := Option.bind_eq_some_iff.mp found
      exact ⟨n, natural?_eq_some.mp numeral, congrArg f (Option.some.inj cast)⟩
    unfold integer? at read
    split at read
    · obtain ⟨n, numeral, rfl⟩ := value _ _ read
      exact .minus numeral
    · obtain ⟨n, numeral, rfl⟩ := value _ _ read
      exact .plus numeral
    · obtain ⟨n, numeral, rfl⟩ := value _ _ read
      exact .bare numeral
  · rintro (numeral | numeral | numeral)
    · simp [integer?, natural?_eq_some.mpr numeral]
    · simp [integer?, natural?_eq_some.mpr numeral]
    · rw [integer?]
      · simp [natural?_eq_some.mpr numeral]
      · rintro rest rfl
        exact absurd List.mem_cons_self (numeral.notMem (c := '-') (by decide))
      · rintro rest rfl
        exact absurd List.mem_cons_self (numeral.notMem (c := '+') (by decide))

theorem Signed.solid {z : Int} (signed : Signed cs z) : ∀ c ∈ cs, isSpace c = false := by
  cases signed with
  | minus numeral => exact List.forall_mem_cons.mpr ⟨by decide, numeral.solid⟩
  | plus numeral => exact List.forall_mem_cons.mpr ⟨by decide, numeral.solid⟩
  | bare numeral => exact numeral.solid

theorem toList_toString_neg {n : Nat} (held : n ≠ 0) : (toString (-(n : Int))).toList = '-' :: decimal n := by
  obtain ⟨m, rfl⟩ := Nat.exists_eq_succ_of_ne_zero held
  change ("-" ++ toString (m + 1)).toList = _
  rw [String.toList_append]
  exact congrArg ('-' :: ·) String.toList_ofList

theorem Signed.eq_toString_or_lt {z : Int} (signed : Signed cs z) :
    cs = (toString z).toList ∨ (toString z).toList.length < cs.length := by
  have bare : ∀ n : Nat, (toString (n : Int)).toList = decimal n := fun _ => String.toList_ofList
  cases signed with
  | @minus cs n numeral =>
    rcases eq_or_ne n 0 with rfl | held
    · exact .inr (Nat.succ_lt_succ (List.length_pos_iff.mpr numeral.nonempty))
    · rw [toList_toString_neg held]
      exact numeral.eq_decimal_or_lt.imp (congrArg ('-' :: ·)) Nat.succ_lt_succ
  | @plus cs n numeral =>
    rw [bare]
    refine .inr (Nat.lt_succ_of_le ?_)
    rcases numeral.eq_decimal_or_lt with same | longer
    · exact Nat.le_of_eq (congrArg List.length same).symm
    · exact Nat.le_of_lt longer
  | @bare _ n numeral =>
    rw [bare]
    exact numeral.eq_decimal_or_lt

theorem signed_toString (z : Int) : Signed (toString z).toList z := by
  cases z with
  | ofNat n => exact String.toList_ofList ▸ .bare (numeral_decimal n)
  | negSucc n => exact toList_toString_neg n.succ_ne_zero ▸ .minus (numeral_decimal n.succ)

theorem Signed.notMem {c : Char} {z : Int} (signed : Signed cs z) (odd : c.isDigit = false)
    (unsigned : c ≠ '-' ∧ c ≠ '+') : c ∉ cs := by
  cases signed with
  | minus numeral => exact List.not_mem_cons_of_ne_of_not_mem unsigned.1 (numeral.notMem odd)
  | plus numeral => exact List.not_mem_cons_of_ne_of_not_mem unsigned.2 (numeral.notMem odd)
  | bare numeral => exact numeral.notMem odd

theorem signed_of_int64? {k : Int64} (read : int64? cs = some k) : Signed cs k.toInt := by
  obtain ⟨z, signed, fits⟩ := Option.bind_eq_some_iff.mp read
  split at fits
  · rename_i range
    obtain rfl := Option.some.inj fits
    rw [Int64.toInt_ofInt_of_le range.1 (Int.lt_add_one_of_le range.2)]
    exact integer?_eq_some.mp signed
  · cases fits

theorem int64?_eq_some {k : Int64} : int64? cs = some k ↔ Signed cs k.toInt := by
  refine ⟨signed_of_int64?, fun signed => ?_⟩
  have low := Int64.le_toInt k
  have high := Int64.toInt_lt k
  rw [int64?, integer?_eq_some.mpr signed, Option.bind_some, if_pos (by omega), Int64.ofInt_toInt]

/-- A text that is no integer of 64 bits, or is written as that integer prints. -/
def Canonical (cs : List Char) : Prop := ∀ k : Int64, Signed cs k.toInt → cs = (toString k.toInt).toList

theorem canonical_iff : Canonical cs ↔ (int64? cs).all (fun k => cs == (toString k.toInt).toList) = true := by
  simp only [Canonical, Option.all_eq_true, beq_iff_eq, int64?_eq_some]

instance (cs : List Char) : Decidable (Canonical cs) := decidable_of_iff' _ canonical_iff

inductive Unsigned : List Char → Nat → Prop
  | plus {cs : List Char} {n : Nat} (numeral : Numeral cs n) : Unsigned ('+' :: cs) n
  | bare {cs : List Char} {n : Nat} (numeral : Numeral cs n) : Unsigned cs n

theorem Unsigned.signed (unsigned : Unsigned cs n) : Signed cs n := by
  cases unsigned with
  | plus numeral => exact .plus numeral
  | bare numeral => exact .bare numeral

theorem unsigned?_eq_some : unsigned? limit cs = some n ↔ Unsigned cs n ∧ n < limit := by
  constructor
  · intro read
    unfold unsigned? at read
    split at read
    · exact (naturalBelow?_eq_some.mp read).imp_left .plus
    · exact (naturalBelow?_eq_some.mp read).imp_left .bare
  · rintro ⟨numeral | numeral, small⟩
    · exact naturalBelow?_eq_some.mpr ⟨numeral, small⟩
    · rw [unsigned?]
      · exact naturalBelow?_eq_some.mpr ⟨numeral, small⟩
      · rintro rest rfl
        exact absurd List.mem_cons_self (numeral.notMem (c := '+') (by decide))

theorem unsignedCount?_eq_some {count : Count} : unsignedCount? cs = some count ↔ Unsigned cs count.toNat := by
  rw [unsignedCount?, Option.map_eq_some_iff]
  constructor
  · rintro ⟨n, read, rfl⟩
    obtain ⟨unsigned, word⟩ := unsigned?_eq_some.mp read
    rwa [UInt64.toNat_ofNat_of_lt' word]
  · intro unsigned
    exact ⟨count.toNat, unsigned?_eq_some.mpr ⟨unsigned, count.toNat_lt⟩, UInt64.ofNat_toNat⟩

theorem signed_of_unsignedCount? {count : Count} (read : unsignedCount? cs = some count) :
    Signed cs count.toNat :=
  (unsignedCount?_eq_some.mp read).signed

end Listing.Text
