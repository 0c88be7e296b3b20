import Mathlib.Data.List.TakeWhile
import Mathlib.Data.String.Basic
import Listing.Decimal.Reader
import Listing.Proofs.Decimal.Whole
import Listing.Proofs.Text.Numerals

/-!
What texts spell. Digits behind an optional sign spell the double that their value is rounded to, and the only
texts that spell the missing number are those that hold its name.
-/

namespace Listing.Decimal
open Text Double

/-! ### Names -/

theorem toLower_of_isAlpha_eq_false {c : Char} (other : c.isAlpha = false) : c.toLower = c := by
  have small : ¬(65 ≤ c.val ∧ c.val ≤ 90) := of_decide_eq_false (Bool.or_eq_false_iff.mp other).1
  exact dif_neg small

/-- A text with a character other than a letter is no name. -/
theorem unsignedNumber?_of_mem {c : Char} {cs : List Char} (negative : Bool) (member : c ∈ cs)
    (other : c.isAlpha = false) : unsignedNumber? negative cs = magnitude? negative cs := by
  have unnamed : ∀ name : String, name.toList.all Char.isAlpha = true → String.ofList (cs.map Char.toLower) ≠ name := by
    intro name letters same
    have held : c.toLower ∈ name.toList := String.ofList_eq.mp same ▸ List.mem_map_of_mem member
    have letter := List.all_eq_true.mp letters _ held
    rw [toLower_of_isAlpha_eq_false other, other] at letter
    cases letter
  unfold unsignedNumber?
  split
  · rename_i name
    exact absurd name (unnamed _ (by decide))
  · rename_i name
    exact absurd name (unnamed _ (by decide))
  · rename_i name
    exact absurd name (unnamed _ (by decide))
  · rfl

theorem ofScientific_ne_nan (negative : Bool) (digits : Nat) (exponent : Int) :
    ofScientific negative digits exponent ≠ .nan := by
  unfold ofScientific
  dsimp only
  split
  · exact nofun
  · split
    · exact nofun
    · split
      · exact ofRatio_ne_nan _ _ _
      · exact ofRatio_ne_nan _ _ _

theorem magnitude?_ne_nan (negative : Bool) (cs : List Char) : magnitude? negative cs ≠ some .nan := by
  unfold magnitude?
  dsimp only
  split
  all_goals
    split
    · exact nofun
    · intro read
      obtain ⟨e, -, nan⟩ := Option.map_eq_some_iff.mp read
      exact ofScientific_ne_nan _ _ _ nan

theorem unsignedNumber?_eq_nan {negative : Bool} {cs : List Char} :
    unsignedNumber? negative cs = some .nan ↔ cs.map Char.toLower = "nan".toList := by
  rw [← String.ofList_eq]
  unfold unsignedNumber?
  split
  · rename_i name
    rw [name]
    exact iff_of_false nofun (by decide)
  · rename_i name
    rw [name]
    exact iff_of_false nofun (by decide)
  · rename_i name
    exact iff_of_true rfl name
  · rename_i other
    exact iff_of_false (magnitude?_ne_nan negative cs) other

def SpellsNan (cs : List Char) : Prop :=
  ∃ sign ∈ [[], ['+'], ['-']], ∃ name, trim cs = sign ++ name ∧ name.map Char.toLower = "nan".toList

theorem number?_eq_nan {cs : List Char} : number? cs = some .nan ↔ SpellsNan cs := by
  unfold number? SpellsNan
  split
  · rename_i rest signed
    simp [signed, unsignedNumber?_eq_nan]
  · rename_i rest signed
    simp [signed, unsignedNumber?_eq_nan]
  · rename_i negative positive
    rw [unsignedNumber?_eq_nan]
    constructor
    · exact fun name => ⟨[], List.mem_cons_self, _, rfl, name⟩
    · rintro ⟨sign, listed, name, whole, named⟩
      simp only [List.mem_cons, List.not_mem_nil, or_false] at listed
      rcases listed with rfl | rfl | rfl
      · exact whole ▸ named
      · exact (positive name whole).elim
      · exact (negative name whole).elim

instance (cs : List Char) : Decidable (SpellsNan cs) := decidable_of_iff _ number?_eq_nan

/-! ### Digits -/

theorem isAlpha_of_isDigit {c : Char} (digit : c.isDigit = true) : c.isAlpha = false := by
  rw [isDigit_iff] at digit
  refine Bool.eq_false_iff.mpr fun letter => ?_
  rcases Bool.or_eq_true_iff.mp letter with upper | lower
  · have low : 65 ≤ c.toNat := UInt32.le_iff_toNat_le.mp (of_decide_eq_true upper).1
    omega
  · have low : 97 ≤ c.toNat := UInt32.le_iff_toNat_le.mp (of_decide_eq_true (Bool.and_eq_true_iff.mp lower).1)
    omega

theorem magnitude?_numeral {cs : List Char} {n : Nat} (negative : Bool) (numeral : Numeral cs n) :
    magnitude? negative cs = some (ofScientific negative n 0) := by
  have whole : cs.takeWhile Char.isDigit = cs := List.takeWhile_eq_self_iff.mpr numeral.digits
  have after : cs.dropWhile Char.isDigit = [] := List.dropWhile_eq_nil_iff.mpr numeral.digits
  have bare : exponent? [] = some 0 := rfl
  simp [magnitude?, whole, after, bare, numeral.nonempty, numeral.value]

theorem unsignedNumber?_numeral {cs : List Char} {n : Nat} (negative : Bool) (numeral : Numeral cs n)
    (word : n < UInt64.size) : unsignedNumber? negative cs = some (ofRatio negative n 1) := by
  obtain ⟨c, rest, rfl⟩ := List.exists_cons_of_ne_nil numeral.nonempty
  have other := isAlpha_of_isDigit (numeral.digits c List.mem_cons_self)
  have short : (Nat.toDigits 10 n).length ≤ 20 :=
    (Nat.length_toDigits_le_iff (by decide) (by decide)).mpr (Nat.lt_trans word (by decide))
  rw [unsignedNumber?_of_mem negative List.mem_cons_self other, magnitude?_numeral negative numeral,
    ofScientific_whole negative (by omega)]

/-- Digits behind one sign or none, blanks around them apart, spell a double that ranks as their value does. Only the
sign of a zero can tell the two apart. -/
theorem number?_of_signed {cs : List Char} {z : Int} (signed : Signed (trim cs) z) (word : z.natAbs < UInt64.size) :
    ∃ d, number? cs = some d ∧ d.rank? = (ofInt z).rank? := by
  rw [number?]
  generalize trim cs = text at signed ⊢
  cases signed with
  | minus numeral =>
    rw [Int.natAbs_neg, Int.natAbs_natCast] at word
    exact ⟨_, unsignedNumber?_numeral true numeral word, (rank?_ofInt_neg _).symm⟩
  | plus numeral => exact ⟨_, unsignedNumber?_numeral false numeral word, by rw [ofInt_natCast]⟩
  | bare numeral =>
    split
    · exact absurd List.mem_cons_self (numeral.notMem (c := '-') (by decide))
    · exact absurd List.mem_cons_self (numeral.notMem (c := '+') (by decide))
    · exact ⟨_, unsignedNumber?_numeral false numeral word, by rw [ofInt_natCast]⟩

theorem number?_of_int64? {cs : List Char} {k : Int64} (read : int64? cs = some k) :
    ∃ d, number? cs = some d ∧ d.rank? = (ofInt k.toInt).rank? := by
  have signed := signed_of_int64? read
  have low := k.le_toInt
  have high := k.toInt_lt
  have size : UInt64.size = 2 ^ 64 := rfl
  exact number?_of_signed ((trim_of_solid signed.solid).symm ▸ signed) (by omega)

theorem number?_of_unsignedCount? {cs : List Char} {n : Count} (read : unsignedCount? (trim cs) = some n) :
    ∃ d, number? cs = some d ∧ d.rank? = (ofInt n.toNat).rank? :=
  number?_of_signed (signed_of_unsignedCount? read) n.toNat_lt

end Listing.Decimal
