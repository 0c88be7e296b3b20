import Mathlib.Algebra.Group.Nat.Defs
import Listing.Decimal.Double

/-!
Whole numbers as doubles. Those below 2 ^ 53 are doubles themselves, and no other whole number is rounded to one of
them. Two that are rounded to one double rank the same.
-/

namespace Listing.Decimal.Double

/-! ### Rounding -/

theorem spare_le {num k : Nat} (small : num < 2 ^ (53 + k)) : spare num ≤ k := by
  unfold spare
  by_cases zero : num = 0
  · rw [zero, Nat.log2_zero]
    omega
  · have bits := (Nat.log2_lt zero).mpr small
    omega

theorem roundUnits_one (num : Nat) :
    roundUnits num 1 =
      (if 2 * (num % 2 ^ spare num) > 2 ^ spare num ||
          (2 * (num % 2 ^ spare num) == 2 ^ spare num && num / 2 ^ spare num % 2 == 1)
        then num / 2 ^ spare num + 1 else num / 2 ^ spare num) * 2 ^ spare num := by
  have step : 1 * Nat.pow 2 (spare num) = 2 ^ spare num := Nat.one_mul _
  rw [roundUnits, Nat.div_one, step]
  rfl

/-- Nothing is rounded where the low bits that do not fit are zeros. -/
theorem roundUnits_of_dvd {num : Nat} (exact : 2 ^ spare num ∣ num) : roundUnits num 1 = num := by
  have positive : 0 < 2 ^ spare num := Nat.two_pow_pos _
  have tie : (2 * 0 == 2 ^ spare num) = false := beq_eq_false_iff_ne.mpr (by omega)
  rw [roundUnits_one, Nat.mod_eq_zero_of_dvd exact, tie]
  simp [Nat.div_mul_cancel exact]

theorem pow_le_roundUnits {num k : Nat} (large : 2 ^ k ≤ num) : 2 ^ k ≤ roundUnits num 1 := by
  have positive : num ≠ 0 := Nat.ne_of_gt (Nat.lt_of_lt_of_le (Nat.two_pow_pos k) large)
  have bits : k ≤ num.log2 := (Nat.le_log2 positive).mpr large
  have split : 2 ^ num.log2 = 2 ^ (num.log2 - spare num) * 2 ^ spare num := by
    rw [← Nat.pow_add]
    congr 1
    unfold spare
    omega
  -- What is left of the leading bit is in the quotient, which rounding does not lower.
  have quotient : 2 ^ (num.log2 - spare num) ≤ num / 2 ^ spare num := by
    rw [Nat.le_div_iff_mul_le (Nat.two_pow_pos _), ← split]
    exact Nat.log2_self_le positive
  refine Nat.le_trans (Nat.pow_le_pow_right (by decide) bits) ?_
  rw [roundUnits_one, split]
  apply Nat.mul_le_mul_right
  split <;> omega

/-! ### Ranks -/

/-- Fifty-three bits more than one whole has are far from the limit. -/
theorem exists_unity_eq : ∃ k, unity = 2 ^ k ∧ 2 ^ (53 + k) ≤ limit :=
  ⟨1074, Nat.pow_eq, Nat.pow_le_pow_right (by decide) (by decide)⟩

theorem limit_pos : 0 < limit := by
  obtain ⟨k, -, room⟩ := exists_unity_eq
  exact Nat.lt_of_lt_of_le (Nat.two_pow_pos _) room

theorem compare?_eq_eq {a b : Double} (number : a ≠ .nan) : a.compare? b = some .eq ↔ a.rank? = b.rank? := by
  obtain ⟨rank, ranked⟩ := Option.ne_none_iff_exists'.mp (mt rank?_eq_none.mp number)
  unfold compare?
  rw [ranked]
  cases b.rank? with
  | none => simp
  | some other => simp

theorem compare?_congr {a a' b b' : Double} (left : a.rank? = a'.rank?) (right : b.rank? = b'.rank?) :
    a.compare? b = a'.compare? b' := by
  rw [compare?, left, right, compare?]

theorem ofRatio_ne_nan (negative : Bool) (num den : Nat) : ofRatio negative num den ≠ .nan := by
  unfold ofRatio ofUnits
  split <;> exact nofun

theorem rank?_ofUnits (negative : Bool) (units : Nat) :
    (ofUnits negative units).rank? =
      some (if negative then -((min units limit : Nat) : Int) else (min units limit : Nat)) := by
  unfold ofUnits
  split
  · rename_i below
    rw [Nat.min_eq_left (Nat.le_of_lt below)]
    rfl
  · rename_i beyond
    rw [Nat.min_eq_right (Nat.le_of_not_lt beyond)]
    rfl

theorem ofUnits_eq_iff {m n : Nat} : ofUnits false m = ofUnits false n ↔ min m limit = min n limit := by
  constructor
  · intro same
    have ranks := congrArg rank? same
    rw [rank?_ofUnits, rank?_ofUnits] at ranks
    exact Int.ofNat_inj.mp (Option.some.inj ranks)
  · intro same
    unfold ofUnits
    by_cases below : m < limit
    · have other : m = n := by omega
      rw [other]
    · rw [if_neg below, if_neg (by omega)]

/-! ### Whole numbers -/

theorem ofInt_natCast (n : Nat) : ofInt n = ofRatio false n 1 := by
  have sign : decide ((n : Int) < 0) = false := by simp
  rw [ofInt, sign, Int.natAbs_natCast]

theorem rank?_ofInt_eq_iff {m n : Nat} : (ofInt m).rank? = (ofInt n).rank? ↔ ofInt m = ofInt n := by
  rw [ofInt_natCast, ofInt_natCast, ofRatio, ofRatio, rank?_ofUnits, rank?_ofUnits, ofUnits_eq_iff]
  exact Option.some_inj.trans Int.ofNat_inj

theorem compare?_ofInt_eq_eq {m n : Nat} : (ofInt m).compare? (ofInt n) = some .eq ↔ ofInt m = ofInt n :=
  (compare?_eq_eq (ofRatio_ne_nan _ _ _)).trans rank?_ofInt_eq_iff

theorem roundUnits_of_small {n : Nat} (small : n < 2 ^ 53) : roundUnits (n * unity) 1 = n * unity := by
  obtain ⟨k, unity, -⟩ := exists_unity_eq
  have low : spare (n * 2 ^ k) ≤ k := by
    apply spare_le
    rw [Nat.pow_add]
    exact Nat.mul_lt_mul_of_pos_right small (Nat.two_pow_pos _)
  rw [unity]
  exact roundUnits_of_dvd (Nat.dvd_mul_left_of_dvd (Nat.pow_dvd_pow 2 low) n)

theorem ofRatio_zero (negative : Bool) : ofRatio negative 0 1 = .finite negative 0 := by
  have exact : roundUnits (0 * unity) 1 = 0 * unity := roundUnits_of_small (by decide)
  rw [ofRatio, exact, Nat.zero_mul, ofUnits, if_pos limit_pos]

theorem rank?_ofInt_neg (n : Nat) : (ofInt (-n)).rank? = (ofRatio true n 1).rank? := by
  rcases Nat.eq_zero_or_pos n with rfl | positive
  · change (ofRatio false 0 1).rank? = _
    rw [ofRatio_zero, ofRatio_zero]
    rfl
  · have sign : decide (-(n : Int) < 0) = true := decide_eq_true (by omega)
    rw [ofInt, sign, Int.natAbs_neg, Int.natAbs_natCast]

/-- Digits are rounded as the number that they write is, with a sign of its own for zero. -/
theorem ofScientific_whole {n : Nat} (negative : Bool) (short : (Nat.toDigits 10 n).length ≤ 400) :
    ofScientific negative n 0 = ofRatio negative n 1 := by
  have some : ¬((Nat.toDigits 10 n).length + 0 : Int) < -400 := by omega
  have few : ¬(400 : Int) < (Nat.toDigits 10 n).length + 0 := by omega
  have one : n * Nat.pow 10 (0 : Int).toNat = n := Nat.mul_one n
  unfold ofScientific
  by_cases zero : n = 0
  · rw [zero, ofRatio_zero]
    rfl
  · simp only [zero, some, few, or_self, if_false, Int.le_refl, if_true, one]

theorem ofInt_eq_iff_of_small {m n : Nat} (small : n < 2 ^ 53) : ofInt m = ofInt n ↔ m = n := by
  have exact := roundUnits_of_small small
  rw [ofInt_natCast, ofInt_natCast, ofRatio, ofRatio, ofUnits_eq_iff, exact]
  refine ⟨fun same => ?_, fun same => by rw [same, exact]⟩
  obtain ⟨k, unity, room⟩ := exists_unity_eq
  rw [Nat.pow_add] at room
  have positive : 0 < 2 ^ k := Nat.two_pow_pos k
  have below : n * 2 ^ k < 2 ^ 53 * 2 ^ k := Nat.mul_lt_mul_of_pos_right small positive
  rcases Nat.lt_or_ge m (2 ^ 53) with fits | large
  · have below' : m * 2 ^ k < 2 ^ 53 * 2 ^ k := Nat.mul_lt_mul_of_pos_right fits positive
    rw [roundUnits_of_small fits, unity] at same
    exact Nat.eq_of_mul_eq_mul_right positive (by omega)
  · -- A larger number is not rounded below 2 ^ 53, and the limit is not below that either.
    have beyond : 2 ^ (53 + k) ≤ roundUnits (m * 2 ^ k) 1 := by
      apply pow_le_roundUnits
      rw [Nat.pow_add]
      exact Nat.mul_le_mul_right _ large
    rw [Nat.pow_add] at beyond
    rw [unity] at same
    omega

end Listing.Decimal.Double
