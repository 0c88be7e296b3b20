import Listing.Proofs.Calendar.Days

/-!
Months as stretches of days, and days that are written with the day in front. The days of a month are those
from its first to its last, and a day comes back from its text.
-/

namespace Listing.Calendar
open Text

namespace Date
variable {d last x : Date}

/-! ### Stretches of days -/

theorem eq_of_parts (year : last.year = d.year) (month : last.month = d.month) (day : last.day = d.day) : last = d := by
  cases last
  cases d
  simp only at year month day
  subst year month day
  rfl

theorem lastOfMonth?_eq_some :
    d.lastOfMonth? = some last ↔
      ¬(d.month = 12 ∧ d.year = maxYear) ∧ last.year = d.year ∧ last.month = d.month ∧
        last.day = daysIn d.year d.month := by
  unfold lastOfMonth?
  split
  · rename_i none
    simp [none]
  · rename_i later
    rw [Option.some.injEq]
    constructor
    · rintro rfl
      exact ⟨later, rfl, rfl, rfl⟩
    · rintro ⟨-, year, month, day⟩
      exact Eq.symm (eq_of_parts year month day)

theorem le_lastOfMonth_iff (found : d.lastOfMonth? = some last) :
    x ≤ last ↔ x.year < d.year ∨ x.year = d.year ∧ x.month ≤ d.month := by
  obtain ⟨-, year, month, day⟩ := lastOfMonth?_eq_some.mp found
  have valid := x.valid.2.2.2
  change le x last ↔ _
  unfold le
  rw [year, month, day]
  constructor
  · rintro (early | ⟨same, early | ⟨same', -⟩⟩)
    · exact .inl early
    · exact .inr ⟨same, Nat.le_of_lt early⟩
    · exact .inr ⟨same, Nat.le_of_eq same'⟩
  · rintro (early | ⟨same, early⟩)
    · exact .inl early
    · refine .inr ⟨same, ?_⟩
      rcases Nat.lt_or_eq_of_le early with before | within
      · exact .inl before
      · exact .inr ⟨within, same ▸ within ▸ valid⟩

theorem firstOfMonth_le_iff : d.firstOfMonth ≤ x ↔ d.year < x.year ∨ d.year = x.year ∧ d.month ≤ x.month := by
  have valid := x.valid.2.2.1
  change le d.firstOfMonth x ↔ _
  unfold le firstOfMonth
  dsimp only
  omega

/-- The days of a month are those from its first to its last. -/
theorem within_month_iff (found : d.lastOfMonth? = some last) :
    d.firstOfMonth ≤ x ∧ x ≤ last ↔ x.year = d.year ∧ x.month = d.month := by
  rw [firstOfMonth_le_iff, le_lastOfMonth_iff found]
  omega

theorem Plain.exists_lastOfMonth (plain : d.Plain) : ∃ last, d.lastOfMonth? = some last ∧ last.Plain := by
  have inside : ¬(d.month = 12 ∧ d.year = maxYear) := by
    have most := plain.2
    unfold maxYear
    omega
  refine ⟨_, if_neg inside, plain⟩

/-! ### Texts -/

def toDayFirst (d : Date) : String :=
  String.ofList (padTo .zero 2 d.day ++ '-' :: padTo .zero 2 d.month ++ '-' :: writeYear .zero d.year)

theorem Plain.toList_toDayFirst (plain : d.Plain) :
    d.toDayFirst.toList =
      padTo .zero 2 d.day ++ '-' :: (padTo .zero 2 d.month ++ '-' :: padTo .zero 4 d.year.toNat) := by
  simp [toDayFirst, writeYear, plain.1, plain.2]

theorem Plain.toDayFirst_solid (plain : d.Plain) : ∀ c ∈ d.toDayFirst.toList, isSpace c = false := by
  intro c member
  rw [plain.toList_toDayFirst] at member
  simp only [List.mem_append, List.mem_cons] at member
  rcases member with day | rfl | month | rfl | year
  · exact isSpace_of_isDigit (isDigit_of_mem_padTo day)
  · decide
  · exact isSpace_of_isDigit (isDigit_of_mem_padTo month)
  · decide
  · exact isSpace_of_isDigit (isDigit_of_mem_padTo year)

end Date

def Pattern.dayFirst : Pattern where
  source := "%d-%m-%Y"
  items := [.number .day .zero, .literal ['-'], .number .month .zero, .literal ['-'], .number .year .zero]

theorem Pattern.dayFirst_read? {d : Date} (plain : d.Plain) : dayFirst.read? d.toDayFirst.toList = some d := by
  have items : readItems dayFirst.items [] d.toDayFirst.toList =
      some [(.year, d.year), (.month, (d.month : Int)), (.day, (d.day : Int))] := by
    rw [plain.toList_toDayFirst, dayFirst, readItems_day _ rfl, readItems_dash, readItems_month _ rfl, readItems_dash,
      ← List.append_nil (padTo .zero 4 d.year.toNat), readItems_year plain rfl]
    rfl
  have found : Readings.date? [(.year, d.year), (.month, (d.month : Int)), (.day, (d.day : Int))] = some d := by
    change (Date.ofYmd? d.year d.month d.day).filter _ = some d
    rw [Date.ofYmd?_self, Option.filter_some, if_pos]
    simp [Slot.agrees]
  rw [read?, items]
  exact found

end Listing.Calendar
