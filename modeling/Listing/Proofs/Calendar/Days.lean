import Mathlib.Data.String.Basic
import Listing.Proofs.Calendar.Numbers

/-!
Days whose year has four digits. Their text is read back as the same day, and the order of days is that of
their texts.
-/

namespace Listing.Calendar
open Text

/-- The year has one to four digits and no sign. -/
def Date.Plain (d : Date) : Prop := 0 ≤ d.year ∧ d.year ≤ 9999

instance (d : Date) : Decidable d.Plain := inferInstanceAs (Decidable (0 ≤ d.year ∧ d.year ≤ 9999))

namespace Date
variable {a b d : Date}

/-! ### Order -/

/-- A number for each day, in the order of days: a year has twelve months, and a month less than 32 days. -/
def rank (d : Date) : Int := (d.year * 12 + d.month) * 32 + d.day

theorem day_le (d : Date) : d.day ≤ 31 := by
  have valid := d.valid.2.2.2
  unfold daysIn at valid
  split at valid
  · split at valid <;> omega
  · split at valid <;> omega

theorem le_iff_rank : a ≤ b ↔ a.rank ≤ b.rank := by
  have first := a.valid
  have second := b.valid
  have short := a.day_le
  have short' := b.day_le
  change le a b ↔ _
  unfold le rank
  omega

/-! ### Texts -/

theorem Plain.toList_toString (plain : d.Plain) :
    d.toString.toList =
      padTo .zero 4 d.year.toNat ++ '-' :: (padTo .zero 2 d.month ++ '-' :: padTo .zero 2 d.day) := by
  simp [Date.toString, writeYear, plain.1, plain.2]

theorem Plain.year_lt (plain : d.Plain) : d.year.toNat < 10 ^ 4 := by
  have := plain.2
  omega

theorem ofYmd?_self (d : Date) : ofYmd? d.year d.month d.day = some d := dif_pos d.valid

theorem month_lt (d : Date) : d.month < 10 ^ 2 := by
  have := d.valid.2.1
  omega

theorem day_lt (d : Date) : d.day < 10 ^ 2 := by
  have := d.day_le
  omega

theorem Plain.toString_lt_iff (left : a.Plain) (right : b.Plain) : a.toString < b.toString ↔ a.rank < b.rank := by
  have years : (padTo .zero 4 a.year.toNat).length = (padTo .zero 4 b.year.toNat).length :=
    (length_padTo (by decide) left.year_lt).trans (length_padTo (by decide) right.year_lt).symm
  have months : (padTo .zero 2 a.month).length = (padTo .zero 2 b.month).length :=
    (length_padTo (by decide) a.month_lt).trans (length_padTo (by decide) b.month_lt).symm
  -- Both texts are parted at the same places, so the first number that differs decides.
  rw [String.lt_iff_toList_lt, left.toList_toString, right.toList_toString, append_lt_append_iff years,
    List.cons_lt_cons_iff, append_lt_append_iff months, List.cons_lt_cons_iff,
    padTo_lt_padTo_iff (by decide) left.year_lt right.year_lt, padTo_lt_padTo_iff (by decide) a.month_lt b.month_lt,
    padTo_lt_padTo_iff (by decide) a.day_lt b.day_lt, padTo_inj, padTo_inj]
  have first := a.valid
  have second := b.valid
  have short := a.day_le
  have short' := b.day_le
  have start := left.1
  have start' := right.1
  simp only [Char.lt_irrefl, false_or, true_and]
  unfold rank
  omega

theorem Plain.toString_ends (plain : d.Plain) :
    ∃ c middle c', d.toString.toList = c :: middle ++ [c'] ∧ c.isDigit = true ∧ c'.isDigit = true := by
  obtain ⟨c, cs, year, first⟩ := padTo_eq_cons 4 d.year.toNat
  obtain ⟨front, c', day, last⟩ := padTo_eq_concat 2 d.day
  refine ⟨c, cs ++ '-' :: (padTo .zero 2 d.month ++ '-' :: front), c', ?_, first, last⟩
  rw [plain.toList_toString, year, day]
  simp

theorem Plain.mem_toString (plain : d.Plain) {c : Char} (member : c ∈ d.toString.toList) :
    c.isDigit = true ∨ c = '-' := by
  rw [plain.toList_toString] at member
  simp only [List.mem_append, List.mem_cons] at member
  rcases member with year | dash | month | dash | day
  · exact .inl (isDigit_of_mem_padTo year)
  · exact .inr dash
  · exact .inl (isDigit_of_mem_padTo month)
  · exact .inr dash
  · exact .inl (isDigit_of_mem_padTo day)

theorem Plain.toString_solid (plain : d.Plain) : ∀ c ∈ d.toString.toList, isSpace c = false := by
  intro c member
  rcases plain.mem_toString member with digit | rfl
  · exact isSpace_of_isDigit digit
  · decide

theorem Plain.trim_toString (plain : d.Plain) : trim d.toString.toList = d.toString.toList :=
  trim_of_solid plain.toString_solid

end Date

/-! ### Patterns -/

section Items
variable {d : Date} {items : List Item} {readings : Readings} {rest : List Char}

theorem readItems_number {field : DateField} {slot : Slot} {n : Nat} (wide : 0 < field.bounds.width)
    (fits : n < 10 ^ field.bounds.width) (within : field.bounds.low ≤ n ∧ n ≤ field.bounds.high)
    (told : field.tells n = [(slot, (n : Int))]) (fresh : readings.lookup slot = none) :
    readItems (.number field .zero :: items) readings (padTo .zero field.bounds.width n ++ rest) =
      readItems items ((slot, (n : Int)) :: readings) rest := by
  simp only [readItems, readItem_number wide fits within told fresh]

theorem readItems_dash :
    readItems (.literal ['-'] :: items) readings ('-' :: rest) = readItems items readings rest := rfl

theorem readItems_year (plain : d.Plain) (fresh : readings.lookup .year = none) :
    readItems (.number .year .zero :: items) readings (padTo .zero 4 d.year.toNat ++ rest) =
      readItems items ((.year, d.year) :: readings) rest := by
  have whole : ((d.year.toNat : Nat) : Int) = d.year := Int.toNat_of_nonneg plain.1
  have within : DateField.year.bounds.low ≤ (d.year.toNat : Int) ∧
      (d.year.toNat : Int) ≤ DateField.year.bounds.high := by
    have most := plain.2
    simp only [DateField.bounds]
    omega
  exact (readItems_number (by decide) plain.year_lt within rfl fresh).trans (by rw [whole])

theorem readItems_month (d : Date) (fresh : readings.lookup .month = none) :
    readItems (.number .month .zero :: items) readings (padTo .zero 2 d.month ++ rest) =
      readItems items ((.month, (d.month : Int)) :: readings) rest := by
  have valid := d.valid.2.1
  exact readItems_number (by decide) d.month_lt (by simp only [DateField.bounds]; omega) rfl fresh

theorem readItems_day (d : Date) (fresh : readings.lookup .day = none) :
    readItems (.number .day .zero :: items) readings (padTo .zero 2 d.day ++ rest) =
      readItems items ((.day, (d.day : Int)) :: readings) rest := by
  have valid := d.valid.2.2.1
  have short := d.day_le
  exact readItems_number (by decide) d.day_lt (by simp only [DateField.bounds]; omega) rfl fresh

end Items

def Pattern.dashed : Pattern where
  source := "%Y-%m-%d"
  items := [.number .year .zero, .literal ['-'], .number .month .zero, .literal ['-'], .number .day .zero]

namespace Pattern
variable {d : Date}

theorem dashed_write? (m : Moment) : dashed.write? m = some m.date.toString := by
  have items : writeItems m dashed.items = some (writeYear .zero m.date.year ++ (['-'] ++
      (padTo .zero 2 m.date.month ++ (['-'] ++ (padTo .zero 2 m.date.day ++ []))))) := rfl
  rw [write?, items, Option.map_some, Date.toString]
  simp

theorem dashed_read? (plain : d.Plain) : dashed.read? d.toString.toList = some d := by
  have items : readItems dashed.items [] d.toString.toList =
      some [(.day, (d.day : Int)), (.month, (d.month : Int)), (.year, d.year)] := by
    rw [plain.toList_toString, dashed, readItems_year plain rfl, readItems_dash, readItems_month _ rfl, readItems_dash,
      ← List.append_nil (padTo .zero 2 d.day), readItems_day _ rfl]
    rfl
  have found : Readings.date? [(.day, (d.day : Int)), (.month, (d.month : Int)), (.year, d.year)] = some d := by
    change (Date.ofYmd? d.year d.month d.day).filter _ = some d
    rw [Date.ofYmd?_self, Option.filter_some, if_pos]
    simp [Slot.agrees]
  rw [read?, items]
  exact found

end Pattern
end Listing.Calendar
