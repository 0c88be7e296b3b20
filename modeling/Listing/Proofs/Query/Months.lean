import Listing.Proofs.Fragment.Dates
import Listing.Query.Settings

/-!
Filters for a month. They are read as the date filter from the first to the last day of the month, whichever of
its days they name.
-/

namespace Listing.Fragment
open Calendar
variable {formats : DateFormats} {name : String} {d : Date}

/-- A month is the window of its days. -/
theorem month_reads_as_window (usual : QuerySettings.standard.formats = .ok formats) (field : FieldText name)
    (plain : d.Plain) :
    ∃ first last g, first.Plain ∧ last.Plain ∧
      (∀ x : Date, first ≤ x ∧ x ≤ last ↔ x.year = d.year ∧ x.month = d.month) ∧
      month formats (name ++ "--" ++ d.toDayFirst) = .ok g ∧
      date formats (name ++ "--" ++ first.toString ++ "," ++ last.toString) = .ok g ∧
      ∀ d' : Date, d'.year = d.year → d'.month = d.month →
        month formats (name ++ "--" ++ d'.toDayFirst) = .ok g := by
  obtain rfl : DateFormats.usual = formats := Except.ok.inj usual
  obtain ⟨last, found, finish⟩ := plain.exists_lastOfMonth
  have any : ∀ d' : Date, d'.year = d.year → d'.month = d.month →
      month .usual (name ++ "--" ++ d'.toDayFirst) =
        .ok (overlapOf name (.text d.firstOfMonth.toString) (.text last.toString)) := by
    intro d' year month
    have plain' : d'.Plain := by
      unfold Date.Plain
      rwa [year]
    have first : d'.firstOfMonth = d.firstOfMonth := Date.eq_of_parts year month rfl
    have found' : d'.lastOfMonth? = some last := by
      rw [Date.lastOfMonth?_eq_some, year, month]
      exact Date.lastOfMonth?_eq_some.mp found
    rw [month_written rfl field plain' found', first]
    exact overlap_dashed rfl name _ _
  exact ⟨d.firstOfMonth, last, _, plain, finish, fun x => Date.within_month_iff found, any d rfl rfl,
    date_written rfl field plain finish, any⟩

theorem leap_february_as_window :
    let d : Date := ⟨2024, 2, 10, by decide⟩
    let leap : Date := ⟨2024, 2, 29, by decide⟩
    QuerySettings.standard.formats = .ok .usual ∧ FieldText "when. due" ∧ d.Plain ∧
      ∃ first last g, first ≤ leap ∧ leap ≤ last ∧
        month .usual ("when. due" ++ "--" ++ d.toDayFirst) = .ok g ∧
        month .usual ("when. due" ++ "--" ++ leap.toDayFirst) = .ok g ∧
        date .usual ("when. due" ++ "--" ++ first.toString ++ "," ++ last.toString) = .ok g := by
  intro d leap
  have field : FieldText "when. due" := ⟨by decide, by decide, by decide, by decide⟩
  have plain : d.Plain := by decide
  obtain ⟨first, last, g, _, _, days, read, window, same⟩ :=
    month_reads_as_window (d := d) rfl field plain
  have within := (days leap).mpr ⟨rfl, rfl⟩
  exact ⟨rfl, field, plain, first, last, g, within.1, within.2, read, same leap rfl rfl, window⟩

end Listing.Fragment
