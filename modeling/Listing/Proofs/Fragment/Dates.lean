import Listing.Proofs.Fragment.DateReaders

/-!
Date filters that name a field and two days. They are read as the overlap with these days, whose texts come
back as they were given.
-/

namespace Listing.Fragment
open Calendar

structure FieldName (name : String) : Prop where
  nonempty : name.toList ≠ []
  solid : ∀ c ∈ name.toList, Text.isSpace c = false
  segment : '.' ∉ name.toList
  undashed : Text.occurs dashes name.toList = false
  last : name.toList.getLast? ≠ some '-'

variable {formats : DateFormats} {name : String} {first last : Date}

theorem solid_of_date {raw : String} {g : Group} (read : date formats raw = .ok g) :
    Text.isBlank raw.toList = false := by
  obtain ⟨_, _, _, names, _⟩ := DateReader.window.made read
  exact names.solid

theorem overlap_dashed (storage : formats.storage = .dashed) (name : String) (first last : Date) :
    overlap formats name first last = .ok (overlapOf name (.text first.toString) (.text last.toString)) := by
  have render : ∀ m, formats.render m = .ok (.text m.date.toString) := by
    intro m
    rw [DateFormats.render, storage, Pattern.dashed_write?]
  rw [overlap, render, render]
  rfl

/-! ### Written filters -/

/-- A name that ends where a date fragment has its first pair of dashes. -/
structure FieldText (name : String) : Prop where
  nonempty : name.toList ≠ []
  trimmed : Text.trim name.toList = name.toList
  undashed : Text.occurs dashes name.toList = false
  last : name.toList.getLast? ≠ some '-'

theorem FieldName.text (field : FieldName name) : FieldText name :=
  ⟨field.nonempty, Text.trim_of_solid field.solid, field.undashed, field.last⟩

/-- The name is cut off whole, and nothing is cut off what comes behind it. -/
theorem FieldText.cut (field : FieldText name) {rest : List Char} (held : rest ≠ [])
    (solid : ∀ c ∈ rest, Text.isSpace c = false) :
    Text.cut? dashes (Text.trim (name.toList ++ dashes ++ rest)) = some (name.toList, rest) := by
  obtain ⟨c, cs, own⟩ := List.exists_cons_of_ne_nil field.nonempty
  obtain ⟨front, back, rfl⟩ : ∃ front back, rest = front ++ [back] :=
    ⟨_, _, (List.dropLast_concat_getLast held).symm⟩
  have first : Text.isSpace c = false := Text.solid_of_trim (own ▸ field.trimmed)
  have last : Text.isSpace back = false := solid back (by simp)
  have trimmed : Text.trim (name.toList ++ dashes ++ (front ++ [back])) = name.toList ++ dashes ++ (front ++ [back]) := by
    have ends : name.toList ++ dashes ++ (front ++ [back]) = c :: (cs ++ dashes ++ front) ++ [back] := by
      rw [own]
      simp
    rw [ends]
    exact Text.trim_of_ends _ first last
  rw [trimmed]
  exact Text.cut?_of_first _ (List.cons_ne_nil _ _) (Text.occurs_pair_concat field.undashed field.last '-')

theorem date_written (storage : formats.storage = .dashed) (field : FieldText name) (start : first.Plain)
    (finish : last.Plain) :
    date formats (name ++ "--" ++ first.toString ++ "," ++ last.toString) =
      .ok (overlapOf name (.text first.toString) (.text last.toString)) := by
  have chars : (name ++ "--" ++ first.toString ++ "," ++ last.toString).toList =
      name.toList ++ dashes ++ (first.toString.toList ++ ',' :: last.toString.toList) := by
    simp [dashes]
  have solid : ∀ c ∈ first.toString.toList ++ ',' :: last.toString.toList, Text.isSpace c = false := by
    intro c member
    rcases List.mem_append.mp member with day | day
    · exact Date.Plain.toString_solid start c day
    · rcases List.mem_cons.mp day with rfl | day
      · decide
      · exact Date.Plain.toString_solid finish c day
  have days? : Text.cut? [','] (first.toString.toList ++ ',' :: last.toString.toList) =
      some (first.toString.toList, last.toString.toList) := by
    apply Text.cut?_singleton
    intro comma
    rcases start.mem_toString comma with digit | dash
    · exact absurd digit (by decide)
    · exact absurd dash (by decide)
  simp only [date, chars, field.cut (by simp) solid, days?, List.isEmpty_eq_false_iff.mpr field.nonempty,
    start.trim_toString, finish.trim_toString, storage, Pattern.dashed_read? start, Pattern.dashed_read? finish,
    Bool.false_eq_true, if_false, String.ofList_toList]
  exact overlap_dashed storage name first last

/-- The separators are found behind the field and behind the first day, and nothing is cut off the days. -/
theorem date_dashed (storage : formats.storage = .dashed) (field : FieldName name) (start : first.Plain)
    (finish : last.Plain) :
    date formats (name ++ "--" ++ first.toString ++ "," ++ last.toString) =
      .ok (overlapOf name (.text first.toString) (.text last.toString)) :=
  date_written storage field.text start finish

/-! ### Months -/

theorem month_written (day : formats.month = .dayFirst) (field : FieldText name) {d : Date} (plain : d.Plain)
    (found : d.lastOfMonth? = some last) :
    month formats (name ++ "--" ++ d.toDayFirst) = overlap formats name d.firstOfMonth last := by
  have chars : (name ++ "--" ++ d.toDayFirst).toList = name.toList ++ dashes ++ d.toDayFirst.toList := by
    simp [dashes]
  have held : d.toDayFirst.toList ≠ [] := by
    rw [plain.toList_toDayFirst]
    simp
  simp only [month, chars, field.cut held plain.toDayFirst_solid, List.isEmpty_eq_false_iff.mpr field.nonempty,
    Text.trim_of_solid plain.toDayFirst_solid, day, Pattern.dayFirst_read? plain, found, Bool.false_eq_true, if_false,
    String.ofList_toList]

end Listing.Fragment
