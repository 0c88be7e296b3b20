import Listing.Proofs.Calendar.Months
import Listing.Proofs.Fragment.Shape

/-!
The two readers of dates. Each finds a field and two days and makes their overlap, or calls the dates invalid.
The field that they find is the field of the fragment, with the blanks that stand before its pair of dashes.
-/

namespace Listing

def DateFormats.usual : DateFormats := ⟨.dashed, .dayFirst⟩

theorem DateFormats.make_usual : make "%Y-%m-%d" "%d-%m-%Y" = .ok usual := rfl

namespace Fragment
open Calendar

inductive DateReader : Key → (DateFormats → String → Except FragmentError Group) → Prop
  | window : DateReader .date date
  | month : DateReader .byMonth month

/-- What stands before the first pair of dashes is there. -/
def Names (raw : String) (field : List Char) : Prop :=
  field ≠ [] ∧ ∃ rest, Text.cut? dashes (Text.trim raw.toList) = some (field, rest)

variable {key : Key} {read : DateFormats → String → Except FragmentError Group} {formats : DateFormats}
  {raw : String} {field : List Char} {g : Group}

/-! ### Results -/

theorem DateReader.cases (reader : DateReader key read) (formats : DateFormats) (raw : String) :
    read formats raw = .error (.invalidDate key (Text.trimmed raw)) ∨
      ∃ field first last, Names raw field ∧ read formats raw = overlap formats (String.ofList field) first last := by
  cases reader with
  | window =>
    simp only [Fragment.date]
    split
    · exact .inl rfl
    rename_i field _ found
    split
    · exact .inl rfl
    split
    · exact .inl rfl
    rename_i named
    split
    · rename_i first last _ _
      exact .inr ⟨field, first, last, ⟨by simpa using named, _, found⟩, rfl⟩
    · exact .inl rfl
  | month =>
    simp only [Fragment.month]
    split
    · exact .inl rfl
    rename_i field _ found
    split
    · exact .inl rfl
    rename_i named
    split
    · exact .inl rfl
    rename_i day _
    split
    · exact .inl rfl
    rename_i last _
    exact .inr ⟨field, day.firstOfMonth, last, ⟨by simpa using named, _, found⟩, rfl⟩

theorem DateReader.made (reader : DateReader key read) (ok : read formats raw = .ok g) :
    ∃ field first last, Names raw field ∧ overlap formats (String.ofList field) first last = .ok g := by
  rcases reader.cases formats raw with invalid | ⟨field, first, last, names, same⟩
  · rw [ok] at invalid
    cases invalid
  · exact ⟨field, first, last, names, same.symm.trans ok⟩

theorem Names.solid (names : Names raw field) : Text.isBlank raw.toList = false := by
  obtain ⟨_, rest, found⟩ := names
  rw [← Bool.not_eq_true]
  intro blank
  rw [Text.trim_of_isBlank blank] at found
  cases found

/-! ### Fields -/

theorem Names.dateField (names : Names raw field) : dateField raw = String.ofList (Text.trimEnd field) := by
  obtain ⟨named, rest, found⟩ := names
  obtain ⟨lead, trail, whole, blank⟩ := Text.exists_of_trim raw.toList
  have undashed : '-' ∉ lead := fun dash => absurd (blank '-' dash) (by decide)
  -- The readers trim and then cut, `dateField` cuts and then trims: the blanks in front of the fragment come with
  -- its field and go again, and those behind the field go as well.
  have cut : Text.cut? dashes raw.toList = some (lead ++ field, rest ++ trail) := by
    rw [whole, List.append_assoc, dashes, Text.cut?_pair_append _ undashed, ← dashes,
      Text.cut?_append_right (by decide) trail found]
    rfl
  have front : Text.trimStart field = field := by
    obtain ⟨c, cs, rfl⟩ := List.exists_cons_of_ne_nil named
    have own := Text.cut?_append found
    exact Text.trimStart_of_head _ (Text.solid_of_trim (own ▸ Text.trim_trim raw.toList))
  simp only [Fragment.dateField, cut, Text.trim, Text.trimStart_append_of_blank blank, front]

end Fragment

def Group.OnDays (g : Group) (field : String) : Prop :=
  ∀ leaf ∈ g.leaves, leaf.field = field ++ ".0.value" ∨ leaf.field = field ++ ".0.end_value"

namespace Fragment
open Calendar
variable {key : Key} {read : DateFormats → String → Except FragmentError Group} {formats : DateFormats} {raw : String}
  {g : Group}

theorem overlapOf_fields (field : String) (first last : Scalar) :
    (overlapOf field first last).leaves.map Leaf.field =
      [field ++ ".0.value", field ++ ".0.end_value", field ++ ".0.value", field ++ ".0.end_value",
        field ++ ".0.value", field ++ ".0.end_value"] := rfl

theorem append_days_inj {field other : String} :
    field ++ ".0.value" = other ++ ".0.value" ↔ field = other := by
  rw [← String.toList_inj, String.toList_append, String.toList_append, List.append_left_inj, String.toList_inj]

theorem append_value_ne (field other : String) : field ++ ".0.value" ≠ other ++ ".0.end_value" := by
  intro same
  have chars : field.toList ++ ".0.value".toList = (other.toList ++ ".0.e".toList) ++ "nd_value".toList := by
    have whole := congrArg String.toList same
    rw [String.toList_append, String.toList_append] at whole
    rw [whole, List.append_assoc]
    rfl
  have long : ".0.value".toList.length = "nd_value".toList.length := by decide
  exact absurd (List.append_inj_right' chars long) (by decide)

theorem overlapOf_onDays_iff {field other : String} {first last : Scalar} :
    (overlapOf field first last).OnDays other ↔ field = other := by
  have fields := overlapOf_fields field first last
  constructor
  · intro on
    obtain ⟨leaf, member, own⟩ : ∃ leaf ∈ (overlapOf field first last).leaves, leaf.field = field ++ ".0.value" := by
      rw [← List.mem_map, fields]
      exact List.mem_cons_self
    rcases on leaf member with start | finish
    · exact append_days_inj.mp (own.symm.trans start)
    · exact absurd (own.symm.trans finish) (append_value_ne field other)
  · rintro rfl leaf member
    have own : leaf.field ∈ (overlapOf field first last).leaves.map Leaf.field := List.mem_map_of_mem member
    rw [fields] at own
    grind

theorem overlap_made {field : String} {first last : Date} (made : overlap formats field first last = .ok g) :
    ∃ start finish, g = overlapOf field start finish := by
  obtain ⟨start, _, made⟩ := bind_eq_ok made
  obtain ⟨finish, _, made⟩ := bind_eq_ok made
  exact ⟨start, finish, (Except.ok.inj made).symm⟩

theorem fallback_made {field : String} {today : Date} {months : Nat}
    (made : fallback formats field today months = .ok g) : ∃ start finish, g = overlapOf field start finish := by
  unfold fallback at made
  split at made
  · exact overlap_made made
  · cases made

/-- The tests of a date filter are on the text before its first pair of dashes, and those of the window that
stands in for invalid dates on that text without the blanks behind it. So they are on one field unless there are
such blanks. -/
theorem date_leaves_on_field (reader : DateReader key read) (ok : read formats raw = .ok g) :
    ∃ field, Names raw field ∧ g.OnDays (String.ofList field) ∧
      dateField raw = String.ofList (Text.trimEnd field) ∧
      (g.OnDays (dateField raw) ↔ Text.trimEnd field = field) ∧
      ∀ today months g', fallback formats (dateField raw) today months = .ok g' →
        g'.OnDays (dateField raw) ∧
          (g'.leaves.map Leaf.field = g.leaves.map Leaf.field ↔ Text.trimEnd field = field) := by
  obtain ⟨field, first, last, names, made⟩ := reader.made ok
  obtain ⟨start, finish, rfl⟩ := overlap_made made
  have own : dateField raw = String.ofList (Text.trimEnd field) := names.dateField
  have same : String.ofList field = dateField raw ↔ Text.trimEnd field = field := by
    rw [own, String.ofList_inj, eq_comm]
  refine ⟨field, names, overlapOf_onDays_iff.mpr rfl, own, overlapOf_onDays_iff.trans same, ?_⟩
  intro today months g' recovered
  obtain ⟨start', finish', rfl⟩ := fallback_made recovered
  refine ⟨overlapOf_onDays_iff.mpr rfl, ?_⟩
  rw [overlapOf_fields, overlapOf_fields, ← same]
  constructor
  · intro fields
    exact (append_days_inj.mp (List.cons.inj fields).1).symm
  · rintro same
    rw [same]

theorem padded_filter_on_field :
    ∃ g, DateReader .date date ∧ date .usual " when--2024-01-01,2024-01-31 " = .ok g ∧
      dateField " when--2024-01-01,2024-01-31 " = "when" ∧ g.OnDays "when" := by
  have read : date .usual " when--2024-01-01,2024-01-31 " =
      .ok (overlapOf "when" (.text "2024-01-01") (.text "2024-01-31")) := rfl
  have own : dateField " when--2024-01-01,2024-01-31 " = "when" := by decide
  obtain ⟨field, ⟨_, rest, found⟩, _, _, same, _⟩ := date_leaves_on_field .window read
  have cut : Text.cut? dashes (Text.trim " when--2024-01-01,2024-01-31 ".toList) =
      some ("when".toList, "2024-01-01,2024-01-31".toList) := rfl
  obtain rfl : "when".toList = field := congrArg Prod.fst (Option.some.inj (cut.symm.trans found))
  rw [own] at same
  exact ⟨_, .window, read, own, same.mpr (by decide)⟩

/-- A blank in front of the dashes stays in the field that is filtered. -/
theorem blank_parts_fields :
    ∃ g, date .usual "f --2024-01-01,2024-01-31" = .ok g ∧
      ¬g.OnDays (dateField "f --2024-01-01,2024-01-31") := by
  refine ⟨overlapOf "f " (.text "2024-01-01") (.text "2024-01-31"), rfl, fun on => ?_⟩
  exact absurd (overlapOf_onDays_iff.mp on) (by decide)

end Fragment
end Listing
