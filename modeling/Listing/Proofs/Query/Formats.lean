import Listing.Config.Basic
import Listing.Proofs.Calendar.Writing
import Listing.Proofs.Fragment.Blame
import Listing.Proofs.Fragment.DateReaders
import Listing.Proofs.Query.Changes

/-!
Whether dates can be written in the patterns of the settings. A pattern that is accepted can be written for all
dates unless it asks for a zone or an offset, and then for none. No other fault of a request is put down to a
pattern.
-/

namespace Listing
open Calendar

/-! ### Patterns -/

namespace DateFormats
variable {storage month : String} {formats : DateFormats}

def Writable (formats : DateFormats) : Prop :=
  ∀ d : Date, (∃ s, formats.render d.opening = .ok s) ∧ ∃ s, formats.render d.closing = .ok s

theorem pattern?_eq_ok {source : String} {p : Pattern} (made : pattern? source = .ok p) :
    Pattern.ofString? source = some p := by
  unfold pattern? at made
  split at made
  · cases made
    assumption
  · cases made

theorem storage_made (made : make storage month = .ok formats) : Pattern.ofString? storage = some formats.storage := by
  obtain ⟨p, own, made⟩ := bind_eq_ok made
  obtain ⟨_, _, made⟩ := bind_eq_ok made
  cases made
  exact pattern?_eq_ok own

theorem source_of_ofString? {s : String} {p : Pattern} (made : Pattern.ofString? s = some p) : p.source = s := by
  obtain ⟨_, _, rfl⟩ := Option.map_eq_some_iff.mp made
  rfl

theorem writable_of_zoneless (made : make storage month = .ok formats) (zoneless : asksZone storage.toList = false) :
    formats.Writable := by
  have all : ∀ m, ∃ s, formats.render m = .ok s := by
    intro m
    have written := Pattern.isSome_write? (storage_made made) m
    rw [zoneless] at written
    obtain ⟨text, written⟩ := Option.isSome_iff_exists.mp written
    exact ⟨.text text, by rw [render, written]⟩
  exact fun d => ⟨all d.opening, all d.closing⟩

theorem render_of_zoned (made : make storage month = .ok formats) (zoned : asksZone storage.toList = true)
    (m : Moment) : formats.render m = .error (.invalidDateFormat storage) := by
  have written := Pattern.isSome_write? (storage_made made) m
  rw [zoned] at written
  have none : formats.storage.write? m = none := Option.isSome_eq_false_iff.mp written |> Option.isNone_iff_eq_none.mp
  rw [render, none, source_of_ofString? (storage_made made)]

end DateFormats

namespace Fragment
variable {formats : DateFormats} {field : String} {first last : Date}

theorem overlap_of_writable (writable : formats.Writable) (field : String) (first last : Date) :
    ∃ start finish, overlap formats field first last = .ok (overlapOf field start finish) := by
  obtain ⟨start, opening⟩ := (writable first).1
  obtain ⟨finish, closing⟩ := (writable last).2
  refine ⟨start, finish, ?_⟩
  rw [overlap, opening, closing]
  rfl

theorem DateReader.refused {key : Key} {read : DateFormats → String → Except FragmentError Group} {raw : String}
    {e : FragmentError} (reader : DateReader key read) (writable : formats.Writable)
    (refused : read formats raw = .error e) : e = .invalidDate key (Text.trimmed raw) := by
  rcases reader.cases formats raw with invalid | ⟨field, first, last, _, same⟩
  · exact Except.error.inj (refused.symm.trans invalid)
  · obtain ⟨start, finish, written⟩ := overlap_of_writable writable (String.ofList field) first last
    rw [same, written] at refused
    cases refused

theorem overlap_of_zoned {storage month : String} (made : DateFormats.make storage month = .ok formats)
    (zoned : asksZone storage.toList = true) (field : String) (first last : Date) :
    overlap formats field first last = .error (.invalidDateFormat storage) := by
  rw [overlap, DateFormats.render_of_zoned made zoned]
  rfl

end Fragment

/-! ### Requests -/

namespace Builder
open Fragment
variable {b : Builder} {key : Key} {raw : String}

theorem change_blames (b : Builder) (raw : String) (undated : key ∉ Part.dates.writers) :
    Blames key (b.change raw key) := by
  cases key with
  | entityType | contentType | viewMode | random => exact .ok _ _
  | sticky | nid => exact (scalar_blames _ raw).map
  | nids => exact (idList_blames raw).map
  | sort => exact (sortKeys_blames raw).map
  | range => exact (window_blames raw).map
  | paged => exact (pageSpec_blames raw).map
  | field => exact (fieldTests_blames raw).map
  | address => exact (address_blames raw).map
  | category => exact (category_blames raw).map
  | categories => exact (categories_blames raw).map
  | categoryIgnore => exact (categoryIgnore_blames raw).map
  | date | byMonth => exact absurd (by decide) undated

/-- A date is refused because it cannot be read, or because an overlap cannot be written. -/
theorem dates_eq_error {read : DateFormats → String → Except FragmentError Group} (reader : DateReader key read)
    {e : FragmentError} (failed : b.dates read raw = .error e) :
    (∃ key value, e = .invalidDate key value) ∨
      ∃ field first last, overlap b.formats field first last = .error e := by
  have recovered : ∀ field, fallback b.formats field b.today b.settings.fallbackMonths.toNat = .error e →
      (∃ key value, e = .invalidDate key value) ∨
        ∃ field first last, overlap b.formats field first last = .error e := by
    intro field failed
    unfold fallback at failed
    split at failed
    · exact .inr ⟨_, _, _, failed⟩
    · cases failed
      exact .inl ⟨_, _, rfl⟩
  unfold dates at failed
  split at failed
  · cases failed
  rename_i own refused
  unfold recover at failed
  split at failed
  · dsimp only at failed
    split at failed
    · cases failed
      exact .inl ⟨_, _, rfl⟩
    · exact recovered _ failed
  · cases failed
    rcases reader.cases b.formats raw with invalid | ⟨field, first, last, _, same⟩
    · exact .inl ⟨_, _, Except.error.inj (refused.symm.trans invalid)⟩
    · exact .inr ⟨_, first, last, same.symm.trans refused⟩

theorem change_of_build_error {p : Params} {e : FragmentError} (failed : b.build p = .error (.fragment e)) :
    ∃ raw key, b.change raw key = .error e := by
  obtain ⟨entry, _, refused⟩ := refused_of_build failed
  unfold changeOf at refused
  split at refused
  · cases refused
  rename_i key _
  split at refused
  · cases refused
  cases change : b.change entry.2 key with
  | ok c =>
    rw [change] at refused
    cases refused
  | error own =>
    rw [change] at refused
    cases own with
    | invalidDate key value => cases refused
    | _ =>
      cases refused
      exact ⟨_, _, change⟩

theorem overlap_of_build_error {p : Params} {format : String}
    (failed : b.build p = .error (.fragment (.invalidDateFormat format))) :
    ∃ field first last, overlap b.formats field first last = .error (.invalidDateFormat format) := by
  obtain ⟨raw, key, refused⟩ := change_of_build_error failed
  have dated : ∀ {read : DateFormats → String → Except FragmentError Group}, DateReader key read →
      (b.dates read raw).map Change.dates = .error (.invalidDateFormat format) →
        ∃ field first last, overlap b.formats field first last = .error (.invalidDateFormat format) := by
    intro read reader refused
    cases made : b.dates read raw with
    | ok g =>
      rw [made] at refused
      cases refused
    | error own =>
      rw [made] at refused
      cases refused
      rcases dates_eq_error reader made with ⟨_, _, other⟩ | written
      · cases other
      · exact written
  by_cases dates : key ∈ Part.dates.writers
  · simp only [Part.writers, List.mem_cons, List.not_mem_nil, or_false] at dates
    rcases dates with rfl | rfl
    · exact dated .window refused
    · exact dated .month refused
  · have named := change_blames b raw dates _ refused
    cases named

end Builder

theorem Builder.formats_of_make {s : QuerySettings} {today : Date} {b : Builder} (made : make s today = .ok b) :
    DateFormats.make s.storagePattern s.monthPattern = .ok b.formats := by
  obtain ⟨formats, found, made⟩ := bind_eq_ok made
  obtain ⟨_, _, made⟩ := bind_eq_ok made
  cases made
  exact mapError_eq_ok (mapError_eq_ok found)

theorem Config.make_of_valid {c : Config} (valid : c.validate = .ok ()) :
    ∃ formats offset, c.query.offset = .ok offset ∧
      ∀ today, Builder.make c.query today = .ok ⟨c.query, formats, offset, today⟩ := by
  obtain ⟨formats, formatted, valid⟩ := bind_eq_ok valid
  obtain ⟨offset, zoned, _⟩ := bind_eq_ok valid
  have found := mapError_eq_ok zoned
  refine ⟨formats, offset, found, fun today => ?_⟩
  unfold Builder.make
  rw [mapError_eq_ok formatted, found]
  rfl

/-- Under accepted patterns an overlap is written, whatever its days, unless the stored dates have a zone or an
offset, and then none is. A request can fail for its patterns only in the second case. -/
theorem dates_written_unless_zoned {storage month : String} {formats : DateFormats}
    (made : DateFormats.make storage month = .ok formats) :
    (∀ field first last,
      ((∃ g, Fragment.overlap formats field first last = .ok g) ↔ asksZone storage.toList = false) ∧
      (Fragment.overlap formats field first last = .error (.invalidDateFormat storage) ↔
        asksZone storage.toList = true)) ∧
    ∀ s : QuerySettings, s.storagePattern = storage → s.monthPattern = month → ∀ today b,
      Builder.make s today = .ok b → ∀ p format,
        b.build p = .error (.fragment (.invalidDateFormat format)) →
          format = storage ∧ asksZone storage.toList = true := by
  cases zoned : asksZone storage.toList with
  | false =>
    have written := Fragment.overlap_of_writable (DateFormats.writable_of_zoneless made zoned)
    constructor
    · intro field first last
      obtain ⟨start, finish, own⟩ := written field first last
      simp [own]
    · rintro s rfl rfl today b used p format failed
      obtain rfl := Except.ok.inj ((Builder.formats_of_make used).symm.trans made)
      obtain ⟨field, first, last, failed⟩ := Builder.overlap_of_build_error failed
      obtain ⟨start, finish, own⟩ := written field first last
      rw [own] at failed
      cases failed
  | true =>
    have refused := Fragment.overlap_of_zoned made zoned
    constructor
    · intro field first last
      simp [refused field first last]
    · rintro s rfl rfl today b used p format failed
      obtain rfl := Except.ok.inj ((Builder.formats_of_make used).symm.trans made)
      obtain ⟨field, first, last, failed⟩ := Builder.overlap_of_build_error failed
      rw [refused field first last] at failed
      cases failed
      exact ⟨rfl, rfl⟩

theorem standard_dates_written :
    DateFormats.make "%Y-%m-%d" "%d-%m-%Y" = .ok .usual ∧
      (∀ field first last, ∃ g, Fragment.overlap .usual field first last = .ok g) ∧
      ∃ b, Builder.make .standard ⟨2024, 1, 1, by decide⟩ = .ok b ∧
        ∀ p format, b.build p ≠ .error (.fragment (.invalidDateFormat format)) := by
  have made := DateFormats.make_usual
  obtain ⟨overlaps, requests⟩ := dates_written_unless_zoned made
  refine ⟨made, fun field first last => (overlaps field first last).1.mpr rfl, _, rfl, fun p format failed => ?_⟩
  cases (requests .standard rfl rfl _ _ rfl p format failed).2

/-- A pattern with an offset is let into the settings, and then no month can be asked for. -/
theorem offset_let_in_unwritten :
    ∃ c : Config, c.query.storagePattern = "%Y-%m-%d%z" ∧ c.validate = .ok () ∧
      ∃ b, Builder.make c.query ⟨2024, 1, 1, by decide⟩ = .ok b ∧
        b.build (.ofList [("byMonth", "f--15-02-2024")]) =
          .error (.fragment (.invalidDateFormat "%Y-%m-%d%z")) := by
  have valid : ({ Config.standard with query.storagePattern := "%Y-%m-%d%z" } : Config).validate = .ok () := rfl
  obtain ⟨formats, _, _, made⟩ := Config.make_of_valid valid
  have own : DateFormats.make "%Y-%m-%d%z" "%d-%m-%Y" = .ok formats :=
    Builder.formats_of_make (made ⟨2024, 1, 1, by decide⟩)
  cases own
  exact ⟨_, rfl, valid, _, made _, rfl⟩

end Listing
