import Listing.Proofs.Fragment.Dates
import Listing.Proofs.Query.Requests
import Listing.Proofs.Store.Operands
import Listing.Store.Selection

/-!
What a date filter selects. The days of a record and of a filter compare as days do, although they are
compared as texts, and the tests of an overlap are met by the records whose days overlap.
-/

namespace Listing
namespace Store
open Calendar

/-! ### Comparisons of days -/

theorem magnitude?_digits {digits rest : List Char} (negative : Bool) (all : ∀ c ∈ digits, c.isDigit = true) :
    Decimal.magnitude? negative (digits ++ '-' :: rest) = none := by
  have whole : (digits ++ '-' :: rest).takeWhile Char.isDigit = digits := by
    rw [List.takeWhile_append_of_pos all]
    simp
  have after : (digits ++ '-' :: rest).dropWhile Char.isDigit = '-' :: rest := by
    rw [List.dropWhile_append_of_pos all]
    simp
  have bare : Decimal.exponent? ('-' :: rest) = none := rfl
  simp [Decimal.magnitude?, whole, after, bare]

theorem number?_day {d : Date} (plain : d.Plain) : Decimal.number? d.toString.toList = none := by
  obtain ⟨c, middle, _, ends, digit, _⟩ := plain.toString_ends
  have unsigned : Decimal.unsignedNumber? false d.toString.toList = none := by
    rw [plain.toList_toString, Decimal.unsignedNumber?_of_mem (c := '-') _ (by simp) (by decide)]
    exact magnitude?_digits false fun _ => isDigit_of_mem_padTo
  unfold Decimal.number?
  rw [plain.trim_toString]
  -- No sign stands before the digits, and behind them stands a dash.
  split
  · rename_i signed
    rw [ends] at signed
    exact absurd signed (cons_ne_of_isDigit digit (by decide))
  · rename_i signed
    rw [ends] at signed
    exact absurd signed (cons_ne_of_isDigit digit (by decide))
  · exact unsigned

theorem compare_days {a b : Date} (left : a.Plain) (right : b.Plain) :
    compareOperand (.text a.toString) (.text b.toString) = some (compare a.rank b.rank) := by
  have texts : compare a.toString b.toString = compare a.rank b.rank := by
    rcases lt_trichotomy a.rank b.rank with before | same | after
    · rw [compare_lt_iff_lt.mpr before]
      exact compare_lt_iff_lt.mpr ((left.toString_lt_iff right).mpr before)
    · rw [compare_eq_iff_eq.mpr same]
      apply compare_eq_iff_eq.mpr
      apply le_antisymm
      · exact not_lt.mp fun after => absurd ((right.toString_lt_iff left).mp after) (by omega)
      · exact not_lt.mp fun before => absurd ((left.toString_lt_iff right).mp before) (by omega)
    · rw [compare_gt_iff_gt.mpr after]
      exact compare_gt_iff_gt.mpr ((right.toString_lt_iff left).mpr after)
  simp only [compareOperand, number?, number?_day left, text?, Scalar.toString, Option.map_some, texts]

/-! ### Records with days -/

/-- The fields of the object that a field of a record holds, by itself or in the first item of a list. -/
inductive FirstObject (record : Json) (name : String) (fields : List (String × Json)) : Prop
  | own (held : record.field? name = some (.object fields)) (unlisted : fields.lookup "0" = none)
  | listed {rest : List Json} (held : record.field? name = some (.array (.object fields :: rest)))

structure HoldsDays (record : Json) (name : String) (fields : List (String × Json)) (first last : Date) : Prop where
  object : FirstObject record name fields
  start : fields.lookup "value" = some (.text first.toString)
  finish : fields.lookup "end_value" = some (.text last.toString)

variable {record : Json} {name : String} {fields : List (String × Json)}

/-- The first place of a list is its first item, and that of an object the object itself. -/
theorem walk_first (object : FirstObject record name fields) {key : String} {value : Json}
    (found : fields.lookup key = some value) : walk [name.toList, ['0'], key.toList] [record] = [value] := by
  have last : walk [key.toList] [.object fields] = [value] := by
    have field : (Json.object fields).field? key = some value := found
    simp only [walk_cons, List.flatMap_singleton, step_field field]
    rfl
  cases object with
  | own held unlisted =>
    have place : step ['0'] (.object fields) = [.object fields] := by
      have zero : String.ofList ['0'] = "0" := rfl
      have first : index? ['0'] = some 0 := rfl
      simp only [step, zero, unlisted, first, if_true]
    rw [walk_cons, List.flatMap_singleton, step_field held, walk_cons, List.flatMap_singleton, place, last]
  | listed held =>
    have place : ∀ rest, step ['0'] (.array (.object fields :: rest)) = [.object fields] := fun _ => rfl
    rw [walk_cons, List.flatMap_singleton, step_field held, walk_cons, List.flatMap_singleton, place, last]

theorem resolve_first (object : FirstObject record name fields) (segment : '.' ∉ name.toList)
    {path key text : String} {rest : List Char} (tail : path.toList = '.' :: rest)
    (parts : rest.splitOn '.' = [['0'], key.toList])
    (found : fields.lookup key = some (.text text)) : resolve record (name ++ path) = [.text text] := by
  have whole : (name ++ path).toList.splitOn '.' = [name.toList, ['0'], key.toList] := by
    rw [String.toList_append, tail, List.splitOn_append_cons_self_of_not_mem segment, parts]
  rw [resolve, whole, walk_first object found]
  rfl

/-! ### Overlaps -/

variable {first last start finish : Date}

theorem passes_day {a b : Date} (left : a.Plain) (right : b.Plain) :
    (passes (.text a.toString) (.text b.toString) .le = true ↔ a.rank ≤ b.rank) ∧
      (passes (.text a.toString) (.text b.toString) .lt = true ↔ a.rank < b.rank) ∧
      (passes (.text a.toString) (.text b.toString) .ge = true ↔ b.rank ≤ a.rank) ∧
      (passes (.text a.toString) (.text b.toString) .gt = true ↔ b.rank < a.rank) := by
  simp only [passes, compare_days left right, Option.any_some, admits, bne_iff_ne, beq_iff_eq, compare_le_iff_le,
    compare_lt_iff_lt, compare_ge_iff_ge, compare_gt_iff_gt, and_self]

theorem meets_overlapOf (holds : HoldsDays record name fields start finish) (segment : '.' ∉ name.toList)
    (plain : first.Plain ∧ last.Plain ∧ start.Plain ∧ finish.Plain) (window : first ≤ last)
    (days : start ≤ finish) :
    meets record (Fragment.overlapOf name (.text first.toString) (.text last.toString)).toCondition = true ↔
      start ≤ last ∧ first ≤ finish := by
  obtain ⟨plainFirst, plainLast, plainStart, plainFinish⟩ := plain
  have value : resolve record (name ++ ".0.value") = [.text start.toString] :=
    resolve_first holds.object segment rfl rfl holds.start
  have endValue : resolve record (name ++ ".0.end_value") = [.text finish.toString] :=
    resolve_first holds.object segment rfl rfl holds.finish
  obtain ⟨startUpTo, -, startFrom, -⟩ := passes_day plainStart plainFirst
  obtain ⟨startWithin, startBefore, -, -⟩ := passes_day plainStart plainLast
  obtain ⟨-, -, finishFrom, finishAfter⟩ := passes_day plainFinish plainFirst
  obtain ⟨finishWithin, -, finishBeyond, -⟩ := passes_day plainFinish plainLast
  rw [Date.le_iff_rank] at window days ⊢
  rw [Date.le_iff_rank]
  simp only [Fragment.overlapOf, Group.toCondition, Condition.test, meets, meetsSome, meetsAll, value, endValue,
    passesTest, List.any_cons, List.any_nil, Bool.or_false, Bool.and_true, List.isEmpty_cons, Bool.false_or,
    Bool.or_eq_true, Bool.and_eq_true, startUpTo, startFrom, startWithin, startBefore, finishFrom, finishAfter,
    finishWithin, finishBeyond]
  omega

theorem exists_common_day (window : first ≤ last) (days : start ≤ finish) :
    (∃ day, (start ≤ day ∧ day ≤ finish) ∧ first ≤ day ∧ day ≤ last) ↔ start ≤ last ∧ first ≤ finish := by
  simp only [Date.le_iff_rank] at window days ⊢
  constructor
  · rintro ⟨day, ⟨_, _⟩, _, _⟩
    omega
  · rintro ⟨before, after⟩
    -- The later of the two first days is in both stretches.
    rcases Int.le_total start.rank first.rank with early | late
    · exact ⟨first, ⟨early, after⟩, Int.le_refl _, window⟩
    · exact ⟨start, ⟨Int.le_refl _, days⟩, late, before⟩

end Store

/-! ### Requests -/

namespace Builder
open Calendar
variable {b : Builder}

theorem build_date {p : Params} {request : ParsedRequest} {text : String} {g : Group}
    (built : b.build p = .ok request) (alone : "byMonth" ∉ p.keys)
    (read : Fragment.date b.formats text = .ok g) :
    ∃ r, b.build (p.insert "date" text) = .ok r ∧ r.descriptor.dates = some g := by
  obtain ⟨accepted, rfl⟩ := build_eq_ok.mp built
  have change : b.changeOf ("date", text) = .ok (.dates g) := by
    have found : b.change text .date = .ok (.dates g) := by
      rw [Builder.change, dates, read]
      rfl
    exact changeOf_of_change (Fragment.solid_of_date read) found
  have others : ∀ writer ∈ Part.dates.writers, writer.name ≠ "date" → writer.name ∉ p.keys := by
    intro writer writes other
    rcases List.mem_cons.mp writes with rfl | month
    · exact absurd rfl other
    · obtain rfl := List.mem_singleton.mp month
      exact alone
  have own : (b.draft (p.insert "date" text).entries).Agree (b.blank.apply (.dates g)) .dates :=
    draft_insert_set others change (List.mem_singleton_self _)
  have all := accepts_insert (fun entry member _ => accepted entry member) ⟨_, change⟩
  exact ⟨_, build_eq_ok.mpr ⟨all, rfl⟩, own⟩

/-- A date filter selects, of the records that hold days in its field, those with days in its window. -/
theorem date_selects_overlap {name : String} {first last : Date}
    (formats : QuerySettings.standard.formats = .ok b.formats) (field : Fragment.FieldName name)
    (plain : first.Plain ∧ last.Plain) (window : first ≤ last) :
    ∃ g, Fragment.date b.formats (name ++ "--" ++ first.toString ++ "," ++ last.toString) = .ok g ∧
      (∀ p request, b.build p = .ok request → "byMonth" ∉ p.keys →
        ∃ r, b.build (p.insert "date" (name ++ "--" ++ first.toString ++ "," ++ last.toString)) = .ok r ∧
          r.descriptor.dates = some g) ∧
      ∀ record fields start finish, start.Plain ∧ finish.Plain → start ≤ finish →
        Store.HoldsDays record name fields start finish →
        (Store.meets record g.toCondition = true ↔ start ≤ last ∧ first ≤ finish) ∧
        (Store.meets record g.toCondition = true ↔
          ∃ day, (start ≤ day ∧ day ≤ finish) ∧ first ≤ day ∧ day ≤ last) := by
  have storage : b.formats.storage = .dashed := by
    have usual : QuerySettings.standard.formats.map DateFormats.storage = .ok .dashed := rfl
    rw [formats] at usual
    exact Except.ok.inj usual
  have read := Fragment.date_dashed storage field plain.1 plain.2
  refine ⟨_, read, fun _ _ built alone => build_date built alone read, ?_⟩
  intro record fields start finish own days holds
  have meets := Store.meets_overlapOf holds field.segment ⟨plain.1, plain.2, own.1, own.2⟩ window days
  exact ⟨meets, meets.trans (Store.exists_common_day window days).symm⟩

/-- A visit that ends on the first of January, and one that starts after its last day. -/
theorem january_selects_first_visit :
    let first : Date := ⟨2024, 1, 1, by decide⟩
    let last : Date := ⟨2024, 1, 31, by decide⟩
    let eve : Date := ⟨2023, 12, 24, by decide⟩
    let february : Date := ⟨2024, 2, 1, by decide⟩
    let text := "when" ++ "--" ++ first.toString ++ "," ++ last.toString
    let visit (start finish : Date) : Json :=
      .object [("when", .array [.object [("end_value", .text finish.toString), ("value", .text start.toString)]])]
    QuerySettings.standard.formats = .ok standard.formats ∧ Fragment.FieldName "when" ∧
      (first.Plain ∧ last.Plain) ∧ first ≤ last ∧
      ∃ g r, standard.build (OrderedMap.insert ∅ "date" text) = .ok r ∧ r.descriptor.dates = some g ∧
        Store.meets (visit eve first) g.toCondition = true ∧
        Store.meets (visit february february) g.toCondition = false := by
  intro first last eve february text visit
  have solid : "when".toList.any Text.isSpace = false := rfl
  have field : Fragment.FieldName "when" := ⟨by decide, by simpa using solid, by decide, by decide, by decide⟩
  have window : first ≤ last := by decide
  have plain : first.Plain ∧ last.Plain := ⟨by decide, by decide⟩
  obtain ⟨g, _, built, selects⟩ := date_selects_overlap (b := standard) rfl field plain window
  obtain ⟨r, build, dates⟩ := built ∅ _ rfl (by decide)
  have holds : ∀ start finish, Store.HoldsDays (visit start finish) "when"
      [("end_value", .text finish.toString), ("value", .text start.toString)] start finish :=
    fun start finish => ⟨.listed rfl, rfl, rfl⟩
  have early := (selects _ _ eve first ⟨by decide, by decide⟩ (by decide) (holds eve first)).1
  have late := (selects _ _ february february ⟨by decide, by decide⟩ (by decide) (holds february february)).1
  refine ⟨rfl, field, plain, window, g, r, build, dates, early.mpr (by decide), ?_⟩
  rw [← Bool.not_eq_true, late]
  decide

end Builder
end Listing
