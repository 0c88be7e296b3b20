import Listing.Proofs.Fragment.Field
import Listing.Proofs.Fragment.Shape
import Listing.Proofs.Query.Changes
import Listing.Proofs.Store.Hits
import Listing.Proofs.Store.Operands
import Listing.Proofs.Store.Sorting

/-!
Lookups by id. In a store that was filled record by record each record stands under the id that it carries. A
request for ids finds the records whose ids are rounded to the same doubles as those of the request, which are
these ids themselves below 2 ^ 53.
-/

namespace Listing
open Decimal (Double)

/-! ### Stores and their ids -/

namespace Store
variable {s s' : Store} {record : Json} {id : Count}

def Keyed (s : Store) : Prop := ∀ entry ∈ s.records.entries, idOf? s.idField entry.2 = some entry.1

inductive Filled : Store → Prop
  | empty (idField : String) : Filled (empty idField)
  | insert {s s' : Store} {record : Json} {id : Count} (filled : Filled s) (added : s.insert record = .ok (id, s')) :
    Filled s'

theorem insert_eq_ok : s.insert record = .ok (id, s') ↔
    record.isObject = true ∧ idOf? s.idField record = some id ∧ s' = { s with records := s.records.insert id record } := by
  unfold insert
  cases record.isObject with
  | false => simp
  | true =>
    cases idOf? s.idField record with
    | none => simp
    | some own =>
      simp only [Bool.not_true, Bool.false_eq_true, if_false, Except.ok.injEq, Prod.mk.injEq, Option.some.injEq,
        true_and]
      constructor
      · rintro ⟨rfl, rfl⟩
        exact ⟨rfl, rfl⟩
      · rintro ⟨rfl, rfl⟩
        exact ⟨rfl, rfl⟩

theorem Keyed.insert (keyed : s.Keyed) (added : s.insert record = .ok (id, s')) : s'.Keyed := by
  obtain ⟨-, own, rfl⟩ := insert_eq_ok.mp added
  exact OrderedMap.forall_insert (P := fun id record => idOf? s.idField record = some id) keyed id own

theorem Filled.keyed (filled : s.Filled) : s.Keyed := by
  induction filled with
  | empty => exact List.forall_mem_nil _
  | insert _ added keyed => exact keyed.insert added

theorem Filled.foldlM {records : List Json} (filled : s.Filled)
    (done : records.foldlM (fun s record => (s.insert record).map Prod.snd) s = .ok s') : s'.Filled := by
  induction records generalizing s with
  | nil =>
    cases done
    exact filled
  | cons record rest ih =>
    rw [List.foldlM_cons] at done
    obtain ⟨_, step, done⟩ := bind_eq_ok done
    obtain ⟨⟨id, next⟩, added, rfl⟩ := map_eq_ok step
    exact ih (.insert filled added) done

theorem filled_of_ofRecords {idField : String} {records : List Json} (loaded : ofRecords idField records = .ok s) :
    s.Filled :=
  .foldlM (.empty idField) loaded

/-- The id of a record is a value of its own in the field, and the number of this value ranks as the id does. -/
theorem resolve_id {idField : String} (segment : '.' ∉ idField.toList) (own : idOf? idField record = some id) :
    ∃ value d, resolve record idField = [value] ∧ number? value = some d ∧ d.rank? = (Double.ofInt id.toNat).rank? := by
  unfold idOf? at own
  split at own
  · rename_i held
    obtain rfl := Option.some.inj own
    exact ⟨_, _, resolve_field segment held rfl rfl, rfl, rfl⟩
  · rename_i text held
    obtain ⟨d, number, rank⟩ := Decimal.number?_of_unsignedCount? own
    exact ⟨_, d, resolve_field segment held rfl rfl, number, rank⟩
  · cases own

theorem compareOperand_id {value : Json} {d : Double} (number : number? value = some d)
    (rank : d.rank? = (Double.ofInt id.toNat).rank?) (n : Count) :
    compareOperand value (Scalar.ofChars (Text.decimal n.toNat)) = some .eq ↔
      Double.ofInt id.toNat = Double.ofInt n.toNat := by
  have numeral := Text.numeral_decimal n.toNat
  have signed : Text.Signed (Text.trim (Text.decimal n.toNat)) n.toNat := by
    rw [Text.trim_of_solid numeral.solid]
    exact .bare numeral
  obtain ⟨d', spelled, rank'⟩ := Decimal.number?_of_signed signed n.toNat_lt
  rw [compareOperand_of_numbers number spelled, Double.compare?_congr rank rank']
  exact Double.compare?_ofInt_eq_eq

theorem passes_id {idField : String} (segment : '.' ∉ idField.toList) (own : idOf? idField record = some id) :
    (∀ n : Count, passesTest (resolve record idField) (.equals (Scalar.ofChars (Text.decimal n.toNat))) = true ↔
      Double.ofInt id.toNat = Double.ofInt n.toNat) ∧
    ∀ ids : List Count,
      passesTest (resolve record idField) (.isIn (ids.map fun n => Scalar.ofChars (Text.decimal n.toNat))) = true ↔
        ∃ n ∈ ids, Double.ofInt id.toNat = Double.ofInt n.toNat := by
  obtain ⟨value, d, values, number, rank⟩ := resolve_id segment own
  rw [values]
  constructor
  · intro n
    rw [← compareOperand_id number rank n]
    cases order : compareOperand value (Scalar.ofChars (Text.decimal n.toNat)) <;> simp [passesTest, passes, order, admits]
  · intro ids
    simp [passesTest, listed, compareOperand_id number rank]

end Store

/-! ### Requests for ids -/

namespace Fragment
open Text

def idText (ids : List Count) : List Char := ['-'].intercalate (ids.map fun id => decimal id.toNat)

theorem solid_intercalate {sep : List Char} {parts : List (List Char)} (joint : ∀ c ∈ sep, isSpace c = false)
    (solid : ∀ part ∈ parts, ∀ c ∈ part, isSpace c = false) : ∀ c ∈ sep.intercalate parts, isSpace c = false := by
  induction parts with
  | nil => exact List.forall_mem_nil _
  | cons part rest ih =>
    obtain ⟨own, later⟩ := List.forall_mem_cons.mp solid
    cases rest with
    | nil => rwa [List.intercalate_singleton]
    | cons next rest =>
      rw [List.intercalate_cons_cons]
      exact List.forall_mem_append.mpr ⟨List.forall_mem_append.mpr ⟨own, joint⟩, ih later⟩

theorem solid_idText (ids : List Count) : ∀ c ∈ idText ids, isSpace c = false := by
  refine solid_intercalate (List.forall_mem_singleton.mpr (by decide)) fun part member => ?_
  obtain ⟨id, -, rfl⟩ := List.mem_map.mp member
  exact (numeral_decimal id.toNat).solid

theorem terms?_idText {ids : List Count} (held : ids ≠ []) :
    terms? (idText ids) = some (ids.map fun id => decimal id.toNat) := by
  have parts : (idText ids).splitOn '-' = ids.map fun id => decimal id.toNat := by
    refine List.splitOn_intercalate '-' (fun part member => ?_) (by simpa using held)
    obtain ⟨id, -, rfl⟩ := List.mem_map.mp member
    exact (numeral_decimal id.toNat).notMem (by decide)
  simp [terms?, parts, decimal_ne_nil]

theorem idText_ne_nil {ids : List Count} (held : ids ≠ []) : idText ids ≠ [] := by
  intro empty
  have terms := terms?_idText held
  rw [empty] at terms
  cases terms

theorem idList_idText {ids : List Count} (held : ids ≠ []) :
    idList (String.ofList (idText ids)) = .ok (ids.map fun id => Scalar.ofChars (decimal id.toNat)) := by
  rw [idList, required_of_solid (idText_ne_nil held) (solid_idText ids)]
  simp only [bind, Except.bind, terms?_idText held, List.map_map]
  rfl

end Fragment

namespace Builder

/-- A builder that asks for all records of a store in the order of the store, unless a request says otherwise. -/
structure Unrestricted (b : Builder) (s : Store) : Prop where
  idField : b.settings.idField = s.idField
  bundle : b.settings.bundle = none
  status : b.settings.status = none
  sort : b.settings.sort = []
  start : b.settings.window.start = 0
  room : s.size ≤ b.settings.window.length.toNat

variable {b : Builder} {s : Store}

theorem changeOf_nids {ids : List Count} (held : ids ≠ []) :
    b.changeOf ("nids", String.ofList (Fragment.idText ids)) =
      .ok (.require [⟨b.settings.idField, .isIn (ids.map fun n => Scalar.ofChars (Text.decimal n.toNat))⟩]) := by
  have read := Fragment.idList_idText held
  have change : b.change (String.ofList (Fragment.idText ids)) .nids =
      .ok (.require [⟨b.settings.idField, .isIn (ids.map fun n => Scalar.ofChars (Text.decimal n.toNat))⟩]) := by
    rw [Builder.change, read]
    rfl
  exact changeOf_of_change (Fragment.solid_of_required read) change

theorem changeOf_nid (n : Count) :
    b.changeOf ("nid", String.ofList (Text.decimal n.toNat)) =
      .ok (.require [⟨b.settings.idField, .equals (Scalar.ofChars (Text.decimal n.toNat))⟩]) := by
  have value : Fragment.required .nid (String.ofList (Text.decimal n.toNat)) = .ok (Text.decimal n.toNat) :=
    Fragment.required_of_solid (Text.decimal_ne_nil _) (Text.numeral_decimal _).solid
  have change : b.change (String.ofList (Text.decimal n.toNat)) .nid =
      .ok (.require [⟨b.settings.idField, .equals (Scalar.ofChars (Text.decimal n.toNat))⟩]) := by
    rw [Builder.change, Fragment.scalar, value]
    rfl
  exact changeOf_of_change (Fragment.required_eq_ok.mp value).1 change

/-- With one test, such a builder asks for just the records that pass it. -/
theorem Unrestricted.asks_iff (unrestricted : b.Unrestricted s) (leaf : Leaf) (record : Json) :
    (b.finish (b.blank.apply (.require [leaf]))).descriptor.Asks record ↔
      Store.passesTest (Store.resolve record leaf.field) leaf.test = true := by
  have bundle : (b.finish (b.blank.apply (.require [leaf]))).descriptor.bundle = .any := by
    change b.blank.descriptor.bundle = .any
    simp only [blank, unrestricted.bundle]
  have conditions : (b.finish (b.blank.apply (.require [leaf]))).descriptor.conditions =
      OrderedMap.insert ∅ leaf.field leaf.test := by
    change b.blank.descriptor.conditions.insert leaf.field leaf.test = _
    simp only [blank, unrestricted.status]
  constructor
  · intro asked
    refine asked.conditions (leaf.field, leaf.test) ?_
    rw [conditions]
    exact List.mem_singleton_self _
  · intro passed
    refine ⟨?_, ?_, nofun, nofun⟩
    · rw [bundle]
      exact nofun
    · rw [conditions]
      exact List.forall_mem_singleton.mpr passed

theorem Unrestricted.execute_require (unrestricted : b.Unrestricted s) (shuffle : Shuffle) (leaf : Leaf) :
    s.execute shuffle (b.finish (b.blank.apply (.require [leaf]))).descriptor =
      some ((s.records.entries.filter fun entry => Store.passesTest (Store.resolve entry.2 leaf.field) leaf.test).map
        Prod.fst) := by
  have asks := unrestricted.asks_iff leaf
  generalize held : (b.finish (b.blank.apply (.require [leaf]))).descriptor = d at asks ⊢
  have window : d.window = b.settings.window := held ▸ rfl
  have sorted : d.sort = [] := held ▸ unrestricted.sort
  have settled : d.random = false := held ▸ rfl
  have hits : s.hits d =
      s.records.entries.filter fun entry => Store.passesTest (Store.resolve entry.2 leaf.field) leaf.test := by
    refine List.filter_congr fun entry _ => ?_
    rw [Bool.eq_iff_iff, decide_eq_true_eq, asks]
  have whole : (s.hits d).length ≤ b.settings.window.length.toNat :=
    Nat.le_trans (List.length_filter_le _ _) unrestricted.room
  rw [Store.execute_of_settled s shuffle settled, Store.listing_eq, sorted, Store.sortEntries_nil, window,
    unrestricted.start, ← hits]
  exact congrArg some (List.take_of_length_le (by simpa using whole))

theorem Unrestricted.execute_ids (unrestricted : b.Unrestricted s) (keyed : s.Keyed) (shuffle : Shuffle)
    {test : Test} {P : Count → Prop} [DecidablePred P]
    (seen : ∀ id record, Store.idOf? s.idField record = some id →
      (Store.passesTest (Store.resolve record s.idField) test = true ↔ P id)) :
    s.execute shuffle (b.finish (b.blank.apply (.require [⟨b.settings.idField, test⟩]))).descriptor =
      some (s.records.keys.filter fun id => P id) := by
  rw [unrestricted.execute_require, unrestricted.idField, OrderedMap.keys, List.filter_map]
  refine congrArg (some <| List.map Prod.fst ·) (List.filter_congr fun entry member => ?_)
  rw [Bool.eq_iff_iff, seen _ _ (keyed entry member)]
  simp

/-- A request for ids finds, in the order of the store, the records whose ids are rounded to the same doubles. Below
2 ^ 53 these are the records under the ids themselves. -/
theorem ids_looked_up (filled : s.Filled) (segment : '.' ∉ s.idField.toList) (unrestricted : b.Unrestricted s)
    (shuffle : Shuffle) :
    (∀ ids : List Count, ids ≠ [] → ∃ r, b.build (.ofList [("nids", String.ofList (Fragment.idText ids))]) = .ok r ∧
      s.execute shuffle r.descriptor =
        some (s.records.keys.filter fun id => ∃ n ∈ ids, Double.ofInt id.toNat = Double.ofInt n.toNat) ∧
      ((∀ n ∈ ids, n.toNat < 2 ^ 53) →
        s.execute shuffle r.descriptor = some (s.records.keys.filter (· ∈ ids)))) ∧
    ∀ n : Count, ∃ r, b.build (.ofList [("nid", String.ofList (Text.decimal n.toNat))]) = .ok r ∧
      s.execute shuffle r.descriptor =
        some (s.records.keys.filter fun id => Double.ofInt id.toNat = Double.ofInt n.toNat) ∧
      (n.toNat < 2 ^ 53 → s.execute shuffle r.descriptor = some (if n ∈ s.records.keys then [n] else [])) := by
  have exact : ∀ id n : Count, n.toNat < 2 ^ 53 → (Double.ofInt id.toNat = Double.ofInt n.toNat ↔ id = n) :=
    fun id n small => (Double.ofInt_eq_iff_of_small small).trans UInt64.toNat_inj
  constructor
  · intro ids held
    have found := unrestricted.execute_ids filled.keyed shuffle fun id record own => (Store.passes_id segment own).2 ids
    refine ⟨_, build_single (changeOf_nids held), found, fun small => found.trans ?_⟩
    refine congrArg some (List.filter_congr fun id _ => decide_eq_decide.mpr ?_)
    constructor
    · rintro ⟨n, member, same⟩
      exact (exact id n (small n member)).mp same ▸ member
    · exact fun member => ⟨id, member, rfl⟩
  · intro n
    have found := unrestricted.execute_ids filled.keyed shuffle fun id record own => (Store.passes_id segment own).1 n
    refine ⟨_, build_single (changeOf_nid n), found, fun small => found.trans ?_⟩
    have alone : s.records.keys.filter (fun id => Double.ofInt id.toNat = Double.ofInt n.toNat) =
        s.records.keys.filter (· = n) :=
      List.filter_congr fun id _ => decide_eq_decide.mpr (exact id n small)
    have once : s.records.keys.count n = if n ∈ s.records.keys then 1 else 0 := s.records.nodup.count
    rw [alone, List.filter_eq, once]
    split <;> rfl

def anything : Builder :=
  { standard with settings := { QuerySettings.standard with bundle := none, status := none } }

/-- Ids in texts are found as well as ids in numbers, in the order of the store, and an id that no record has finds
nothing. -/
theorem ids_in_texts_looked_up :
    let record (id : Json) : Json := .object [("nid", id)]
    let s : Store := ⟨"nid", .ofList [(5, record (.ofNat 5)), (12, record (.text " +012 ")), (7, record (.ofNat 7))]⟩
    s.Filled ∧ '.' ∉ s.idField.toList ∧ anything.Unrestricted s ∧
      (∃ r, anything.build (.ofList [("nids", "12-99-5")]) = .ok r ∧ s.execute .still r.descriptor = some [5, 12]) ∧
      (∃ r, anything.build (.ofList [("nid", "7")]) = .ok r ∧ s.execute .still r.descriptor = some [7]) ∧
      ∃ r, anything.build (.ofList [("nid", "99")]) = .ok r ∧ s.execute .still r.descriptor = some [] := by
  intro record s
  have loaded : Store.ofRecords "nid" [record (.ofNat 5), record (.text " +012 "), record (.ofNat 7)] = .ok s := rfl
  have filled := Store.filled_of_ofRecords loaded
  have segment : '.' ∉ s.idField.toList := by decide
  have unrestricted : anything.Unrestricted s := ⟨rfl, rfl, rfl, rfl, rfl, by decide⟩
  obtain ⟨several, single⟩ := ids_looked_up filled segment unrestricted .still
  obtain ⟨r, built, -, found⟩ := several [12, 99, 5] (by decide)
  obtain ⟨r', built', -, found'⟩ := single 7
  obtain ⟨r'', built'', -, found''⟩ := single 99
  have keys : s.records.keys = [5, 12, 7] := rfl
  have small : ∀ n ∈ [(12 : Count), 99, 5], n.toNat < 2 ^ 53 := by simp
  rw [keys] at found found' found''
  exact ⟨filled, segment, unrestricted, ⟨r, built, found small⟩, ⟨r', built', found' (by decide)⟩,
    ⟨r'', built'', found'' (by decide)⟩⟩

/-- Two ids that are rounded to one double are taken for each other. -/
theorem neighbours_taken_for_each_other :
    let record (id : Nat) : Json := .object [("nid", .ofNat id)]
    ∃ s r r', Store.ofRecords "nid" [record 9007199254740992, record 9007199254740993] = .ok s ∧
      anything.Unrestricted s ∧
      anything.build (.ofList [("nids", "9007199254740993")]) = .ok r ∧
      s.execute .still r.descriptor = some [9007199254740992, 9007199254740993] ∧
      anything.build (.ofList [("nid", "9007199254740993")]) = .ok r' ∧
      s.execute .still r'.descriptor = some [9007199254740992, 9007199254740993] := by
  intro record
  refine ⟨_, _, _, rfl, ⟨rfl, rfl, rfl, rfl, rfl, by decide⟩, rfl, ?_, rfl, ?_⟩
  · decide +kernel
  · decide +kernel

end Builder
end Listing
