import Listing.Proofs.Sorting.Mapped
import Listing.Proofs.Store.Hits
import Mathlib.Data.List.Forall2

/-!
A value and the list of it alone. Paths pass through a list of one value as they pass through the value, so that
no filter and no order tells a record from one in which a field holds such a list in place of its value.
-/

namespace Listing

/-! ### Faces -/

namespace Store

def face (value : Json) : Option Decimal.Double × Option String := (number? value, text? value)

/-- At the end of every path two records show the same. -/
def ShowSame (a b : Json) : Prop := ∀ path, (resolve a path).map face = (resolve b path).map face

variable {a b c d : Json}

theorem compareOperand_congr (same : face a = face b) (operand : Scalar) :
    compareOperand a operand = compareOperand b operand := by
  obtain ⟨numbers, texts⟩ := Prod.mk.inj same
  unfold compareOperand
  rw [numbers, texts]

theorem compareValues_congr (same : face a = face b) (same' : face c = face d) :
    compareValues a c = compareValues b d := by
  obtain ⟨numbers, texts⟩ := Prod.mk.inj same
  obtain ⟨numbers', texts'⟩ := Prod.mk.inj same'
  unfold compareValues
  rw [numbers, texts, numbers', texts']

theorem passes_congr (same : face a = face b) (operand : Scalar) (op : Operator) :
    passes a operand op = passes b operand op := by
  have texts : text? a = text? b := congrArg Prod.snd same
  have order := compareOperand_congr same operand
  cases op with
  | contains => simp only [passes, texts]
  | _ => simp only [passes, order]

theorem listed_congr (same : face a = face b) (operands : List Scalar) : listed a operands = listed b operands := by
  unfold listed
  simp only [compareOperand_congr same]

theorem any_congr_of_faces {values values' : List Json} {p : Json → Bool} (same : values.map face = values'.map face)
    (seen : ∀ a b, face a = face b → p a = p b) : values.any p = values'.any p := by
  induction values generalizing values' with
  | nil =>
    cases values' with
    | nil => rfl
    | cons => cases same
  | cons value rest ih =>
    cases values' with
    | nil => cases same
    | cons value' rest' =>
      obtain ⟨first, others⟩ := List.cons.inj same
      rw [List.any_cons, List.any_cons, seen value value' first, ih others]

theorem passesTest_congr {values values' : List Json} (same : values.map face = values'.map face) (test : Test) :
    passesTest values test = passesTest values' test := by
  cases test with
  | equals operand => exact any_congr_of_faces same fun _ _ look => passes_congr look operand .eq
  | compare operand op => exact any_congr_of_faces same fun _ _ look => passes_congr look operand op
  | between low high =>
    refine any_congr_of_faces same fun _ _ look => ?_
    rw [passes_congr look, passes_congr look]
  | isIn operands => exact any_congr_of_faces same fun _ _ look => listed_congr look operands
  | notIn operands =>
    exact congrArg (! ·) (any_congr_of_faces same fun _ _ look => listed_congr look operands)

/-! ### Records that show the same -/

mutual
theorem meets_congr (same : ShowSame a b) : ∀ c : Condition, meets a c = meets b c
  | .leaf l => by simp only [meets, passesTest_congr (same l.field)]
  | .group .and children => by simp only [meets, meetsAll_congr same children]
  | .group .or children => by simp only [meets, meetsSome_congr same children]

theorem meetsAll_congr (same : ShowSame a b) : ∀ children : List Condition, meetsAll a children = meetsAll b children
  | [] => rfl
  | c :: rest => by simp only [meetsAll, meets_congr same c, meetsAll_congr same rest]

theorem meetsSome_congr (same : ShowSame a b) :
    ∀ children : List Condition, meetsSome a children = meetsSome b children
  | [] => rfl
  | c :: rest => by simp only [meetsSome, meets_congr same c, meetsSome_congr same rest]
end

theorem asks_congr {q : Descriptor} (same : ShowSame a b) : q.Asks a ↔ q.Asks b := by
  rw [← admits_applyFilters, ← admits_applyFilters, Selection.admits, Selection.admits, meetsAll_congr same]

theorem compareBy_congr (same : ShowSame a b) (same' : ShowSame c d) (key : SortKey) :
    compareBy key a c = compareBy key b d := by
  have heads := congrArg List.head? (same key.field)
  have heads' := congrArg List.head? (same' key.field)
  rw [List.head?_map, List.head?_map] at heads heads'
  unfold compareBy
  match (resolve a key.field).head?, (resolve b key.field).head?, heads,
      (resolve c key.field).head?, (resolve d key.field).head?, heads' with
  | none, none, _, none, none, _ => rfl
  | none, none, _, some _, some _, _ => rfl
  | some _, some _, _, none, none, _ => rfl
  | some _, some _, faces, some _, some _, faces' =>
    exact congrArg (orient key.direction)
      (compareValues_congr (Option.some.inj faces) (Option.some.inj faces'))

theorem compareRecords_congr (same : ShowSame a b) (same' : ShowSame c d) (keys : List SortKey) :
    compareRecords keys a c = compareRecords keys b d := by
  induction keys with
  | nil => rfl
  | cons key rest ih => rw [compareRecords, compareRecords, compareBy_congr same same', ih]

/-! ### Entries that show the same -/

def Entry.Same (e e' : Entry) : Prop := e.1 = e'.1 ∧ ShowSame e.2 e'.2

theorem map_fst_of_same {entries entries' : List Entry} (same : List.Forall₂ Entry.Same entries entries') :
    entries.map Prod.fst = entries'.map Prod.fst := by
  induction same with
  | nil => rfl
  | cons first _ ih => rw [List.map_cons, List.map_cons, first.1, ih]

structure Twins where
  first : Entry
  second : Entry
  same : first.Same second

theorem precedes_twins (keys : List SortKey) (t t' : Twins) :
    precedes keys t.first t'.first = precedes keys t.second t'.second := by
  unfold precedes
  rw [compareRecords_congr t.same.2 t'.same.2]

theorem exists_twins {entries entries' : List Entry} (same : List.Forall₂ Entry.Same entries entries') :
    ∃ twins : List Twins, twins.map Twins.first = entries ∧ twins.map Twins.second = entries' := by
  induction same with
  | nil => exact ⟨[], rfl, rfl⟩
  | cons look _ ih =>
    obtain ⟨twins, rfl, rfl⟩ := ih
    exact ⟨⟨_, _, look⟩ :: twins, rfl, rfl⟩

/-- Whatever a sort makes of entries, it makes the same of entries that show the same. -/
theorem sortEntries_same (keys : List SortKey) {entries entries' : List Entry}
    (same : List.Forall₂ Entry.Same entries entries') :
    (sortEntries keys entries).map (·.map Prod.fst) = (sortEntries keys entries').map (·.map Prod.fst) := by
  have ids := map_fst_of_same same
  unfold sortEntries
  split
  · exact congrArg some ids
  · obtain ⟨twins, rfl, rfl⟩ := exists_twins same
    rw [Sorting.stable_map (fun t t' => rfl), Sorting.stable_map fun t t' => (precedes_twins keys t t').symm,
      Option.map_map, Option.map_map]
    refine congrArg (Option.map · _) (funext fun order => ?_)
    simp only [Function.comp_apply, List.map_map]
    exact List.map_congr_left fun t _ => t.same.1

variable {s s' : Store}

theorem hits_same (same : List.Forall₂ Entry.Same s.records.entries s'.records.entries) (q : Descriptor) :
    List.Forall₂ Entry.Same (s.hits q) (s'.hits q) := by
  refine List.rel_filter ?_ same
  intro entry entry' look
  simp only [decide_eq_true_eq]
  exact asks_congr look.2

/-- A store does not tell records that show the same apart. -/
theorem listing_same (same : List.Forall₂ Entry.Same s.records.entries s'.records.entries) (q : Descriptor) :
    s.listing q = s'.listing q := by
  rw [listing_eq, listing_eq]
  exact sortEntries_same q.sort (hits_same same q)

theorem count_same (same : List.Forall₂ Entry.Same s.records.entries s'.records.entries) (q : Descriptor) :
    s.count q = s'.count q := by
  unfold count
  rw [matching_eq_hits rfl, matching_eq_hits rfl, (hits_same same q).length_eq]

end Store

/-! ### Lists of one value -/

def Json.enlist (name : String) : Json → Json
  | .object fields => .object (fields.map fun field => (field.1, if field.1 = name then .array [field.2] else field.2))
  | other => other

def Store.enlist (chosen : Count → Bool) (name : String) (s : Store) : Store where
  idField := s.idField
  records := {
    entries := s.records.entries.map fun e => (e.1, if chosen e.1 then e.2.enlist name else e.2)
    nodup := by
      rw [List.map_map]
      exact s.records.nodup }

/-- A value that every segment of a path sees as it sees the list of it alone: no list itself, and no object in
which a number names a field. -/
def Json.Single : Json → Prop
  | .array _ => False
  | .object fields => ∀ field ∈ fields, Store.index? field.1.toList = none
  | _ => True

namespace Json
variable {value : Json}

theorem lookup_enlist (name : String) (fields : List (String × Json)) (key : String) :
    (fields.map fun field => (field.1, if field.1 = name then array [field.2] else field.2)).lookup key =
      (fields.lookup key).map fun value => if key = name then array [value] else value :=
  OrderedMap.lookup_map (fun key value => if key = name then array [value] else value) fields key

theorem step_of_field {fields : List (String × Json)} {segment : List Char}
    (found : fields.lookup (String.ofList segment) = some value) : Store.step segment (object fields) = [value] := by
  simp [Store.step, found]

theorem step_of_absent {fields : List (String × Json)} {segment : List Char}
    (absent : fields.lookup (String.ofList segment) = none) :
    Store.step segment (object fields) = if Store.index? segment = some 0 then [object fields] else [] := by
  simp [Store.step, absent]

theorem Single.step_array (single : value.Single) (segment : List Char) :
    Store.step segment (array [value]) = Store.step segment value := by
  cases value with
  | array => exact single.elim
  | object fields =>
    cases place : Store.index? segment with
    | none =>
      cases found : fields.lookup (String.ofList segment) <;>
        simp [Store.step, place, field?, found]
    | some i =>
      have absent : fields.lookup (String.ofList segment) = none := by
        refine Option.eq_none_iff_forall_ne_some.mpr fun held found => ?_
        have named := single _ (OrderedMap.mem_of_lookup found)
        rw [String.toList_ofList, place] at named
        cases named
      cases i <;> simp [Store.step, place, absent]
  | _ =>
    cases place : Store.index? segment with
    | none => simp [Store.step, place, field?]
    | some i => cases i <;> simp [Store.step, place]

/-- Behind a path that starts at the list of a single value stand the values behind the one from the value. -/
theorem Single.walk_array (single : value.Single) (segments : List (List Char)) :
    (Store.walk segments [array [value]]).flatMap Store.spread =
      (Store.walk segments [value]).flatMap Store.spread := by
  cases segments with
  | nil =>
    cases value with
    | array => exact single.elim
    | _ => rfl
  | cons segment rest =>
    simp only [Store.walk_cons, List.flatMap_singleton, single.step_array]

/-- A path into an object with an enlisted field leads to the same values, or it never leaves the object. -/
theorem walk_enlist {name : String} {fields : List (String × Json)}
    (single : ∀ value, fields.lookup name = some value → value.Single) (segments : List (List Char)) :
    (Store.walk segments [(object fields).enlist name]).flatMap Store.spread =
        (Store.walk segments [object fields]).flatMap Store.spread ∨
      (Store.walk segments [(object fields).enlist name] = [(object fields).enlist name] ∧
        Store.walk segments [object fields] = [object fields]) := by
  -- A segment finds the field, and the walks go on as from a value and its list, or another field, the same in both
  -- objects, or none, and then a zero stays where it is.
  induction segments with
  | nil => exact .inr ⟨rfl, rfl⟩
  | cons segment rest ih =>
    simp only [Store.walk_cons, List.flatMap_singleton]
    have seen := lookup_enlist name fields (String.ofList segment)
    cases found : fields.lookup (String.ofList segment) with
    | some value =>
      rw [found, Option.map_some] at seen
      rw [enlist, step_of_field seen, step_of_field found]
      split
      · rename_i own
        exact .inl ((single value (own ▸ found)).walk_array rest)
      · exact .inl rfl
    | none =>
      rw [found, Option.map_none] at seen
      rw [enlist, step_of_absent seen, step_of_absent found]
      split
      · exact ih
      · exact .inl rfl

theorem enlist_showSame {name : String} {record : Json}
    (single : ∀ value, record.field? name = some value → value.Single) :
    Store.ShowSame (record.enlist name) record := by
  intro path
  cases record with
  | object fields =>
    unfold Store.resolve
    rcases walk_enlist single (path.toList.splitOn '.') with same | ⟨here, there⟩
    · rw [same]
    · rw [here, there]
      rfl
  | _ => rfl

theorem field?_enlist {name other : String} (apart : name ≠ other) (record : Json) :
    (record.enlist name).field? other = record.field? other := by
  cases record with
  | object fields =>
    have seen := lookup_enlist name fields other
    simp only [if_neg apart.symm, Option.map_id'] at seen
    exact seen
  | _ => rfl

end Json

namespace Store

variable {s : Store} {chosen : Count → Bool} {name : String}

theorem get?_enlist (s : Store) (chosen : Count → Bool) (name : String) (id : Count) :
    (s.enlist chosen name).get? id =
      (s.get? id).map fun record => if chosen id then record.enlist name else record :=
  OrderedMap.lookup_map (fun id (record : Json) => if chosen id then record.enlist name else record)
    s.records.entries id

theorem enlist_same (single : ∀ id record, s.get? id = some record → chosen id = true →
      ∀ value, record.field? name = some value → value.Single) :
    List.Forall₂ Entry.Same (s.enlist chosen name).records.entries s.records.entries := by
  refine List.forall₂_map_left_iff.mpr (List.forall₂_same.mpr ?_)
  rintro ⟨id, record⟩ member
  refine ⟨rfl, ?_⟩
  dsimp only
  split
  · rename_i picked
    exact Json.enlist_showSame (single id record ((s.records.get?_eq_some_iff).mpr member) picked)
  · exact fun _ => rfl

/-- A store answers every listing in an order of its own as before once the single values of a field are put into
lists of their own, in whichever records; each record keeps its id. -/
theorem single_value_as_list (s : Store) (chosen : Count → Bool) (name : String) (other : name ≠ s.idField)
    (single : ∀ id record, s.get? id = some record → chosen id = true →
      ∀ value, record.field? name = some value → value.Single)
    (d : Descriptor) (settled : d.random = false) :
    (∀ shuffle shuffle', (s.enlist chosen name).execute shuffle d = s.execute shuffle' d) ∧
      (s.enlist chosen name).count d = s.count d ∧
      ∀ id, ((s.enlist chosen name).get? id).bind (idOf? s.idField) = (s.get? id).bind (idOf? s.idField) := by
  have same := enlist_same single
  refine ⟨fun shuffle shuffle' => ?_, count_same same d, fun id => ?_⟩
  · rw [execute_of_settled _ _ settled, execute_of_settled _ _ settled, listing_same same]
  · rw [get?_enlist]
    cases s.get? id with
    | none => rfl
    | some record =>
      rw [Option.map_some, Option.bind_some, Option.bind_some]
      split
      · unfold idOf?
        rw [Json.field?_enlist other]
      · rfl

def visits : Store where
  idField := "nid"
  records := .ofList [
    (7, .object [("nid", .ofNat 7), ("place", .object [("town", .text "Cork")])]),
    (8, .object [("nid", .ofNat 8), ("place", .object [("town", .text "Naas")])])]

theorem towns_in_lists :
    let d : Descriptor := {
      entityKind := "node", bundleField := "type", bundle := .any
      conditions := .ofList [("place.0.town", .compare (.text "Dublin") .ne)]
      group := none, dates := none, window := ⟨0, 10⟩, sort := [⟨"place.town", .desc⟩], random := false }
    "place" ≠ visits.idField ∧
      (∀ id record, visits.get? id = some record → (id == 7) = true →
        ∀ value, record.field? "place" = some value → value.Single) ∧
      d.random = false ∧ (visits.enlist (· == 7) "place").execute .still d = some [8, 7] := by
  intro d
  have single : ∀ id record, visits.get? id = some record → (id == 7) = true →
      ∀ value, record.field? "place" = some value → value.Single := by
    intro id record found picked value held
    rw [eq_of_beq picked] at found
    cases found
    cases held
    intro field member
    cases List.mem_singleton.mp member
    decide
  have same := single_value_as_list visits (· == 7) "place" (by decide) single d rfl
  refine ⟨by decide, single, rfl, (same.1 .still .still).trans ?_⟩
  decide +kernel

end Store
end Listing
