import Mathlib.Data.Finset.Card
import Listing.Proofs.Fragment.Terms
import Listing.Proofs.Store.Ids

/-!
What a store holds after any insertions, accepted or not: under each id the record that was accepted last, in the order
in which the ids were accepted first. A store that is loaded from a list is what these insertions leave, unless one of
them is rejected.
-/

namespace Listing

/-! ### Merged pairs as a map -/

namespace OrderedMap
variable {κ ν : Type} [DecidableEq κ] {pairs : List (κ × ν)} {m : OrderedMap κ ν}

theorem Merges.get?_eq (merges : Merges pairs m.entries) (key : κ) :
    m.get? key = ((pairs.filter fun pair => pair.1 = key).getLast?).map Prod.snd := by
  cases found : m.get? key with
  | some value =>
    have last := merges.last _ ((m.get?_eq_some_iff).mp found)
    rw [last, Option.map_some]
  | none =>
    have absent : ∀ pair ∈ pairs, pair.1 ≠ key := by
      rintro pair member rfl
      obtain ⟨entry, held, same⟩ := List.mem_map.mp ((merges.keys pair.1).mpr (List.mem_map_of_mem member))
      have bound : m.get? entry.1 = some entry.2 := (m.get?_eq_some_iff).mpr held
      rw [same, found] at bound
      cases bound
    have nothing : pairs.filter (fun pair => pair.1 = key) = [] := by
      simpa [List.filter_eq_nil_iff] using absent
    rw [nothing]
    rfl

theorem Merges.size_eq (merges : Merges pairs m.entries) : m.size = (pairs.map Prod.fst).toFinset.card := by
  have same : (m.entries.map Prod.fst).toFinset = (pairs.map Prod.fst).toFinset := by
    ext key
    rw [List.mem_toFinset, List.mem_toFinset, merges.keys]
  rw [← same, List.toFinset_card_of_nodup m.nodup, List.length_map]
  rfl

end OrderedMap

/-! ### Ids of records -/

inductive Json.Carries (idField : String) (record : Json) (id : Count) : Prop
  | count (held : record.field? idField = some (.number (.natural id)))
  | text {s : String} (held : record.field? idField = some (.text s))
      (spelt : Text.Unsigned (Text.trim s.toList) id.toNat)

inductive RecordFlaw.Verdict (idField : String) (record : Json) : Except RecordFlaw Count → Prop
  | accepted {id : Count} (carries : record.Carries idField id) : Verdict idField record (.ok id)
  | notObject (other : record.isObject = false) : Verdict idField record (.error (.notObject record))
  | noId (object : record.isObject = true) (bare : ∀ id, ¬record.Carries idField id) :
      Verdict idField record (.error (.noId idField record))

theorem Json.Carries.isObject {idField : String} {record : Json} {id : Count} (carries : record.Carries idField id) :
    record.isObject = true := by
  cases record with
  | object => rfl
  | _ => rcases carries with ⟨⟨⟩⟩ | ⟨⟨⟩, _⟩

namespace Store
open RecordFlaw (Verdict)
variable {s s' : Store} {idField : String} {record : Json} {records : List Json}
  {answers : List (Except RecordFlaw Count)}

theorem idOf?_eq_some {id : Count} : idOf? idField record = some id ↔ record.Carries idField id := by
  unfold idOf?
  constructor
  · intro own
    split at own
    · rename_i held
      cases own
      exact .count held
    · rename_i held
      exact .text held (Text.unsignedCount?_eq_some.mp own)
    · cases own
  · rintro (held | ⟨held, spelt⟩)
    · rw [held]
    · rw [held]
      exact Text.unsignedCount?_eq_some.mpr spelt

/-! ### Calls -/

/-- An insertion as its caller sees it: what it returns, and the store after it. -/
def offer (record : Json) : StateM Store (Except RecordFlaw Count) := fun s =>
  match s.insert record with
  | .ok (id, s') => (.ok id, s')
  | .error flaw => (.error flaw, s)

def offerAll : List Json → StateM Store (List (Except RecordFlaw Count))
  | [] => return []
  | record :: rest => do
    let answer ← offer record
    return answer :: (← offerAll rest)

def accepted (answers : List (Except RecordFlaw Count)) (records : List Json) : List Entry :=
  (answers.zip records).filterMap fun (answer, record) => answer.toOption.map (·, record)

theorem offer_cases (s : Store) (record : Json) :
    (∃ id, Verdict s.idField record (.ok id) ∧
      offer record s = (.ok id, { s with records := s.records.insert id record })) ∨
    ∃ flaw, Verdict s.idField record (.error flaw) ∧ offer record s = (.error flaw, s) := by
  unfold offer insert
  cases object : record.isObject with
  | false => exact .inr ⟨_, .notObject object, rfl⟩
  | true =>
    cases own : idOf? s.idField record with
    | none =>
      refine .inr ⟨_, .noId object fun id carries => ?_, rfl⟩
      rw [idOf?_eq_some.mpr carries] at own
      cases own
    | some id => exact .inl ⟨id, .accepted (idOf?_eq_some.mp own), rfl⟩

theorem offer_rejected {flaw : RecordFlaw} (rejected : (offer record s).1 = .error flaw) :
    (offer record s).2 = s := by
  rcases offer_cases s record with ⟨id, -, called⟩ | ⟨other, -, called⟩
  · rw [called] at rejected
    cases rejected
  · rw [called]

theorem offerAll_cons {answer : Except RecordFlaw Count} (first : offer record s = (answer, s'))
    (rest : List Json) :
    offerAll (record :: rest) s = (answer :: (offerAll rest s').1, (offerAll rest s').2) := by
  simp only [offerAll, bind, StateT.bind, first]
  rfl

theorem offerAll_spec {past : List Entry} (merges : OrderedMap.Merges past s.records.entries) (records : List Json) :
    (offerAll records s).2.idField = s.idField ∧
    List.Forall₂ (Verdict s.idField) records (offerAll records s).1 ∧
    OrderedMap.Merges (past ++ accepted (offerAll records s).1 records) (offerAll records s).2.records.entries := by
  -- Each record that is accepted joins the past, and the store merges all that is past.
  induction records generalizing s past with
  | nil => exact ⟨rfl, .nil, (List.append_nil past).symm ▸ merges⟩
  | cons record rest ih =>
    rcases offer_cases s record with ⟨id, verdict, called⟩ | ⟨flaw, verdict, called⟩
    · obtain ⟨field, verdicts, merges'⟩ := ih (s := { s with records := s.records.insert id record })
        (merges.insert id record)
      rw [offerAll_cons called]
      refine ⟨field, .cons verdict verdicts, ?_⟩
      rw [List.append_assoc] at merges'
      exact merges'
    · obtain ⟨field, verdicts, merges'⟩ := ih merges
      rw [offerAll_cons called]
      exact ⟨field, .cons verdict verdicts, merges'⟩

theorem insert_eq_offer (s : Store) (record : Json) :
    s.insert record = (offer record s).1.map fun id => (id, (offer record s).2) := by
  unfold offer
  cases s.insert record <;> rfl

theorem Filled.offerAll (filled : s.Filled) (records : List Json) : (offerAll records s).2.Filled := by
  induction records generalizing s with
  | nil => exact filled
  | cons record rest ih =>
    have inserted := insert_eq_offer s record
    rcases offer_cases s record with ⟨id, -, called⟩ | ⟨flaw, -, called⟩
    · rw [called] at inserted
      rw [offerAll_cons called]
      exact ih (.insert filled inserted)
    · rw [offerAll_cons called]
      exact ih filled

/-- Loading a list gives what the calls leave, or else the first rejection among their answers. -/
theorem foldlM_insert_eq (s : Store) (records : List Json) :
    records.foldlM (fun s record => (s.insert record).map Prod.snd) s =
      ((offerAll records s).1.mapM fun answer => answer).map fun _ => (offerAll records s).2 := by
  induction records generalizing s with
  | nil => rfl
  | cons record rest ih =>
    obtain ⟨answer, s', called⟩ : ∃ answer s', offer record s = (answer, s') := ⟨_, _, rfl⟩
    rw [List.foldlM_cons, insert_eq_offer, offerAll_cons called, called]
    cases answer with
    | error flaw => rfl
    | ok id =>
      change rest.foldlM _ s' = _
      rw [ih, List.mapM_cons]
      cases (offerAll rest s').1.mapM fun answer => answer <;> rfl

theorem ofRecords_eq_ok {loaded : Store} (called : offerAll records (empty idField) = (answers, s)) :
    ofRecords idField records = .ok loaded ↔ (∀ answer ∈ answers, ∃ id, answer = .ok id) ∧ loaded = s := by
  rw [ofRecords, foldlM_insert_eq, called]
  constructor
  · intro made
    obtain ⟨ids, all, rfl⟩ := map_eq_ok made
    exact ⟨exists_result_of_mapM_eq_ok all, rfl⟩
  · rintro ⟨all, rfl⟩
    cases made : answers.mapM fun answer => answer with
    | ok ids => rfl
    | error flaw =>
      obtain ⟨before, _, after, rfl, -, rfl⟩ := exists_of_mapM_eq_error made
      obtain ⟨id, same⟩ := all (.error flaw) (List.mem_append_right _ List.mem_cons_self)
      cases same

theorem ofRecords_eq_error {flaw : RecordFlaw} (called : offerAll records (empty idField) = (answers, s)) :
    ofRecords idField records = .error flaw ↔
      ∃ before after, answers = before ++ .error flaw :: after ∧ ∀ answer ∈ before, ∃ id, answer = .ok id := by
  rw [ofRecords, foldlM_insert_eq, called]
  constructor
  · intro failed
    cases made : answers.mapM fun answer => answer with
    | ok ids =>
      rw [made] at failed
      cases failed
    | error own =>
      rw [made] at failed
      cases failed
      obtain ⟨before, _, after, whole, earlier, rfl⟩ := exists_of_mapM_eq_error made
      exact ⟨before, after, whole, earlier⟩
  · rintro ⟨before, after, rfl, earlier⟩
    rw [mapM_eq_error earlier rfl]
    rfl

/-- Whatever is inserted into an empty store, and whether or not it is accepted: the ids stand in the order in which
they were accepted first, none of them twice, each with the record that was accepted last. A call that is rejected
changes nothing. A list is loaded just if all its records are accepted, and else the first rejection is its error. -/
theorem calls_keep_last_accepted (idField : String) (records : List Json) :
    ∃ answers s, offerAll records (empty idField) = (answers, s) ∧
      List.Forall₂ (Verdict idField) records answers ∧
      (∀ record flaw, (offer record s).1 = .error flaw → (offer record s).2 = s) ∧
      s.records.keys.Nodup ∧ OrderedMap.Merges (accepted answers records) s.records.entries ∧
      (∀ id, s.get? id = (((accepted answers records).filter fun entry => entry.1 = id).getLast?).map Prod.snd) ∧
      s.size = ((accepted answers records).map Prod.fst).toFinset.card ∧
      (∀ entry ∈ s.records.entries, entry.2.isObject = true ∧ entry.2.Carries idField entry.1) ∧
      (∀ loaded, ofRecords idField records = .ok loaded ↔ (∀ answer ∈ answers, ∃ id, answer = .ok id) ∧ loaded = s) ∧
      ∀ flaw, ofRecords idField records = .error flaw ↔
        ∃ before after, answers = before ++ .error flaw :: after ∧ ∀ answer ∈ before, ∃ id, answer = .ok id := by
  obtain ⟨answers, s, called⟩ : ∃ answers s, offerAll records (empty idField) = (answers, s) := ⟨_, _, rfl⟩
  have start : OrderedMap.Merges [] (empty idField).records.entries := OrderedMap.merges_ofList []
  obtain ⟨field, verdicts, merges⟩ := offerAll_spec start records
  have keyed := ((Filled.empty idField).offerAll records).keyed
  rw [called] at field verdicts merges keyed
  refine ⟨answers, s, called, verdicts, fun _ _ => offer_rejected, s.records.nodup, merges, merges.get?_eq,
    merges.size_eq, fun entry member => ?_, fun _ => ofRecords_eq_ok called, fun _ => ofRecords_eq_error called⟩
  have own := keyed entry member
  rw [show s.idField = idField from field] at own
  have carries := idOf?_eq_some.mp own
  exact ⟨carries.isObject, carries⟩

/-- Two spellings of an id are one place. -/
example :
    let seven (id : Json) (title : String) : Json := .object [("nid", id), ("title", .text title)]
    let records := [seven (.ofNat 7) "a", .ofNat 8, seven (.ofNat 3) "b", seven (.text " +07 ") "c"]
    (offerAll records (empty "nid")).2.records.entries =
      [(7, seven (.text " +07 ") "c"), (3, seven (.ofNat 3) "b")] := rfl

end Store
end Listing
