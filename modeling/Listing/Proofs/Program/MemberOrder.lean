import Listing.Proofs.Json.Written
import Listing.Proofs.Program.Batches
import Listing.Proofs.Serving.Transparency

/-!
The order in which the members of a request are written. A batch takes them in the order of their names, a command
line in the order in which they are given. Members that get into each other's way are answered differently by the
two; all others are answered alike.
-/

namespace Listing

/-! ### Parameters in another order -/

/-- Parameters that may be given in any order: those that cannot be read fail alike, and if all can be read, no two of
them set the same part. -/
structure Builder.Reorderable (b : Builder) (entries : List (String × String)) : Prop where
  failures : ∀ first ∈ entries, ∀ second ∈ entries, ∀ error error', b.changeOf first = .error error →
    b.changeOf second = .error error' → error = error'
  orderless : (∀ entry ∈ entries, b.Accepts entry) → b.Orderless entries

namespace Store
variable {s : Store} {b : Builder} {p q : Params}

theorem outcome_of_reorderable (shuffle : Shuffle) (perm : p.entries.Perm q.entries)
    (reorderable : b.Reorderable q.entries) : s.outcome shuffle b p = s.outcome shuffle b q := by
  cases built : b.build p with
  | ok request =>
    have accepted := (Builder.build_eq_ok.mp built).1
    have orderless := reorderable.orderless fun entry member => accepted entry (perm.mem_iff.mpr member)
    exact (outcome_of_perm shuffle built perm orderless).symm
  | error error =>
    obtain ⟨entry, member, refused⟩ := Builder.refused_of_build built
    have here : entry ∈ q.entries := perm.mem_iff.mp member
    cases built' : b.build q with
    | ok request =>
      obtain ⟨c, accepted⟩ := (Builder.build_eq_ok.mp built').1 entry here
      rw [refused] at accepted
      cases accepted
    | error error' =>
      obtain ⟨other, member', refused'⟩ := Builder.refused_of_build built'
      obtain rfl := reorderable.failures entry here other member' error error' refused refused'
      unfold outcome
      rw [built, built']

theorem respond_congr {m : Type → Type} [Monad m] [LawfulMonad m] {shuffle : Shuffle} (clock : m Instant) (ttl : Nat)
    (memory : Dispatcher.Memory) (digest : p.digest = q.digest)
    (same : s.outcome shuffle b p = s.outcome shuffle b q) :
    (s.dispatcher shuffle b clock ttl).respond memory p = (s.dispatcher shuffle b clock ttl).respond memory q := by
  simp only [Dispatcher.respond, Dispatcher.dispatch, Dispatcher.dispatchFor, dispatcher_run, digest, same]

end Store

/-! ### Requests of a batch as they are written -/

namespace Batch
variable {members sorted : List (String × String)}

theorem request_of_members (distinct : (members.map Prod.fst).Nodup) :
    ∃ fields p, Json.ofFields (members.map Json.Reader.textField) = .object fields ∧ request fields = .ok p ∧
      Ascending p.entries ∧ p.entries.Perm members := by
  have names : ((members.map Json.Reader.textField).map Prod.fst).Nodup := by rwa [List.map_map]
  obtain ⟨fields, made, ascending, perm⟩ := Json.exists_ascending names
  let pair (field : String × Json) : Option (String × String) := (textOf? field.2).map (field.1, ·)
  have accepted : request fields = .ok (OrderedMap.ofList (fields.filterMap pair)) := by
    unfold request
    rw [Store.mapM_eq_ok (g := pair)]
    · rfl
    · intro field member
      obtain ⟨⟨name, s⟩, -, rfl⟩ := List.mem_map.mp (perm.mem_iff.mp member)
      exact ⟨(name, s), rfl, rfl⟩
  have back : (members.map Json.Reader.textField).filterMap pair = members := by
    rw [List.filterMap_map]
    exact List.filterMap_some
  have pairs : (fields.filterMap pair).Perm members := back ▸ perm.filterMap pair
  refine ⟨fields, _, made, accepted, ascending_request ascending accepted, ?_⟩
  rwa [OrderedMap.entries_ofList ((pairs.map Prod.fst).nodup_iff.mpr distinct)]

/-- A batch takes the members of each object in the order of their names. -/
theorem parse_of_written {text : String} {objects : List (List (String × String))}
    (written : Json.WrittenObjects text objects) (distinct : ∀ members ∈ objects, (members.map Prod.fst).Nodup) :
    ∃ requests, parse text = .ok requests ∧
      List.Forall₂ (fun members p => Ascending p.entries ∧ p.entries.Perm members) objects requests := by
  have taken : ∃ each requests,
      objects? (objects.map fun members => .ofFields (members.map Json.Reader.textField)) = some each ∧
      each.mapM request = .ok requests ∧
      List.Forall₂ (fun members p => Ascending p.entries ∧ p.entries.Perm members) objects requests := by
    clear written
    induction objects with
    | nil => exact ⟨[], [], rfl, rfl, .nil⟩
    | cons members rest ih =>
      obtain ⟨own, later⟩ := List.forall_mem_cons.mp distinct
      obtain ⟨fields, p, made, accepted, ordered⟩ := request_of_members own
      obtain ⟨each, requests, split, all, others⟩ := ih later
      refine ⟨fields :: each, p :: requests, ?_, ?_, .cons ordered others⟩
      · rw [List.map_cons, made, objects?, split]
        rfl
      · rw [List.mapM_cons, accepted, all]
        rfl
  obtain ⟨each, requests, split, all, ordered⟩ := taken
  refine ⟨requests, ?_, ordered⟩
  unfold parse
  rw [Json.parse?_of_written written]
  simp only [split, all]

end Batch

/-! ### Answers of the program -/

namespace Host
variable {m : Type → Type} [Monad m] [LawfulMonad m]

theorem bind_builder_congr {β : Type} (host : Host m) (c : Config) {next next' : Except ProgramError Builder → m β}
    (agree : ∀ day, next ((Builder.make c.query day).mapError .build) =
      next' ((Builder.make c.query day).mapError .build)) :
    host.builder c >>= next = host.builder c >>= next' := by
  unfold builder
  cases c.query.offset with
  | error => simp only [pure_bind, agree]
  | ok offset => simp only [bind_assoc, pure_bind, agree]

theorem query_congr (host : Host m) (c : Config) (s : Store) {p q : Params} (perm : p.entries.Perm q.entries)
    (reorderable : ∀ day b, Builder.make c.query day = .ok b → b.Reorderable q.entries) :
    host.query c s p = host.query c s q := by
  have digest : p.digest = q.digest := congrArg Digest.Sha256.hex (Params.encoding_of_perm perm)
  unfold query dispatcher
  rw [bind_assoc, bind_assoc]
  refine host.bind_builder_congr c fun day => ?_
  cases made : Builder.make c.query day with
  | error error => simp only [Except.mapError, pure_bind]
  | ok b =>
    have same (shuffle : Shuffle) := Store.outcome_of_reorderable (s := s) shuffle perm (reorderable day b made)
    simp only [Except.mapError, bind_assoc, pure_bind, fun shuffle => Store.respond_congr host.clock
      (c.cache.ttl.toNat * 1000000000) (memory c) digest (same shuffle)]

/-- A batch answers each request as a command line does that is given the members sorted by their names. It answers as
one that is given the members as they are written does, unless two of them cannot be read for different reasons or
set the same part of the request. -/
theorem batch_takes_members_sorted (host : Host m) (c : Config) (s : Store) {text : String}
    {objects : List (List (String × String))} (written : Json.WrittenObjects text objects)
    (distinct : ∀ members ∈ objects, (members.map Prod.fst).Nodup) :
    ∃ requests, Batch.parse text = .ok requests ∧ List.Forall₂ (fun members p =>
      (Ascending p.entries ∧ p.entries.Perm members) ∧
      ((∀ day b, Builder.make c.query day = .ok b → b.Reorderable members) →
        host.query c s p = host.query c s (.ofList members))) objects requests := by
  obtain ⟨requests, accepted, ordered⟩ := Batch.parse_of_written written distinct
  refine ⟨requests, accepted, ordered.imp fun members p ⟨ascending, perm⟩ => ⟨⟨ascending, perm⟩, fun reorderable => ?_⟩⟩
  have whole : (OrderedMap.ofList members).entries = members :=
    OrderedMap.entries_ofList ((perm.map Prod.fst).nodup_iff.mp p.nodup)
  exact host.query_congr c s (whole.symm ▸ perm) (whole.symm ▸ reorderable)

def forgetful : Config := { Config.standard with cache := ⟨false, 1, 300⟩ }

section
open Json

theorem escaped_members_written :
    WrittenObjects "[ \x7b\"view_mode\": \"f\\u0075ll\", \"nid\":\"2\"\x7d, \x7b \x7d]"
      [[("view_mode", "full"), ("nid", "2")], []] := by
  have blank : Blank [' '] := List.forall_mem_singleton.mpr rfl
  have full : Literal ('f' :: '\\' :: 'u' :: ("0075".toList ++ "ll".toList)) ('f' :: 'u' :: "ll".toList) :=
    .plain rfl (.unit (n := 0x75) rfl (by decide) (.ofPlain rfl))
  have mode : Member "\"view_mode\": \"f\\u0075ll\"".toList ("view_mode", "full") :=
    .intro (.bare (Quoted.ofPlain "view_mode".toList rfl)) (.behind blank (Quoted.intro full))
  have id : Member " \"nid\":\"2\"".toList ("nid", "2") :=
    .intro (.behind blank (Quoted.ofPlain "nid".toList rfl))
      (.bare (Quoted.ofPlain ['2'] rfl))
  have object : WrittenObject _ [("view_mode", "full"), ("nid", "2")] := .full (.more mode (.one id))
  have nothing : WrittenObject _ [] := .empty blank
  exact Padded.bare (.full (.more (Padded.behind blank object) (.one (Padded.behind blank nothing))))

theorem conflicting_members_written :
    WrittenObjects "[\x7b\"nids\":\"2\",\"nid\":\"1\"\x7d]" [[("nids", "2"), ("nid", "1")]] := by
  have list : Member "\"nids\":\"2\"".toList ("nids", "2") :=
    .intro (.bare (Quoted.ofPlain "nids".toList rfl)) (.bare (Quoted.ofPlain ['2'] rfl))
  have single : Member "\"nid\":\"1\"".toList ("nid", "1") :=
    .intro (.bare (Quoted.ofPlain "nid".toList rfl)) (.bare (Quoted.ofPlain ['1'] rfl))
  have object : WrittenObject _ [("nids", "2"), ("nid", "1")] := .full (.more list (.one single))
  exact Padded.bare (.full (.one (Padded.bare object)))

end

theorem escaped_members_taken :
    let text := "[ \x7b\"view_mode\": \"f\\u0075ll\", \"nid\":\"2\"\x7d, \x7b \x7d]"
    let members := [("view_mode", "full"), ("nid", "2")]
    let s := Store.published [1, 2] (by decide)
    Json.WrittenObjects text [members, []] ∧ (∀ each ∈ [members, []], (each.map Prod.fst).Nodup) ∧
      (∀ day b, Builder.make forgetful.query day = .ok b → b.Reorderable members) ∧
      ∃ p, Batch.parse text = .ok [p, ∅] ∧ p.entries = [("nid", "2"), ("view_mode", "full")] ∧
        (standing text).query forgetful s p = (standing text).query forgetful s (.ofList members) := by
  intro text members s
  have distinct : ∀ each ∈ [members, []], (each.map Prod.fst).Nodup := by decide
  have reorderable : ∀ day b, Builder.make forgetful.query day = .ok b → b.Reorderable members := by
    intro day b made
    obtain rfl : { Builder.standard with today := day } = b := Except.ok.inj made
    have mode : Builder.changeOf { Builder.standard with today := day } ("view_mode", "full") =
        .ok (.viewMode "full") := rfl
    have id : Builder.changeOf { Builder.standard with today := day } ("nid", "2") =
        .ok (.require [⟨"nid", .equals (.int 2)⟩]) := rfl
    refine ⟨fun first member _ _ error _ refused => ?_, fun _ => List.pairwise_pair.mpr fun part set set' => ?_⟩
    · rcases List.mem_pair.mp member with rfl | rfl
      · cases mode.symm.trans refused
      · cases id.symm.trans refused
    · simp only [Builder.effect, mode, id] at set set'
      obtain rfl := List.mem_singleton.mp set
      cases List.mem_singleton.mp set'
  obtain ⟨requests, accepted, each⟩ :=
    batch_takes_members_sorted (standing text) forgetful s escaped_members_written distinct
  refine ⟨escaped_members_written, distinct, reorderable, ?_⟩
  rcases each with _ | @⟨_, p, _, _, ⟨⟨ascending, perm⟩, answered⟩, _ | @⟨_, other, _, _, ⟨⟨-, none⟩, -⟩, ⟨⟩⟩⟩
  have sorted : p.entries = [("nid", "2"), ("view_mode", "full")] :=
    ascending.eq_of_perm (by unfold Ascending; decide) (perm.trans (.swap _ _ []))
  obtain ⟨entries, nodup⟩ := other
  obtain rfl := List.perm_nil.mp none
  exact ⟨p, accepted, sorted, answered reorderable⟩

/-- Both members ask for an id, and the last one counts: `nid` as they are written, `nids` as they are sorted. -/
theorem conflicting_members_swapped :
    let text := "[\x7b\"nids\":\"2\",\"nid\":\"1\"\x7d]"
    let members := [("nids", "2"), ("nid", "1")]
    let s := Store.published [1, 2] (by decide)
    Json.WrittenObjects text [members] ∧ (members.map Prod.fst).Nodup ∧ ∃ p, Batch.parse text = .ok [p] ∧
      ((standing text).query forgetful s p ()).1 ≠ ((standing text).query forgetful s (.ofList members) ()).1 := by
  intro text members s
  have distinct : (members.map Prod.fst).Nodup := by decide
  obtain ⟨requests, accepted, each⟩ :=
    Batch.parse_of_written conflicting_members_written (List.forall_mem_singleton.mpr distinct)
  rcases each with _ | @⟨_, p, _, _, ⟨ascending, perm⟩, ⟨⟩⟩
  have sorted : p.entries = [("nid", "1"), ("nids", "2")] :=
    ascending.eq_of_perm (by unfold Ascending; decide) (perm.trans (.swap _ _ []))
  obtain rfl : p = .ofList [("nid", "1"), ("nids", "2")] := by
    obtain ⟨entries, nodup⟩ := p
    obtain rfl : entries = _ := sorted
    rfl
  refine ⟨conflicting_members_written, distinct, _, accepted, fun same => ?_⟩
  have printed := congrArg (fun answer => answer.toOption.map fun outcome => outcome.value.compact) same
  revert printed
  decide +kernel

end Host
end Listing
