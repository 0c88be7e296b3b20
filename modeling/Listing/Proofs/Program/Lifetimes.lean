import Listing.Program.Answer
import Listing.Proofs.Query.Formats
import Listing.Proofs.Serving.Answers
import Listing.Proofs.Serving.Recall

/-!
Single requests to the program, and the lifetime of their answers. Nothing that is checked of a configuration fails
a request later. How long answers live is not checked: where no clock can show the instant at which an answer would
expire, the program halts at the first request that can be read. It also halts where the sort keys of a request do not
let its records be sorted. All other requests are answered.
-/

namespace Listing

/-! ### The first request of a memory -/

namespace Store
variable {σ : Type} {s : Store} {shuffle : Shuffle} {b : Builder} {p : Params} {response : Response}

/-- An empty memory has no answer to give. The request is run, and what it comes to is lost if it is to be remembered
until an instant that no clock can show. -/
theorem respond_empty (answered : s.outcome shuffle b p = .ok response) (clock : StateM σ Instant)
    (ttl capacity : Nat) (world : σ) :
    ((s.dispatcher shuffle b clock ttl).respond (some (.empty capacity)) p world).1.1 =
      if response.isCacheable ∧ ttl ≠ 0 ∧ Instant.limit ≤ (clock (clock world).2).1 + ttl then .error .expiry
      else .ok response := by
  simp only [Dispatcher.respond_eq, dispatcher_dispatch_cached, Cache.get_empty, answered]
  cases response.isCacheable with
  | false => rfl
  | true =>
    simp only [if_true, true_and]
    cases set : Cache.set? _ (clock (clock world).2).1 p.digest response ttl with
    | none =>
      rw [if_pos (Cache.set?_eq_none.mp set)]
      rfl
    | some cache =>
      have kept : ¬(ttl ≠ 0 ∧ Instant.limit ≤ (clock (clock world).2).1 + ttl) := fun overdue => by
        cases set.symm.trans (Cache.set?_eq_none.mpr overdue)
      rw [if_neg kept]
      rfl

/-- A request whose records cannot be sorted halts, unless an answer to it is remembered. -/
theorem respond_disordered (disordered : s.Disordered b p) (shuffle : Shuffle) (clock : StateM σ Instant) (ttl : Nat)
    {memory : Dispatcher.Memory} (world : σ)
    (unknown : ∀ cache, memory = some cache → (cache.get (clock world).1 p.digest).1 = none) :
    ((s.dispatcher shuffle b clock ttl).respond memory p world).1.1 = .error .disorder := by
  have lost := outcome_of_disordered disordered shuffle
  cases memory with
  | none =>
    rw [dispatcher_respond, lost]
    rfl
  | some cache =>
    have missed := unknown cache rfl
    simp only [Dispatcher.respond_eq, dispatcher_dispatch_cached, lost]
    generalize cache.get (clock world).1 p.digest = got at missed
    obtain ⟨_, after⟩ := got
    cases missed
    rfl

end Store

/-! ### Configurations in use -/

/-- At this instant no clock can show when an answer would expire that is remembered now. -/
def Config.OutlastsClock (c : Config) (now : Instant) : Prop :=
  c.cache.enabled = true ∧ c.cache.ttl ≠ 0 ∧ Instant.limit ≤ now + c.cache.ttl.toNat * 1000000000

instance (c : Config) (now : Instant) : Decidable (c.OutlastsClock now) :=
  inferInstanceAs (Decidable (_ ∧ _ ∧ _))

namespace Host
variable {σ : Type} {host : Host (StateM σ)} {c : Config} {s : Store} {b : Builder} {p : Params} {world : σ}

def shuffleFor (host : Host (StateM σ)) (c : Config) (world : σ) : Shuffle :=
  (host.shuffle (host.builder c world).2).1

/-- The instant from which the answer to a request lives: a second look at the clock, the first one being for an
answer that was remembered before. -/
def answeredAt (host : Host (StateM σ)) (c : Config) (world : σ) : Instant :=
  (host.clock (host.clock (host.shuffle (host.builder c world).2).2).2).1

theorem builder_of_valid (host : Host (StateM σ)) (valid : c.validate = .ok ()) :
    ∃ formats offset, ∀ world,
      (host.builder c world).1 = .ok ⟨c.query, formats, offset, (host.today offset world).1⟩ := by
  obtain ⟨formats, offset, zoned, made⟩ := Config.make_of_valid valid
  refine ⟨formats, offset, fun world => ?_⟩
  simp only [builder, zoned, bind, StateT.bind, made]
  rfl

theorem dispatcher_of_built (built : (host.builder c world).1 = .ok b) (s : Store) :
    host.dispatcher c s world =
      (.ok (s.dispatcher (host.shuffleFor c world) b host.clock (c.cache.ttl.toNat * 1000000000)),
        (host.shuffle (host.builder c world).2).2) := by
  simp only [dispatcher, shuffleFor, bind, StateT.bind]
  generalize host.builder c world = made at built
  obtain ⟨made, world'⟩ := made
  obtain rfl : made = .ok b := built
  rfl

/-- The first request of a configuration is answered, unless its answer would outlast the clock. -/
theorem respond_fresh {shuffle : Shuffle} {response : Response} (answered : s.outcome shuffle b p = .ok response)
    (clock : StateM σ Instant) (world : σ) :
    ((s.dispatcher shuffle b clock (c.cache.ttl.toNat * 1000000000)).respond (memory c) p world).1.1 =
      if response.isCacheable ∧ c.OutlastsClock (clock (clock world).2).1 then .error .expiry else .ok response := by
  cases enabled : c.cache.enabled with
  | false =>
    have unset : ¬c.OutlastsClock (clock (clock world).2).1 := fun outlasts => by
      cases enabled.symm.trans outlasts.1
    have none : memory c = none := by
      rw [memory, enabled]
      rfl
    rw [none, if_neg fun lost => unset lost.2, Store.dispatcher_respond, answered]
    rfl
  | true =>
    have seconds : c.cache.ttl.toNat * 1000000000 ≠ 0 ↔ c.cache.ttl ≠ 0 := by
      rw [Ne, Ne, ← UInt64.toNat_inj, UInt64.toNat_zero]
      omega
    have fresh : memory c = some (.empty c.cache.capacity.toNat) := by
      rw [memory, enabled]
      rfl
    rw [fresh, Store.respond_empty answered]
    simp only [Config.OutlastsClock, enabled, true_and, seconds]

theorem query_eq (built : (host.builder c world).1 = .ok b) (s : Store) (p : Params) :
    (host.query c s p world).1 =
      match ((s.dispatcher (host.shuffleFor c world) b host.clock (c.cache.ttl.toNat * 1000000000)).respond (memory c) p
        (host.shuffle (host.builder c world).2).2).1.1 with
      | .ok response => .ok (c.output.outcome response)
      | .error reason => .error (.halt reason) := by
  simp only [query, bind, StateT.bind, dispatcher_of_built built]
  generalize (s.dispatcher (host.shuffleFor c world) b host.clock (c.cache.ttl.toNat * 1000000000)).respond
    (memory c) p (host.shuffle (host.builder c world).2).2 = done
  obtain ⟨⟨reason | response, after⟩, world'⟩ := done <;> rfl

theorem query_of_built (built : (host.builder c world).1 = .ok b) {response : Response}
    (answered : s.outcome (host.shuffleFor c world) b p = .ok response) :
    (host.query c s p world).1 =
      if response.isCacheable ∧ c.OutlastsClock (host.answeredAt c world) then .error (.halt .expiry)
      else .ok (c.output.outcome response) := by
  rw [query_eq built, respond_fresh answered, ← answeredAt]
  by_cases lost : response.isCacheable ∧ c.OutlastsClock (host.answeredAt c world)
  · rw [if_pos lost, if_pos lost]
  · rw [if_neg lost, if_neg lost]

theorem query_disordered (built : (host.builder c world).1 = .ok b) (disordered : s.Disordered b p) :
    (host.query c s p world).1 = .error (.halt .disorder) := by
  have fresh : ∀ now cache, memory c = some cache → (cache.get now p.digest).1 = none := by
    intro now cache held
    unfold memory at held
    split at held
    · cases held
      rfl
    · cases held
  rw [query_eq built, Store.respond_disordered disordered _ _ _ _ (fresh _)]

/-- A configuration in use answers every request over every store, and never by the placeholder for failures, unless
the records cannot be sorted, which halts the program, or its answers outlast the clock. Then the requests that can be
read halt the program, and only those. -/
theorem query_answered_or_halted (host : Host (StateM σ)) (c : Config) (s : Store) (p : Params) (world : σ)
    (valid : c.validate = .ok ()) :
    ∃ b, (host.builder c world).1 = .ok b ∧
      (s.Disordered b p → (host.query c s p world).1 = .error (.halt .disorder)) ∧
      (¬s.Disordered b p → ∃ response,
        s.outcome (host.shuffleFor c world) b p = .ok response ∧ response.isFailure = false ∧
        (host.query c s p world).1 =
          if (b.build p).isOk ∧ c.OutlastsClock (host.answeredAt c world) then .error (.halt .expiry)
          else .ok (c.output.outcome response)) := by
  obtain ⟨formats, offset, built⟩ := host.builder_of_valid valid
  refine ⟨_, built world, query_disordered (built world), fun ordered => ?_⟩
  obtain ⟨response, answered, calm, worth⟩ := Store.exists_outcome (host.shuffleFor c world) ordered
  have shown := query_of_built (built world) answered
  rw [worth] at shown
  exact ⟨response, answered, calm, shown⟩

/-- A host on whose clock no time passes and whose files all hold the same text. -/
def standing (text : String) : Host (StateM Unit) where
  readText _ := return .ok text
  writeText _ _ := return .ok ()
  pathExists _ := return true
  getVariable _ := return none
  places := return []
  clock := return 0
  today _ := return Builder.standard.today
  shuffle := return .still

/-- The standard configuration with the longest lifetime that a clock at its start can show. -/
def lasting : Config := { Config.standard with cache := ⟨true, 256, 9223372036854775807⟩ }

def everlasting : Config := { Config.standard with cache := ⟨true, 256, Count.top⟩ }

theorem single_ordered : ¬(Store.published [7] (by decide)).Disordered .standard ∅ := by
  refine Store.ordered_of_transOn fun request built => ?_
  obtain ⟨-, rfl⟩ := Builder.build_eq_ok.mp built
  decide +kernel

theorem lasting_answer_given :
    let host := standing ""
    let s := Store.published [7] (by decide)
    lasting.validate = .ok () ∧ (Builder.standard.build ∅).isOk = true ∧ ¬s.Disordered .standard ∅ ∧
      ∃ response, s.outcome .still .standard ∅ = .ok response ∧
        (host.query lasting s ∅ ()).1 = .ok ⟨(lasting.output.outcome response).value, false⟩ := by
  intro host s
  have valid : lasting.validate = .ok () := rfl
  obtain ⟨b, built, -, ordered⟩ := query_answered_or_halted host lasting s ∅ () valid
  obtain rfl : Builder.standard = b := Except.ok.inj built
  obtain ⟨response, answered, calm, shown⟩ := ordered single_ordered
  have short : ¬lasting.OutlastsClock (host.answeredAt lasting ()) := by decide
  rw [if_neg fun overdue => short overdue.2] at shown
  refine ⟨valid, rfl, single_ordered, response, answered, shown.trans ?_⟩
  rw [← calm]
  rfl

/-- Validation lets a lifetime in that no clock outlives, and then the first request halts the program. The standard
configuration halts as well, over records that cannot be sorted. -/
theorem valid_configurations_halt :
    (everlasting.validate = .ok () ∧
      ((standing "").query everlasting (Store.published [7] (by decide)) ∅ ()).1 = .error (.halt .expiry)) ∧
    Config.standard.validate = .ok () ∧
      ((standing "").query .standard Store.tangle Store.beyondTangle ()).1 = .error (.halt .disorder) := by
  have builtEverlasting : ((standing "").builder everlasting ()).1 = .ok .standard := rfl
  have builtStandard : ((standing "").builder .standard ()).1 = .ok .standard := rfl
  obtain ⟨response, answered, _, worth⟩ := Store.exists_outcome .still single_ordered
  have overdue : everlasting.OutlastsClock ((standing "").answeredAt everlasting ()) := by decide
  exact ⟨⟨rfl, (query_of_built builtEverlasting answered).trans (if_pos ⟨worth.trans rfl, overdue⟩)⟩, rfl,
    query_disordered builtStandard Store.tangle_disordered⟩

end Host
end Listing
