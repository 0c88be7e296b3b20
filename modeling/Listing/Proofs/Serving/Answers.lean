import Listing.Proofs.Serving.Remembered
import Listing.Proofs.Store.Hits

/-!
What a dispatcher over a store answers without its cache. The store fails only where it cannot sort: every id that it
returns is that of a record, so rendering finds it. The answer depends on the request as it was built, not on how
it was written, and on the shuffle only where the request is random. It says what the ids of the request say.
-/

namespace Listing

/-- A request whose order, if it is built, is not random. -/
def Builder.Settled (b : Builder) (p : Params) : Prop :=
  ∀ request, b.build p = .ok request → request.descriptor.random = false

namespace Store

def response (s : Store) (ids : List Count) (request : ParsedRequest) : Response :=
  if ids.isEmpty then .noResults
  else .rendered ⟨request.descriptor.entityKind, request.viewMode, ids.filterMap s.get?⟩
    (request.pager.bind fun spec => Pager.make? spec (s.count request.descriptor))

def found (s : Store) (shuffle : Shuffle) (d : Descriptor) : Except DispatchError (List Count) :=
  match s.execute shuffle d with
  | some ids => .ok ids
  | none => .error (.execution .disorder)

def outcome (s : Store) (shuffle : Shuffle) (b : Builder) (p : Params) : Except DispatchError Response :=
  match b.build p with
  | .ok request => (s.found shuffle request.descriptor).map (s.response · request)
  | .error (.invalidDate _ _) => .ok .invalidDate
  | .error (.fragment error) => .ok (.invalidInput error.message)
  | .error error => .error (.build error)

/-- A request that is built, and not random, but whose hits cannot be sorted. -/
def Disordered (s : Store) (b : Builder) (p : Params) : Prop :=
  ∃ request, b.build p = .ok request ∧ request.descriptor.random = false ∧ s.listing request.descriptor = none

section
variable {s : Store} {shuffle : Shuffle} {b : Builder} {p : Params} {request : ParsedRequest}

theorem found_of_execute {d : Descriptor} {ids : List Count} (executed : s.execute shuffle d = some ids) :
    s.found shuffle d = .ok ids := by
  rw [found, executed]

theorem outcome_of_build (built : b.build p = .ok request) :
    s.outcome shuffle b p = (s.found shuffle request.descriptor).map (s.response · request) := by
  unfold outcome
  rw [built]

theorem outcome_of_disordered (disordered : s.Disordered b p) (shuffle : Shuffle) :
    s.outcome shuffle b p = .error (.execution .disorder) := by
  obtain ⟨request, built, settled, unsorted⟩ := disordered
  rw [outcome_of_build built, found, execute_of_settled s shuffle settled, unsorted]
  rfl

theorem exists_execute_of_ordered (ordered : ¬s.Disordered b p) (built : b.build p = .ok request) (shuffle : Shuffle) :
    ∃ ids, s.execute shuffle request.descriptor = some ids := by
  rw [execute_eq, Store.ordered]
  cases random : request.descriptor.random with
  | true => exact ⟨_, rfl⟩
  | false =>
    cases listed : s.listing request.descriptor with
    | none => exact absurd ⟨request, built, random, listed⟩ ordered
    | some ids => exact ⟨_, rfl⟩

theorem ordered_of_transOn
    (trans : ∀ request, b.build p = .ok request →
      TransOn (compareEntries request.descriptor.sort) (s.hits request.descriptor)) : ¬s.Disordered b p := by
  rintro ⟨request, built, -, unsorted⟩
  obtain ⟨ids, listed⟩ := exists_listing (trans request built)
  cases unsorted.symm.trans listed

end

theorem outcome_of_settled {s : Store} {b : Builder} {p : Params} (settled : b.Settled p) (shuffle shuffle' : Shuffle) :
    s.outcome shuffle b p = s.outcome shuffle' b p := by
  unfold outcome found
  cases built : b.build p with
  | error error => cases error <;> rfl
  | ok request =>
    have same := execute_of_settled s shuffle (settled request built)
    rw [← execute_of_settled s shuffle' (settled request built)] at same
    simp only [same]

theorem settled_of_build {b : Builder} {p : Params} {request : ParsedRequest}
    (built : b.build p = .ok request) (still : request.descriptor.random = false) : b.Settled p := by
  intro other again
  rw [built] at again
  exact Except.ok.inj again ▸ still

variable {s : Store}

theorem response_not_failure (s : Store) (ids : List Count) (request : ParsedRequest) :
    (s.response ids request).isFailure = false := by
  unfold response
  split <;> rfl

theorem response_cacheable (s : Store) (ids : List Count) (request : ParsedRequest) :
    (s.response ids request).isCacheable = true := by
  unfold response
  split <;> rfl

/-- No request is a failure, whatever the order of its records, unless they cannot be sorted. Its answer is worth
remembering just if the request could be read. -/
theorem exists_outcome (shuffle : Shuffle) {b : Builder} {p : Params} (ordered : ¬s.Disordered b p) :
    ∃ response, s.outcome shuffle b p = .ok response ∧ response.isFailure = false ∧
      response.isCacheable = (b.build p).isOk := by
  rcases b.build_cases p with ⟨request, built⟩ | ⟨key, value, built⟩ | ⟨cause, built⟩
  · obtain ⟨ids, executed⟩ := exists_execute_of_ordered ordered built shuffle
    rw [outcome_of_build built, found_of_execute executed, built]
    exact ⟨_, rfl, s.response_not_failure _ request, s.response_cacheable _ request⟩
  · unfold outcome
    rw [built]
    exact ⟨_, rfl, rfl, rfl⟩
  · unfold outcome
    rw [built]
    exact ⟨_, rfl, rfl, rfl⟩

variable {m : Type → Type} [Monad m] [LawfulMonad m]

theorem mapM_eq_ok {ε α β : Type} {f : α → Except ε β} {g : α → Option β} {items : List α}
    (succeeds : ∀ a ∈ items, ∃ found, g a = some found ∧ f a = .ok found) :
    items.mapM f = .ok (items.filterMap g) := by
  induction items with
  | nil => rfl
  | cons a rest ih =>
    obtain ⟨⟨found, same, success⟩, later⟩ := List.forall_mem_cons.mp succeeds
    rw [List.mapM_cons, ih later, success, List.filterMap_cons_some same]
    rfl

theorem render_eq {s : Store} {ids : List Count} (viewMode entityKind : String)
    (present : ∀ id ∈ ids, ∃ record, s.get? id = some record) :
    s.render ids viewMode entityKind =
      .ok (if ids.isEmpty then none else some ⟨entityKind, viewMode, ids.filterMap s.get?⟩) := by
  unfold render
  cases ids with
  | nil => rfl
  | cons id rest =>
    rw [mapM_eq_ok (g := s.get?)]
    · rfl
    · intro id member
      obtain ⟨record, found⟩ := present id member
      exact ⟨record, found, by rw [found]⟩

theorem stored_of_mem_execute {s : Store} {shuffle : Shuffle} {d : Descriptor} {ids : List Count}
    (executed : s.execute shuffle d = some ids) : ∀ id ∈ ids, ∃ record, s.get? id = some record := by
  intro id member
  obtain ⟨record, found, _⟩ := found_of_mem_execute executed member
  exact ⟨record, found⟩

theorem dispatcher_answer (s : Store) (shuffle : Shuffle) (b : Builder) (clock : m Instant) (ttl : Nat)
    (request : ParsedRequest) :
    (s.dispatcher shuffle b clock ttl).answer request =
      pure ((s.found shuffle request.descriptor).map (s.response · request)) := by
  unfold Dispatcher.answer response found
  simp only [dispatcher, pure_bind]
  cases executed : s.execute shuffle request.descriptor with
  | none => rfl
  | some ids =>
    have present := stored_of_mem_execute executed
    cases ids with
    | nil => rfl
    | cons id rest =>
      simp only [Dispatcher.paginate, render_eq _ _ present]
      cases request.pager <;> simp [Except.map]

theorem dispatcher_run (s : Store) (shuffle : Shuffle) (b : Builder) (clock : m Instant) (ttl : Nat)
    (p : Params) : (s.dispatcher shuffle b clock ttl).run p = pure (s.outcome shuffle b p) := by
  unfold Dispatcher.run outcome
  rw [show (s.dispatcher shuffle b clock ttl).builder = b from rfl]
  cases b.build p with
  | ok request => exact dispatcher_answer s shuffle b clock ttl request
  | error error => cases error <;> rfl

theorem dispatcher_dispatch (s : Store) (shuffle : Shuffle) (b : Builder) (clock : m Instant) (ttl : Nat)
    (p : Params) :
    (s.dispatcher shuffle b clock ttl).dispatch none p = pure (s.outcome shuffle b p, none) := by
  simp only [Dispatcher.dispatch, Dispatcher.dispatchFor, dispatcher_run, pure_bind]

/-- With a cache a request is answered from it, or else by its outcome, which is put there if it is worth it. -/
theorem dispatcher_dispatch_cached {σ : Type} (s : Store) (shuffle : Shuffle) (b : Builder)
    (clock : StateM σ Instant) (ttl : Nat) (cache : Cache Response) (p : Params) (world : σ) :
    (s.dispatcher shuffle b clock ttl).dispatch (some cache) p world =
      match cache.get (clock world).1 p.digest with
      | (some hit, cache) => ((.ok hit, some cache), (clock world).2)
      | (none, cache) =>
        match s.outcome shuffle b p with
        | .error error => ((.error error, some cache), (clock world).2)
        | .ok response =>
          if response.isCacheable then
            match cache.set? (clock (clock world).2).1 p.digest response ttl with
            | some cache => ((.ok response, some cache), (clock (clock world).2).2)
            | none => ((.error .expiry, some cache), (clock (clock world).2).2)
          else ((.ok response, some cache), (clock world).2) := by
  refine (Dispatcher.dispatchFor_cached _ ttl cache p world).trans ?_
  rw [dispatcher_run, show (s.dispatcher shuffle b clock ttl).clock = clock from rfl]
  rcases cache.get (clock world).1 p.digest with ⟨_ | hit, after⟩
  · cases s.outcome shuffle b p <;> rfl
  · rfl

theorem dispatch_fst (s : Store) (shuffle : Shuffle) (b : Builder) (clock : Id Instant) (ttl : Nat)
    (p : Params) : ((s.dispatcher shuffle b clock ttl).dispatch none p).1 = s.outcome shuffle b p := by
  rw [dispatcher_dispatch]
  rfl

theorem dispatcher_ids (s : Store) (shuffle : Shuffle) (b : Builder) (clock : m Instant) (ttl : Nat)
    (p : Params) :
    (s.dispatcher shuffle b clock ttl).ids p =
      pure (match b.build p with
        | .ok request => s.found shuffle request.descriptor
        | .error error => .error (.build error)) := by
  unfold Dispatcher.ids found
  rw [show (s.dispatcher shuffle b clock ttl).builder = b from rfl]
  cases b.build p with
  | ok request =>
    simp only [dispatcher, pure_bind]
    cases s.execute shuffle request.descriptor <;> rfl
  | error => rfl

theorem dispatcher_ids_of_disordered {s : Store} {b : Builder} {p : Params} (disordered : s.Disordered b p)
    (shuffle : Shuffle) (clock : m Instant) (ttl : Nat) :
    (s.dispatcher shuffle b clock ttl).ids p = pure (.error (.execution .disorder)) := by
  obtain ⟨request, built, settled, unsorted⟩ := disordered
  rw [dispatcher_ids, built]
  simp only [found, execute_of_settled s shuffle settled, unsorted, Option.map_none]

/-! ### Answers and ids -/

theorem map_eq_map_some {α β : Type} {g : α → Option β} {items : List α}
    (present : ∀ a ∈ items, ∃ found, g a = some found) : items.map g = (items.filterMap g).map some := by
  induction items with
  | nil => rfl
  | cons a rest ih =>
    obtain ⟨⟨found, same⟩, later⟩ := List.forall_mem_cons.mp present
    rw [List.map_cons, List.filterMap_cons_some same, List.map_cons, ih later, same]

theorem dispatcher_respond (s : Store) (shuffle : Shuffle) (b : Builder) (clock : m Instant) (ttl : Nat)
    (p : Params) :
    (s.dispatcher shuffle b clock ttl).respond none p = pure (Dispatcher.shown (s.outcome shuffle b p), none) := by
  simp only [Dispatcher.respond, dispatcher_dispatch, pure_bind]

inductive Reports (s : Store) (b : Builder) (p : Params) : Except DispatchError (List Count) → Response → Prop
  | invalidDate (key : Key) (value : String) :
      Reports s b p (.error (.build (.invalidDate key value))) .invalidDate
  | invalidInput (cause : FragmentError) :
      Reports s b p (.error (.build (.fragment cause))) (.invalidInput cause.message)
  | noResults : Reports s b p (.ok []) .noResults
  | rendered {request : ParsedRequest} {found : List Count} {items : List Json} (pager : Option Pager)
      (built : b.build p = .ok request) (held : found ≠ []) (records : found.map s.get? = items.map some) :
      Reports s b p (.ok found)
        (.rendered ⟨request.descriptor.entityKind, request.viewMode, items⟩ pager)

theorem reports_of_build {s : Store} {b : Builder} {p : Params} {request : ParsedRequest}
    (built : b.build p = .ok request) {found : List Count}
    (present : ∀ id ∈ found, ∃ record, s.get? id = some record) :
    s.Reports b p (.ok found) (s.response found request) := by
  unfold response
  cases found with
  | nil => exact .noResults
  | cons id rest => exact .rendered _ built (List.cons_ne_nil id rest) (map_eq_map_some present)

/-- The outcome of a request reports the ids that a dispatcher over the same store gives for it. -/
theorem outcome_reports {s : Store} {b : Builder} {p : Params} (settled : b.Settled p) (ordered : ¬s.Disordered b p)
    (shuffle shuffle' : Shuffle) (clock : m Instant) (ttl : Nat) :
    ∃ response ids, s.outcome shuffle b p = .ok response ∧
      (s.dispatcher shuffle' b clock ttl).ids p = pure ids ∧ s.Reports b p ids response := by
  rw [outcome_of_settled settled shuffle shuffle', dispatcher_ids]
  rcases b.build_cases p with ⟨request, built⟩ | ⟨key, value, built⟩ | ⟨cause, built⟩
  · obtain ⟨ids, executed⟩ := exists_execute_of_ordered ordered built shuffle'
    rw [outcome_of_build built, found_of_execute executed, built]
    refine ⟨_, .ok ids, rfl, ?_, reports_of_build built (stored_of_mem_execute executed)⟩
    simp only [found_of_execute executed]
  · unfold outcome
    rw [built]
    exact ⟨_, _, rfl, rfl, .invalidDate key value⟩
  · unfold outcome
    rw [built]
    exact ⟨_, _, rfl, rfl, .invalidInput cause⟩

/-- A store that executes and renders halts on a request just if it halts on the ids of the request, which is where it
cannot sort the hits; it can where the sort keys hold them in one order. It never fails otherwise, and then its answer
says what the ids of the request say: that a date or another value could not be read, that there are none, or which
records they are. -/
theorem dispatch_agrees_with_ids {s : Store} {b : Builder} {p : Params} (settled : b.Settled p)
    (shuffle shuffle' : Shuffle) (clock : m Instant) (ttl : Nat) :
    (s.Disordered b p →
      (s.dispatcher shuffle b clock ttl).dispatch none p = pure (.error (.execution .disorder), none) ∧
      (s.dispatcher shuffle b clock ttl).respond none p = pure (.error .disorder, none) ∧
      (s.dispatcher shuffle' b clock ttl).ids p = pure (.error (.execution .disorder))) ∧
    ((∀ request, b.build p = .ok request →
      TransOn (compareEntries request.descriptor.sort) (s.hits request.descriptor)) → ¬s.Disordered b p) ∧
    (¬s.Disordered b p → ∃ response ids,
      (s.dispatcher shuffle b clock ttl).dispatch none p = pure (.ok response, none) ∧
      (s.dispatcher shuffle b clock ttl).respond none p = pure (.ok response, none) ∧
      response ≠ .failure ∧
      (s.dispatcher shuffle' b clock ttl).ids p = pure ids ∧
      (response = .invalidDate ↔ ∃ key value, ids = .error (.build (.invalidDate key value))) ∧
      (∀ reason, response = .invalidInput reason ↔
        ∃ cause, ids = .error (.build (.fragment cause)) ∧ reason = cause.message) ∧
      (response = .noResults ↔ ids = .ok []) ∧
      (response ≠ .invalidDate → (∀ reason, response ≠ .invalidInput reason) → response ≠ .noResults →
        ∃ request found items pager, b.build p = .ok request ∧ ids = .ok found ∧
          found.map s.get? = items.map some ∧
          response = .rendered ⟨request.descriptor.entityKind, request.viewMode, items⟩ pager)) := by
  refine ⟨fun disordered => ?_, ordered_of_transOn, fun ordered => ?_⟩
  · rw [dispatcher_dispatch, dispatcher_respond, outcome_of_disordered disordered]
    exact ⟨rfl, rfl, dispatcher_ids_of_disordered disordered shuffle' clock ttl⟩
  · obtain ⟨response, ids, answered, read, reports⟩ := outcome_reports settled ordered shuffle shuffle' clock ttl
    have dispatched := s.dispatcher_dispatch shuffle b clock ttl p
    have responded := s.dispatcher_respond shuffle b clock ttl p
    rw [answered] at dispatched responded
    refine ⟨response, ids, dispatched, responded, ?_, read, ?_⟩
    · cases reports <;> simp
    · cases reports with
      | invalidDate | noResults => simp
      | invalidInput cause => simp [eq_comm]
      | rendered pager built held records =>
        refine ⟨by simp, by simp, by simpa using held, fun _ _ _ => ?_⟩
        exact ⟨_, _, _, pager, built, rfl, records, rfl⟩

theorem answers_of_two_records :
    let s := published [7, 2] (by decide)
    let p : Params := .ofList [("sort", "nid-ASC"), ("view_mode", "full")]
    let client := s.dispatcher .still .standard (pure 0 : Id Instant) 60
    ∃ response items pager, client.dispatch none p = (.ok response, none) ∧
      client.ids p = .ok [2, 7] ∧ [2, 7].map s.get? = items.map some ∧
      response = .rendered ⟨"node", "full", items⟩ pager := by
  intro s p client
  have built : Builder.standard.build p = .ok (Builder.standard.finish (Builder.standard.draft p.entries)) := rfl
  have settled : Builder.standard.Settled p := settled_of_build built rfl
  have read : client.ids p = .ok [2, 7] := by
    refine (s.dispatcher_ids .still .standard (pure 0 : Id Instant) 60 p).trans ?_
    rw [built]
    exact found_of_execute (by decide +kernel)
  obtain ⟨-, orderly, agrees⟩ :=
    dispatch_agrees_with_ids (s := s) settled .still .still (pure 0 : Id Instant) 60
  have ordered : ¬s.Disordered .standard p := orderly fun request again => by
    cases Except.ok.inj (built.symm.trans again)
    decide +kernel
  obtain ⟨response, ids, dispatched, _, _, read', date, input, none, shown⟩ := agrees ordered
  obtain rfl : ids = .ok [2, 7] := read'.symm.trans read
  obtain ⟨request, found, items, pager, built', same, records, rendered⟩ :=
    shown (by simp [date]) (by simp [input]) (by simp [none])
  cases Except.ok.inj same
  cases Except.ok.inj (built.symm.trans built')
  exact ⟨response, items, pager, dispatched, read, records, rendered⟩

def beyondTangle : Params := .ofList [("range", "21-5"), ("sort", "v-ASC")]

theorem tangle_disordered : tangle.Disordered .standard beyondTangle :=
  ⟨Builder.standard.finish (Builder.standard.draft beyondTangle.entries), rfl, rfl, by decide +kernel⟩

/-- Published records, the standard settings and an ordinary sort directive halt a dispatcher. -/
theorem dispatch_of_tangle_halts :
    let client := tangle.dispatcher .still .standard (pure 0 : Id Instant) 60
    client.dispatch none beyondTangle = (.error (.execution .disorder), none) ∧
      client.respond none beyondTangle = (.error .disorder, none) ∧
      client.ids beyondTangle = .error (.execution .disorder) := by
  intro client
  have lost := outcome_of_disordered tangle_disordered .still
  refine ⟨?_, ?_, ?_⟩
  · refine (tangle.dispatcher_dispatch .still .standard (pure 0 : Id Instant) 60 beyondTangle).trans ?_
    rw [lost]
    rfl
  · refine (tangle.dispatcher_respond .still .standard (pure 0 : Id Instant) 60 beyondTangle).trans ?_
    rw [lost]
    rfl
  · exact dispatcher_ids_of_disordered tangle_disordered .still (pure 0 : Id Instant) 60

end Store
end Listing
