import Listing.Proofs.Params.Encoding
import Listing.Proofs.Serving.Answers

/-!
What the cache changes about answers. A cache holds nothing but answers that its dispatcher gave before, each
under the digest of the request that it was given to. So a dispatcher with a cache answers like one without
it, save that requests with the same entries share their answer whatever the order of the entries.
-/

namespace Listing

/-! ### Requests with the same entries -/

namespace Store
variable {s : Store} {b : Builder} {p q : Params} {request request' : ParsedRequest}

theorem found_congr (s : Store) (shuffle : Shuffle) (same : request.Same request') :
    s.found shuffle request.descriptor = s.found shuffle request'.descriptor := by
  unfold found
  rw [execute_eq, execute_eq, ordered, ordered, hits_congr s same.alike, listing_congr s same.alike, same.random,
    same.window]

theorem response_congr (s : Store) (same : request.Same request') (ids : List Count) :
    s.response ids request = s.response ids request' := by
  unfold response
  rw [same.viewMode, same.pager, same.alike.entityKind, count_congr s same.alike]

/-- A request that was built is answered alike in any order of its entries that makes no difference. -/
theorem outcome_of_perm (shuffle : Shuffle) (built : b.build p = .ok request)
    (perm : p.entries.Perm q.entries) (orderless : b.Orderless q.entries) :
    s.outcome shuffle b q = s.outcome shuffle b p := by
  obtain ⟨accepted, rfl⟩ := Builder.build_eq_ok.mp built
  have accepted' : ∀ entry ∈ q.entries, b.Accepts entry :=
    fun entry member => accepted entry (perm.mem_iff.mpr member)
  have agree : ∀ part, (b.draft q.entries).Agree (b.draft p.entries) part :=
    fun part => Builder.draft_agree (Builder.history_perm orderless perm.symm)
  have same := b.finish_same agree
  rw [outcome_of_build (Builder.build_eq_ok.mpr ⟨accepted', rfl⟩), outcome_of_build built,
    found_congr s shuffle same, funext (response_congr s same)]

theorem built_of_cacheable {shuffle : Shuffle} {response : Response}
    (answered : s.outcome shuffle b p = .ok response) (cacheable : response.isCacheable = true) :
    ∃ request, b.build p = .ok request := by
  unfold outcome at answered
  split at answered
  · rename_i request built
    exact ⟨request, built⟩
  · cases answered
    cases cacheable
  · cases answered
    cases cacheable
  · cases answered

end Store

/-! ### Histories -/

/-- A request as it comes in: how long its answer is remembered, and the rearrangement that a random order
would pick. -/
structure Visit where
  params : Params
  ttl : Nat
  shuffle : Shuffle

def ticking (instants : Nat → Instant) : StateM Nat Instant := fun n => (instants n, n + 1)

namespace Store

def serve (s : Store) (b : Builder) (instants : Nat → Instant) :
    Dispatcher.Memory → List Visit → StateM Nat (List (Except DispatchError Response))
  | _, [] => return []
  | memory, v :: rest => do
    let (answer, memory) ← (s.dispatcher v.shuffle b (ticking instants) v.ttl).dispatch memory v.params
    return answer :: (← s.serve b instants memory rest)

def answers (s : Store) (b : Builder) (instants : Nat → Instant) (capacity : Nat) (history : List Visit) :
    List (Except DispatchError Response) :=
  (s.serve b instants (some (.empty capacity)) history 0).1

/-- The answer of a dispatcher without a cache, whatever its clock and its rearrangement. -/
def Answers (s : Store) (b : Builder) (p : Params) (answer : Except DispatchError Response) : Prop :=
  ∀ (shuffle : Shuffle) (clock : Id Instant) (ttl : Nat),
    ((s.dispatcher shuffle b clock ttl).dispatch none p).1 = answer

variable {s : Store} {b : Builder} {instants : Nat → Instant} {past : List Visit} {v : Visit}

/-- An answer under a digest is worth remembering and was given to a visit with that digest. -/
def Given (s : Store) (b : Builder) (past : List Visit) (key : String) (response : Response) : Prop :=
  response.isCacheable = true ∧ ∃ earlier ∈ past, earlier.params.digest = key ∧
    s.outcome earlier.shuffle b earlier.params = .ok response

theorem dispatch_cached (s : Store) (b : Builder) (instants : Nat → Instant) (v : Visit)
    (cache : Cache Response) (tick : Nat) :
    (s.dispatcher v.shuffle b (ticking instants) v.ttl).dispatch (some cache) v.params tick =
      match cache.get (instants tick) v.params.digest with
      | (some hit, cache) => ((.ok hit, some cache), tick + 1)
      | (none, cache) =>
        match s.outcome v.shuffle b v.params with
        | .error error => ((.error error, some cache), tick + 1)
        | .ok response =>
          if response.isCacheable then
            match cache.set? (instants (tick + 1)) v.params.digest response v.ttl with
            | some cache => ((.ok response, some cache), tick + 2)
            | none => ((.error .expiry, some cache), tick + 2)
          else ((.ok response, some cache), tick + 1) :=
  s.dispatcher_dispatch_cached v.shuffle b (ticking instants) v.ttl cache v.params tick

theorem Given.later {key : String} {response : Response} (given : s.Given b past key response) (v : Visit) :
    s.Given b (past ++ [v]) key response := by
  obtain ⟨cacheable, earlier, member, digest, answered⟩ := given
  exact ⟨cacheable, earlier, List.mem_append_left _ member, digest, answered⟩

/-- One dispatch: the answer is the outcome of the visit, or it was given before under the same digest. -/
theorem dispatch_step {cache : Cache Response} (holds : cache.Holds (s.Given b past)) (tick : Nat)
    (representable : instants (tick + 1) + v.ttl < Instant.limit) :
    ∃ answer cache' tick', (s.dispatcher v.shuffle b (ticking instants) v.ttl).dispatch (some cache)
        v.params tick = ((answer, some cache'), tick') ∧
      tick' ≤ tick + 2 ∧ cache'.Holds (s.Given b (past ++ [v])) ∧
      (answer = s.outcome v.shuffle b v.params ∨
        ∃ response, answer = .ok response ∧ s.Given b past v.params.digest response) := by
  rw [dispatch_cached]
  have looked := holds.get (instants tick) v.params.digest
  revert looked
  rcases cache.get (instants tick) v.params.digest with ⟨_ | hit, after⟩ <;> rintro ⟨kept, known⟩
  · have later := kept.mono fun _ _ given => given.later v
    cases outcome : s.outcome v.shuffle b v.params with
    | error error => exact ⟨_, _, _, rfl, Nat.le_succ _, later, .inl rfl⟩
    | ok response =>
      by_cases cacheable : response.isCacheable = true
      · obtain ⟨cache', remembered⟩ :=
          after.exists_set? v.params.digest response representable
        have own : s.Given b (past ++ [v]) v.params.digest response :=
          ⟨cacheable, v, List.mem_append_right _ List.mem_cons_self, rfl, outcome⟩
        simp only [cacheable, if_true, remembered]
        exact ⟨_, _, _, rfl, Nat.le_refl _, later.set? own remembered, .inl rfl⟩
      · simp only [cacheable]
        exact ⟨_, _, _, rfl, Nat.le_succ _, later, .inl rfl⟩
  · have later := kept.mono fun _ _ given => given.later v
    exact ⟨_, _, _, rfl, Nat.le_succ _, later, .inr ⟨hit, rfl, known hit rfl⟩⟩

/-- Every answer of a history is the outcome of its visit, or was given before under the same digest. -/
theorem serve_spec {history : List Visit} {cache : Cache Response} (holds : cache.Holds (s.Given b past)) {tick : Nat}
    (representable : ∀ v ∈ history, ∀ reading < tick + 2 * history.length,
      instants reading + v.ttl < Instant.limit) {i : Nat} (here : history[i]? = some v) :
    ∃ answer, (s.serve b instants (some cache) history tick).1[i]? = some answer ∧
      (answer = s.outcome v.shuffle b v.params ∨
        ∃ response, answer = .ok response ∧ s.Given b (past ++ history.take i) v.params.digest response) := by
  induction history generalizing past cache tick i with
  | nil => cases here
  | cons first rest ih =>
    obtain ⟨own, later⟩ := List.forall_mem_cons.mp representable
    rw [List.length_cons] at own later
    obtain ⟨answer, cache', tick', served, advanced, holds', justified⟩ :=
      dispatch_step holds tick (own (tick + 1) (by omega))
    have whole : s.serve b instants (some cache) (first :: rest) tick =
        (answer :: (s.serve b instants (some cache') rest tick').1,
          (s.serve b instants (some cache') rest tick').2) := by
      simp only [serve, bind, StateT.bind, served]
      rfl
    rw [whole]
    cases i with
    | zero =>
      cases here
      exact ⟨answer, rfl, by simpa using justified⟩
    | succ i =>
      have readings : ∀ v ∈ rest, ∀ reading < tick' + 2 * rest.length,
          instants reading + v.ttl < Instant.limit :=
        fun v member reading within => later v member reading (by omega)
      obtain ⟨answer', found, justified'⟩ := ih holds' readings here
      refine ⟨answer', found, ?_⟩
      rwa [List.append_assoc, List.singleton_append] at justified'

/-- A request whose digest has just been answered gets that answer again, whatever it asks for. -/
theorem answers_again {p q : Params} {shuffle : Shuffle} {response : Response} (same : p.digest = q.digest)
    (answered : s.outcome shuffle b p = .ok response) (cacheable : response.isCacheable = true) (capacity : Nat)
    {ttl : Nat} (lasting : 0 < ttl) (representable : instants 1 + ttl < Instant.limit)
    (soon : instants 2 < instants 1 + ttl) :
    s.answers b instants capacity [⟨p, ttl, shuffle⟩, ⟨q, ttl, shuffle⟩] = [.ok response, .ok response] := by
  let cache : Cache Response := ⟨max capacity 1, [(p.digest, instants 1 + ttl, response)], 0, 1⟩
  have remembered : (⟨max capacity 1, [], 0, 1⟩ : Cache Response).set? (instants 1) p.digest response ttl =
      some cache := by
    have room : 1 ≤ max capacity 1 := Nat.le_max_right _ _
    unfold Cache.set? Instant.after?
    rw [if_neg (Nat.ne_of_gt lasting), if_pos representable]
    simp only [Option.map_some, Cache.without, List.filter_nil, Option.some.injEq, cache]
    rw [List.take_of_length_le room]
  have first : (s.dispatcher shuffle b (ticking instants) ttl).dispatch (some (.empty capacity)) p 0 =
      ((.ok response, some cache), 2) := by
    have looked : (Cache.empty capacity).get (instants 0) p.digest =
        ((none, ⟨max capacity 1, [], 0, 1⟩) : Option Response × Cache Response) := rfl
    refine (s.dispatch_cached b instants ⟨p, ttl, shuffle⟩ _ 0).trans ?_
    simp only [looked, answered, cacheable, if_true, Nat.zero_add, remembered]
  have second : ∃ after, (s.dispatcher shuffle b (ticking instants) ttl).dispatch (some cache) q 2 =
      ((.ok response, some after), 3) := by
    obtain ⟨after, looked⟩ : ∃ after, cache.get (instants 2) q.digest = (some response, after) := by
      unfold Cache.get
      simp only [cache, ← same, List.lookup_cons, beq_self_eq_true, soon, if_true]
      exact ⟨_, rfl⟩
    refine ⟨after, (s.dispatch_cached b instants ⟨q, ttl, shuffle⟩ cache 2).trans ?_⟩
    simp only [looked]
  obtain ⟨after, second⟩ := second
  simp only [answers, serve, bind, StateT.bind, first, second]
  rfl

theorem answers_of_outcome {p : Params} {shuffle : Shuffle} (settled : b.Settled p) :
    s.Answers b p (s.outcome shuffle b p) :=
  fun shuffle' clock ttl => (s.dispatch_fst shuffle' b clock ttl p).trans (outcome_of_settled settled shuffle' shuffle)

/-- A dispatcher with a cache gives to each request of a history the answer that one without a cache gives
to some request of the history so far with the same entries. It is the answer to the request itself if no
two of its parameters set the same part of the descriptor, or if nobody asked for its entries in another
order before. -/
theorem cache_transparent_up_to_order {history : List Visit} {capacity i : Nat}
    (apart : Digest.Sha256.TellsApart ((history.map Visit.params).map Params.encoding))
    (separable : ∀ p ∈ history.map Visit.params, ∀ entry ∈ p.entries, Params.Separable entry)
    (settled : ∀ v ∈ history, b.Settled v.params)
    (representable : ∀ v ∈ history, ∀ reading < 2 * history.length, instants reading + v.ttl < Instant.limit)
    (here : history[i]? = some v) :
    ∃ answer, (s.answers b instants capacity history)[i]? = some answer ∧
      (∃ earlier ∈ history.take (i + 1), earlier.params.entries.Perm v.params.entries ∧
        s.Answers b earlier.params answer) ∧
      (b.Orderless v.params.entries ∨
          (∀ earlier ∈ history.take i, earlier.params.entries.Perm v.params.entries → earlier.params = v.params) →
        s.Answers b v.params answer) := by
  have member : v ∈ history := List.mem_of_getElem? here
  have front : history.take (i + 1) = history.take i ++ [v] := by rw [List.take_add_one, here]; rfl
  rw [← Nat.zero_add (2 * history.length)] at representable
  obtain ⟨answer, found, justified⟩ :=
    serve_spec (Cache.holds_empty capacity (s.Given b [])) representable here
  refine ⟨answer, found, ?_⟩
  rcases justified with rfl | ⟨response, rfl, cacheable, earlier, before, digest, answered⟩
  · have own : s.Answers b v.params (s.outcome v.shuffle b v.params) := answers_of_outcome (settled v member)
    refine ⟨⟨v, ?_, .refl _, own⟩, fun _ => own⟩
    rw [front]
    exact List.mem_append_right _ List.mem_cons_self
  · have old : earlier ∈ history := List.mem_of_mem_take before
    have perm := Params.perm_of_digest apart separable (List.mem_map_of_mem old) (List.mem_map_of_mem member) digest
    have given : s.Answers b earlier.params (.ok response) := answered ▸ answers_of_outcome (settled earlier old)
    refine ⟨⟨earlier, ?_, perm, given⟩, ?_⟩
    · rw [front]
      exact List.mem_append_left _ before
    · rintro (orderless | alone)
      · obtain ⟨request, built⟩ := built_of_cacheable answered cacheable
        have same := outcome_of_perm (s := s) earlier.shuffle built perm orderless
        rw [answered] at same
        exact same ▸ answers_of_outcome (settled v member)
      · exact alone earlier before perm ▸ given

theorem reordered_request_served_from_cache :
    let s := published [1, 2] (by decide)
    let p : Params := .ofList [("nid", "1"), ("view_mode", "full")]
    let q : Params := .ofList [("view_mode", "full"), ("nid", "1")]
    let history : List Visit := [⟨p, 60, .still⟩, ⟨q, 60, .still⟩]
    ∃ answer, (s.answers .standard (fun reading => reading) 8 history)[1]? = some answer ∧
      s.Answers .standard q answer := by
  intro s p q history
  have same : p.encoding = q.encoding := Params.encoding_of_perm (List.Perm.swap _ _ [])
  have apart : Digest.Sha256.TellsApart ((history.map Visit.params).map Params.encoding) := by
    have equal : ∀ message ∈ (history.map Visit.params).map Params.encoding, message = p.encoding := by
      simp [history, same]
    exact fun first member second member' _ => (equal first member).trans (equal second member').symm
  have separable : ∀ r ∈ history.map Visit.params, ∀ entry ∈ r.entries, Params.Separable entry := by
    unfold Params.Separable
    decide
  have settled : ∀ v ∈ history, Builder.standard.Settled v.params := by
    simp only [history, List.forall_mem_cons]
    exact ⟨settled_of_build rfl rfl, settled_of_build rfl rfl, List.forall_mem_nil _⟩
  have representable : ∀ v ∈ history, ∀ reading < 2 * history.length, reading + v.ttl < Instant.limit := by
    decide
  have orderless : Builder.standard.Orderless q.entries := by
    unfold Builder.Orderless
    decide
  obtain ⟨answer, given, _, own⟩ :=
    cache_transparent_up_to_order apart separable settled representable (show history[1]? = some _ from rfl)
  exact ⟨answer, given, own (.inl orderless)⟩

/-! ### What the digest forgets -/

def shownIds : Except DispatchError Response → List (Option Count)
  | .ok (.rendered output _) => output.items.map fun item => (item.field? "nid").bind Json.count?
  | _ => []

def Misled (s : Store) (b : Builder) (p q : Params) : Prop :=
  p.encoding = q.encoding ∧ b.Settled p ∧ b.Settled q ∧
    ∃ answer, (s.answers b (fun _ => 0) 8 [⟨p, 60, .still⟩, ⟨q, 60, .still⟩])[1]? = some answer ∧
      ¬s.Answers b q answer

theorem misled_of_shownIds {p q : Params} {r r' : ParsedRequest} (same : p.encoding = q.encoding)
    (built : b.build p = .ok r) (built' : b.build q = .ok r') (still : r.descriptor.random = false)
    (still' : r'.descriptor.random = false) (executed : (s.execute .still r.descriptor).isSome)
    (differ : shownIds (s.outcome .still b p) ≠ shownIds (s.outcome .still b q)) : s.Misled b p q := by
  have digest : p.digest = q.digest := congrArg Digest.Sha256.hex same
  obtain ⟨ids, executed⟩ := Option.isSome_iff_exists.mp executed
  have answered : s.outcome .still b p = .ok (s.response ids r) := by
    rw [outcome_of_build built, found_of_execute executed]
    rfl
  have again : s.answers b (fun _ => 0) 8 [⟨p, 60, .still⟩, ⟨q, 60, .still⟩] = _ :=
    answers_again digest answered (s.response_cacheable ids r) 8 (by decide) (by decide) (by decide)
  refine ⟨same, settled_of_build built still, settled_of_build built' still', s.outcome .still b p, ?_, ?_⟩
  · rw [again, answered]
    rfl
  · intro fresh
    have own := fresh .still (pure 0) 60
    rw [dispatch_fst] at own
    exact differ (congrArg shownIds own.symm)

/-- A cache does change answers. Two requests that bind one field twice, in opposite orders, share the answer
to the first, and so do a request and one that has a value in the shape of its entries. -/
theorem cached_answers_differ :
    (published [1, 2] (by decide)).Misled .standard
        (.ofList [("nid", "1"), ("nids", "2")]) (.ofList [("nids", "2"), ("nid", "1")]) ∧
      (published [1, 2] (by decide)).Misled .standard
        (.ofList [("a", "b\x1Enid\x1F1")]) (.ofList [("a", "b"), ("nid", "1")]) := by
  constructor
  · refine misled_of_shownIds (Params.encoding_of_perm (List.Perm.swap _ _ [])) rfl rfl rfl rfl ?_ ?_
    · decide +kernel
    · decide +kernel
  · refine misled_of_shownIds ?_ rfl rfl rfl rfl ?_ ?_
    · rw [Params.encoding_of_sorted (by decide), Params.encoding_of_sorted (by decide),
        show Params.encodeEntry = _ from funext Params.encodeEntry_eq]
      decide
    · decide +kernel
    · decide +kernel

end Store
end Listing
