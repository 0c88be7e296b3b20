import Mathlib.Data.List.Forall2
import Listing.Proofs.Json.Fields
import Listing.Proofs.Params.Encoding
import Listing.Proofs.Program.Lifetimes

/-!
Batches against single requests. The requests of a batch share a cache, and what they find there was put there
under their own digest. They come with their keys in order, so that no two of them differ in nothing but the order
of their entries: what one of them finds in the cache is what it comes to by itself. One request whose records cannot
be sorted halts the whole batch.
-/

namespace Listing

/-! ### Requests of a batch -/

namespace Batch
variable {fields : List (String × Json)} {p : Params} {requests : List Params} {text : String}

theorem ascending_request (ascending : Ascending fields) (made : request fields = .ok p) : Ascending p.entries := by
  obtain ⟨pairs, read, made⟩ := bind_eq_ok made
  cases made
  have named : List.Forall₂ (fun field pair => pair.1 = field.1) fields pairs := by
    refine (forall₂_of_mapM_eq_ok read).imp ?_
    rintro ⟨key, value⟩ pair here
    simp only at here
    split at here
    · cases here
      rfl
    · cases here
  have keys : pairs.map Prod.fst = fields.map Prod.fst := by
    rw [← List.forall₂_eq_eq_eq, List.forall₂_map_left_iff, List.forall₂_map_right_iff]
    exact named.flip
  have ascending' : Ascending pairs := ascending.of_map_fst keys
  rwa [OrderedMap.entries_ofList ascending'.nodup]

theorem mem_of_objects? {items : List Json} {objects : List (List (String × Json))}
    (split : objects? items = some objects) : ∀ fields ∈ objects, .object fields ∈ items := by
  induction items generalizing objects with
  | nil =>
    cases split
    exact List.forall_mem_nil _
  | cons item rest ih =>
    cases item with
    | object fields =>
      obtain ⟨later, others, rfl⟩ := Option.map_eq_some_iff.mp split
      refine List.forall_mem_cons.mpr ⟨List.mem_cons_self, fun fields member => ?_⟩
      exact List.mem_cons_of_mem _ (ih others fields member)
    | _ => cases split

/-- Every request of a batch comes with its keys in order. -/
theorem ascending_of_parse (read : parse text = .ok requests) : ∀ p ∈ requests, Ascending p.entries := by
  unfold parse at read
  split at read
  · rename_i items value
    split at read
    · rename_i objects split
      intro p member
      obtain ⟨fields, source, made⟩ := exists_of_mapM_eq_ok read p member
      cases Json.tidy_of_parse? value with
      | array tidy =>
        cases tidy _ (mem_of_objects? split fields source) with
        | object ascending _ => exact ascending_request ascending made
    · cases read
  · cases read

theorem eq_of_digest (read : parse text = .ok requests)
    (apart : Digest.Sha256.TellsApart (requests.map Params.encoding))
    (separable : ∀ p ∈ requests, ∀ entry ∈ p.entries, Params.Separable entry) {p q : Params}
    (member : p ∈ requests) (member' : q ∈ requests) (same : p.digest = q.digest) : p = q := by
  have ascending := ascending_of_parse read
  have entries := (ascending p member).eq_of_perm (ascending q member')
    (Params.perm_of_digest apart separable member member' same)
  obtain ⟨entries, nodup⟩ := p
  cases entries
  rfl

end Batch

/-! ### Answers by themselves -/

namespace Store
variable {σ : Type} {s : Store} {b : Builder} {requests : List Params} {clock : StateM σ Instant} {ttl : Nat}
  {memory : Dispatcher.Memory} {p : Params} {response : Response}

/-- What a request comes to without a cache and without chance. -/
def Alone (s : Store) (b : Builder) (p : Params) (response : Response) : Prop :=
  s.outcome .still b p = .ok response

theorem exists_alone (ordered : ¬s.Disordered b p) : ∃ response, s.Alone b p response ∧ response.isFailure = false := by
  obtain ⟨response, answered, calm, _⟩ := exists_outcome .still ordered
  exact ⟨response, answered, calm⟩

def Own (s : Store) (b : Builder) (requests : List Params) (key : String) (response : Response) : Prop :=
  ∃ p ∈ requests, p.digest = key ∧ s.Alone b p response

/-- A cache that holds only answers of some requests, each under the digest of its own, answers any of them as it
is answered by itself. -/
theorem dispatch_own {cache : Cache Response}
    (apart : ∀ p ∈ requests, ∀ q ∈ requests, p.digest = q.digest → p = q)
    (holds : cache.Holds (s.Own b requests)) (representable : ∀ world, (clock world).1 + ttl < Instant.limit)
    (member : p ∈ requests) (settled : b.Settled p) (alone : s.Alone b p response) (shuffle : Shuffle) (world : σ) :
    ∃ cache' world',
      (s.dispatcher shuffle b clock ttl).dispatch (some cache) p world = ((.ok response, some cache'), world') ∧
      cache'.Holds (s.Own b requests) := by
  have looked := holds.get (clock world).1 p.digest
  rw [dispatcher_dispatch_cached, (outcome_of_settled settled shuffle .still).trans alone]
  generalize cache.get (clock world).1 p.digest = got at looked
  rcases got with ⟨_ | hit, after⟩
  · simp only
    split
    · have own : s.Own b requests p.digest response := ⟨p, member, rfl, alone⟩
      obtain ⟨final, set⟩ := after.exists_set? p.digest response (representable (clock world).2)
      rw [set]
      exact ⟨final, _, rfl, looked.1.set? own set⟩
    · exact ⟨after, _, rfl, looked.1⟩
  · -- What is found under the digest came from a request with that digest, and there is only one.
    obtain ⟨q, member', same, alone'⟩ := looked.2 hit rfl
    obtain rfl : q = p := apart q member' p member same
    obtain rfl : hit = response := Except.ok.inj (alone'.symm.trans alone)
    exact ⟨after, _, rfl, looked.1⟩

theorem respond_own (apart : ∀ p ∈ requests, ∀ q ∈ requests, p.digest = q.digest → p = q)
    (holds : ∀ cache, memory = some cache → cache.Holds (s.Own b requests))
    (representable : memory.isSome = true → ∀ world, (clock world).1 + ttl < Instant.limit)
    (member : p ∈ requests) (settled : b.Settled p) (alone : s.Alone b p response) (shuffle : Shuffle) (world : σ) :
    ∃ memory' world',
      (s.dispatcher shuffle b clock ttl).respond memory p world = ((.ok response, memory'), world') ∧
      (∀ cache, memory' = some cache → cache.Holds (s.Own b requests)) ∧ memory'.isSome = memory.isSome := by
  cases memory with
  | none =>
    have alone' := (outcome_of_settled settled shuffle .still).trans alone
    refine ⟨none, world, ?_, nofun, rfl⟩
    rw [dispatcher_respond, alone']
    rfl
  | some cache =>
    obtain ⟨cache', world', dispatched, holds'⟩ :=
      dispatch_own apart (holds cache rfl) (representable rfl) member settled alone shuffle world
    refine ⟨some cache', world', ?_, ?_, rfl⟩
    · rw [Dispatcher.respond_eq, dispatched]
      rfl
    · rintro _ ⟨⟩
      exact holds'

/-- To a request whose records cannot be sorted, no answer of such a cache belongs. -/
theorem get_of_disordered {cache : Cache Response}
    (apart : ∀ p ∈ requests, ∀ q ∈ requests, p.digest = q.digest → p = q) (holds : cache.Holds (s.Own b requests))
    (member : p ∈ requests) (disordered : s.Disordered b p) (now : Instant) : (cache.get now p.digest).1 = none := by
  have known := (holds.get now p.digest).2
  cases got : (cache.get now p.digest).1 with
  | none => rfl
  | some hit =>
    obtain ⟨q, member', same, alone⟩ := known hit got
    obtain rfl : q = p := apart q member' p member same
    cases (outcome_of_disordered disordered .still).symm.trans alone

end Store

/-! ### The program -/

namespace Host
variable {σ : Type} {host : Host (StateM σ)} {c : Config} {s : Store} {b : Builder} {requests : List Params}
  {clock : StateM σ Instant} {ttl : Nat}

/-- Requests answered in turn with one memory are each answered as by itself. -/
theorem respondAll_own (apart : ∀ p ∈ requests, ∀ q ∈ requests, p.digest = q.digest → p = q)
    (settled : ∀ p ∈ requests, b.Settled p) {memory : Dispatcher.Memory}
    (representable : memory.isSome = true → ∀ world, (clock world).1 + ttl < Instant.limit)
    (holds : ∀ cache, memory = some cache → cache.Holds (s.Own b requests)) {asked : List Params}
    (among : asked ⊆ requests) {responses : List Response} (alone : List.Forall₂ (s.Alone b) asked responses)
    (shuffle : Shuffle) (world : σ) :
    (respondAll c (s.dispatcher shuffle b clock ttl) memory asked world).1 =
      .ok (responses.map c.output.outcome) := by
  -- What the memory holds stays the requests' own, whatever it has dropped or replaced on the way.
  induction alone generalizing memory world with
  | nil => rfl
  | cons first rest ih =>
    obtain ⟨member, later⟩ := List.cons_subset.mp among
    obtain ⟨memory', world', responded, holds', kept⟩ :=
      Store.respond_own apart holds representable member (settled _ member) first shuffle world
    simp only [respondAll, bind, StateT.bind, responded]
    have remaining := ih (kept ▸ representable) holds' later world'
    generalize respondAll c (s.dispatcher shuffle b clock ttl) memory' _ world' = answered at remaining
    obtain ⟨outcomes, final⟩ := answered
    cases remaining
    rfl

theorem respondAll_of_halt {d : Dispatcher (StateM σ)} {memory : Dispatcher.Memory} {p : Params} {world : σ}
    {reason : Halt} (halted : (d.respond memory p world).1.1 = .error reason) (rest : List Params) :
    (respondAll c d memory (p :: rest) world).1 = .error (.halt reason) := by
  simp only [respondAll, bind, StateT.bind]
  generalize d.respond memory p world = done at halted
  obtain ⟨⟨_, _⟩, _⟩ := done
  cases halted
  rfl

/-- One request whose records cannot be sorted halts those that are answered with it. -/
theorem respondAll_disordered (apart : ∀ p ∈ requests, ∀ q ∈ requests, p.digest = q.digest → p = q)
    (settled : ∀ p ∈ requests, b.Settled p) {memory : Dispatcher.Memory}
    (representable : memory.isSome = true → ∀ world, (clock world).1 + ttl < Instant.limit)
    (holds : ∀ cache, memory = some cache → cache.Holds (s.Own b requests)) {asked : List Params}
    (among : asked ⊆ requests) (disordered : ∃ p ∈ asked, s.Disordered b p) (shuffle : Shuffle) (world : σ) :
    (respondAll c (s.dispatcher shuffle b clock ttl) memory asked world).1 = .error (.halt .disorder) := by
  induction asked generalizing memory world with
  | nil =>
    obtain ⟨p, member, -⟩ := disordered
    cases member
  | cons p rest ih =>
    obtain ⟨member, later⟩ := List.cons_subset.mp among
    by_cases here : s.Disordered b p
    · refine respondAll_of_halt (Store.respond_disordered here shuffle clock ttl world fun cache held => ?_) rest
      exact Store.get_of_disordered apart (holds cache held) member here _
    · obtain ⟨response, alone, -⟩ := Store.exists_alone here
      obtain ⟨memory', world', responded, holds', kept⟩ :=
        Store.respond_own apart holds representable member (settled p member) alone shuffle world
      have elsewhere : ∃ q ∈ rest, s.Disordered b q := by
        obtain ⟨q, found, lost⟩ := disordered
        rcases List.mem_cons.mp found with rfl | found
        · exact absurd lost here
        · exact ⟨q, found, lost⟩
      have remaining := ih (kept ▸ representable) holds' later elsewhere world'
      simp only [respondAll, bind, StateT.bind, responded]
      generalize respondAll c (s.dispatcher shuffle b clock ttl) memory' rest world' = answered at remaining
      obtain ⟨_, _⟩ := answered
      cases remaining
      rfl

theorem holds_memory (c : Config) (known : String → Response → Prop) :
    ∀ cache, memory c = some cache → cache.Holds known := by
  intro cache fresh
  unfold memory at fresh
  split at fresh
  · cases fresh
    exact Cache.holds_empty _ known
  · cases fresh

theorem enabled_of_memory (held : (memory c).isSome = true) : c.cache.enabled = true := by
  unfold memory at held
  split at held
  · assumption
  · cases held

/-- A configuration in use has a builder, the same as long as the day does not change. -/
theorem exists_builder (valid : c.validate = .ok ())
    (day : ∀ offset world world', (host.today offset world).1 = (host.today offset world').1) (world : σ) :
    ∃ b, ∀ world', (host.builder c world').1 = .ok b := by
  obtain ⟨formats, offset, built⟩ := host.builder_of_valid valid
  exact ⟨_, fun world' => (built world').trans (by rw [day offset world' world])⟩

theorem dispatcher_built {world : σ} (built : (host.builder c world).1 = .ok b) (s : Store) :
    ∃ shuffle world', host.dispatcher c s world =
      (.ok (s.dispatcher shuffle b host.clock (c.cache.ttl.toNat * 1000000000)), world') :=
  ⟨_, _, dispatcher_of_built built s⟩

/-- Where the clock can show when an answer expires, a request by itself is answered, whatever the world. -/
theorem query_alone {world : σ} (built : (host.builder c world).1 = .ok b)
    (representable : c.cache.enabled = true →
      ∀ world, (host.clock world).1 + c.cache.ttl.toNat * 1000000000 < Instant.limit)
    {p : Params} (settled : b.Settled p) {response : Response} (alone : s.Alone b p response) :
    (host.query c s p world).1 = .ok (c.output.outcome response) := by
  have kept : ¬(response.isCacheable ∧ c.OutlastsClock (host.answeredAt c world)) :=
    fun ⟨_, enabled, _, overdue⟩ => Nat.not_le.mpr (representable enabled _) overdue
  rw [query_of_built built ((Store.outcome_of_settled settled _ .still).trans alone), if_neg kept]

theorem batch_of_made {path text : String} {world world' world'' : σ} {d : Dispatcher (StateM σ)}
    {answers : Except ProgramError (List Outcome)} (opened : host.readText path world = (.ok text, world'))
    (accepted : Batch.parse text = .ok requests) (made : host.dispatcher c s world' = (.ok d, world''))
    (responded : (respondAll c d (memory c) requests world'').1 = answers) :
    (host.batch c s path world).1 =
      answers.map fun outcomes => ⟨.array (outcomes.map (·.value)), outcomes.any (·.failed)⟩ := by
  simp only [batch, bind, StateT.bind, opened, accepted, made]
  generalize respondAll c d (memory c) requests world'' = answered at responded
  obtain ⟨answered, final⟩ := answered
  obtain rfl : answered = answers := responded
  cases answered <;> rfl

/-- The answers of a batch are those that its requests get by themselves, as long as the day lasts and SHA-256
tells them apart, and nothing fails, if the records of each request can be sorted. Otherwise the batch halts as a
whole, though it has requests that are answered by themselves. -/
theorem batch_answers_each_alone (host : Host (StateM σ)) (c : Config) (s : Store) (path : String) (world : σ)
    (valid : c.validate = .ok ())
    (day : ∀ offset world world', (host.today offset world).1 = (host.today offset world').1)
    (representable : c.cache.enabled = true →
      ∀ world, (host.clock world).1 + c.cache.ttl.toNat * 1000000000 < Instant.limit)
    {text : String} (read : (host.readText path world).1 = .ok text) (accepted : Batch.parse text = .ok requests)
    (apart : Digest.Sha256.TellsApart (requests.map Params.encoding))
    (separable : ∀ p ∈ requests, ∀ entry ∈ p.entries, Params.Separable entry)
    (settled : ∀ b world, (host.builder c world).1 = .ok b → ∀ p ∈ requests, b.Settled p) :
    ∃ b, (∀ world', (host.builder c world').1 = .ok b) ∧
      ((∀ p ∈ requests, ¬s.Disordered b p) → ∃ values,
        (host.batch c s path world).1 = .ok ⟨.array values, false⟩ ∧
        List.Forall₂ (fun p value => ∀ world', (host.query c s p world').1 = .ok ⟨value, false⟩) requests values) ∧
      ((∃ p ∈ requests, s.Disordered b p) → (host.batch c s path world).1 = .error (.halt .disorder)) ∧
      ∀ p ∈ requests, ¬s.Disordered b p → ∃ value, ∀ world', (host.query c s p world').1 = .ok ⟨value, false⟩ := by
  obtain ⟨b, built⟩ := exists_builder valid day world
  have settled : ∀ p ∈ requests, b.Settled p := settled b world (built world)
  have representable' : (memory c).isSome = true →
      ∀ world, (host.clock world).1 + c.cache.ttl.toNat * 1000000000 < Instant.limit :=
    fun held => representable (enabled_of_memory held)
  have distinct : ∀ p ∈ requests, ∀ q ∈ requests, p.digest = q.digest → p = q :=
    fun p member q member' => Batch.eq_of_digest accepted apart separable member member'
  obtain ⟨world', opened⟩ : ∃ world', host.readText path world = (.ok text, world') := ⟨_, Prod.ext read rfl⟩
  obtain ⟨shuffle, world'', made⟩ := dispatcher_built (built world') s
  have outcome : ∀ response, response.isFailure = false →
      c.output.outcome response = ⟨(c.output.outcome response).value, false⟩ := by
    intro response calm
    rw [← calm]
    rfl
  have single : ∀ p ∈ requests, ¬s.Disordered b p → ∃ response, s.Alone b p response ∧ response.isFailure = false ∧
      ∀ world', (host.query c s p world').1 = .ok ⟨(c.output.outcome response).value, false⟩ := by
    intro p member ordered
    obtain ⟨response, alone, calm⟩ := Store.exists_alone ordered
    refine ⟨response, alone, calm, fun world' => ?_⟩
    rw [query_alone (built world') representable (settled p member) alone, ← outcome response calm]
  refine ⟨b, built, fun ordered => ?_, fun disordered => ?_, fun p member ordered => ?_⟩
  · have : Nonempty Response := ⟨.noResults⟩
    choose! answer alone calm queried using fun p member => single p member (ordered p member)
    have answers : List.Forall₂ (s.Alone b) requests (requests.map answer) :=
      List.forall₂_map_right_iff.mpr (List.forall₂_same.mpr alone)
    have responded := respondAll_own (c := c) distinct settled representable' (holds_memory c _)
      (List.Subset.refl _) answers shuffle world''
    have failed : ((requests.map answer).map c.output.outcome).any (·.failed) = false := by
      rw [List.map_map, List.any_map, List.any_eq_false]
      exact fun p member => Bool.eq_false_iff.mp (congrArg Outcome.failed (outcome _ (calm p member)))
    refine ⟨requests.map fun p => (c.output.outcome (answer p)).value, ?_, ?_⟩
    · rw [batch_of_made opened accepted made responded, Except.map, failed, List.map_map, List.map_map]
      rfl
    · exact List.forall₂_map_right_iff.mpr (List.forall₂_same.mpr queried)
  · exact batch_of_made opened accepted made (respondAll_disordered distinct settled representable'
      (holds_memory c _) (List.Subset.refl _) disordered shuffle world'')
  · obtain ⟨response, -, -, queried⟩ := single p member ordered
    exact ⟨_, queried⟩

def cramped : Config := { Config.standard with cache := ⟨true, 1, 300⟩ }

theorem eq_ok_of_toOption {ε α : Type} {x : Except ε α} {a : α} (found : x.toOption = some a) : x = .ok a := by
  cases x with
  | error => cases found
  | ok => exact congrArg Except.ok (Option.some.inj found)

/-- The third request repeats the first, which the second has driven out of the cache. -/
theorem batch_of_three :
    let text := "[\x7b\"nid\":7\x7d,\x7b\"view_mode\":\"full\",\"nid\":2\x7d,\x7b\"nid\":\"7\"\x7d]"
    let host := standing text
    let s := Store.published [7, 2] (by decide)
    let single : Params := .ofList [("nid", "7")]
    let full : Params := .ofList [("nid", "2"), ("view_mode", "full")]
    cramped.validate = .ok () ∧ Batch.parse text = .ok [single, full, single] ∧
      Digest.Sha256.TellsApart [single.encoding, full.encoding, single.encoding] ∧
      (∀ p ∈ [single, full, single], ¬s.Disordered .standard p) ∧
      ∃ values, (host.batch cramped s "batch.json" ()).1 = .ok ⟨.array values, false⟩ ∧
        List.Forall₂ (fun p value => ∀ world, (host.query cramped s p world).1 = .ok ⟨value, false⟩)
          [single, full, single] values := by
  intro text host s single full
  have valid : cramped.validate = .ok () := rfl
  have made : Builder.make .standard Builder.standard.today = .ok .standard := rfl
  have built : ∀ world, (host.builder cramped world).1 = .ok .standard := by
    intro world
    have asked : (host.builder cramped world).1 = (Builder.make .standard Builder.standard.today).mapError .build := rfl
    rw [asked, made]
    rfl
  have accepted : Batch.parse text = .ok [single, full, single] := eq_ok_of_toOption (by decide +kernel)
  have apart : Digest.Sha256.TellsApart [single.encoding, full.encoding, single.encoding] := by
    have first : single.encoding = [0x6E, 0x69, 0x64, 0x1F, 0x37, 0x1E] := by
      rw [Params.encoding_of_sorted (by decide), show Params.encodeEntry = _ from funext Params.encodeEntry_eq]
      decide
    have second : full.encoding = [0x6E, 0x69, 0x64, 0x1F, 0x32, 0x1E, 0x76, 0x69, 0x65, 0x77, 0x5F, 0x6D, 0x6F,
        0x64, 0x65, 0x1F, 0x66, 0x75, 0x6C, 0x6C, 0x1E] := by
      rw [Params.encoding_of_sorted (by decide), show Params.encodeEntry = _ from funext Params.encodeEntry_eq]
      decide
    rw [first, second]
    unfold Digest.Sha256.TellsApart
    decide +kernel
  have separable : ∀ p ∈ [single, full, single], ∀ entry ∈ p.entries, Params.Separable entry := by
    unfold Params.Separable
    decide
  have first : Builder.standard.build single =
      .ok (Builder.standard.finish (Builder.standard.draft single.entries)) := rfl
  have second : Builder.standard.build full =
      .ok (Builder.standard.finish (Builder.standard.draft full.entries)) := rfl
  have settled : ∀ b world, (host.builder cramped world).1 = .ok b → ∀ p ∈ [single, full, single], b.Settled p := by
    intro b world again
    obtain rfl : Builder.standard = b := Except.ok.inj ((built world).symm.trans again)
    simp only [List.forall_mem_cons, List.not_mem_nil, false_imp_iff, implies_true, and_true]
    exact ⟨Store.settled_of_build first rfl, Store.settled_of_build second rfl, Store.settled_of_build first rfl⟩
  have ordered : ∀ p ∈ [single, full, single], ¬s.Disordered .standard p := by
    simp only [List.forall_mem_cons, List.not_mem_nil, false_imp_iff, implies_true, and_true]
    have ordered₁ : ¬s.Disordered .standard single := Store.ordered_of_transOn fun request again => by
      cases Except.ok.inj (first.symm.trans again)
      decide +kernel
    have ordered₂ : ¬s.Disordered .standard full := Store.ordered_of_transOn fun request again => by
      cases Except.ok.inj (second.symm.trans again)
      decide +kernel
    exact ⟨ordered₁, ordered₂, ordered₁⟩
  have short : 0 + cramped.cache.ttl.toNat * 1000000000 < Instant.limit := by decide
  obtain ⟨b, made', answered, -⟩ := batch_answers_each_alone host cramped s "batch.json" () valid (fun _ _ _ => rfl)
    (fun _ _ => short) rfl accepted apart separable settled
  obtain rfl : Builder.standard = b := Except.ok.inj ((built ()).symm.trans (made' ()))
  exact ⟨valid, accepted, apart, ordered, answered ordered⟩

/-- A request that is answered by itself is lost behind one whose records cannot be sorted. -/
theorem batch_over_tangle_halts :
    let text := "[\x7b\"range\":\"21-5\",\"sort\":\"v-ASC\"\x7d,\x7b\"nid\":1\x7d]"
    let host := standing text
    let single : Params := .ofList [("nid", "1")]
    Config.standard.validate = .ok () ∧ Batch.parse text = .ok [Store.beyondTangle, single] ∧
      (∃ value, (host.query .standard Store.tangle single ()).1 = .ok ⟨value, false⟩) ∧
      (host.batch .standard Store.tangle "batch.json" ()).1 = .error (.halt .disorder) := by
  intro text host single
  have built : (host.builder .standard ()).1 = .ok .standard := rfl
  have accepted : Batch.parse text = .ok [Store.beyondTangle, single] := eq_ok_of_toOption (by decide +kernel)
  have found : Builder.standard.build single =
      .ok (Builder.standard.finish (Builder.standard.draft single.entries)) := rfl
  have ordered : ¬Store.tangle.Disordered .standard single := Store.ordered_of_transOn fun request again => by
    cases Except.ok.inj (found.symm.trans again)
    decide +kernel
  obtain ⟨response, alone, calm⟩ := Store.exists_alone ordered
  have short : 0 + Config.standard.cache.ttl.toNat * 1000000000 < Instant.limit := by decide
  have queried := query_alone built (fun _ _ => short) (Store.settled_of_build found rfl) alone
  have halted := Store.respond_disordered Store.tangle_disordered .still host.clock
    (Config.standard.cache.ttl.toNat * 1000000000) () fun cache (fresh : memory .standard = some cache) => by
      cases fresh
      rfl
  refine ⟨rfl, accepted, ⟨(Config.standard.output.outcome response).value, ?_⟩, ?_⟩
  · rw [queried, ← calm]
    rfl
  · exact batch_of_made rfl accepted (dispatcher_of_built built _) (respondAll_of_halt halted [single])

end Host
end Listing
