import Listing.Proofs.Query.Requests
import Listing.Proofs.Serving.Remembered
import Listing.Proofs.Serving.Sessions

/-!
What the cache of a session may hold. Whatever the executor, the renderer and the clock do, it holds only what
runs of the session came to, a run that fails leaves nothing in it, and for an answer from the cache nobody is
asked.
-/

namespace Listing

/-! ### Runs -/

def Dispatcher.Memory.entries (memory : Dispatcher.Memory) : List (String × Instant × Response) :=
  memory.elim [] Cache.entries

namespace Turn
variable {τ : Type} (d : Dispatcher (StateM τ)) (t : Turn τ)

def found (p : Params) : Option Response := t.memory.bind fun cache => (cache.get (d.clock t.world).1 p.digest).1

/-- The turn does not find an answer to its request and runs it. -/
structure Runs (p : Params) (result : Except DispatchError Response) : Prop where
  asked : t.ask.request? = some p
  missed : t.found d p = none
  result : (d.run p (d.clock t.world).2).1 = result

structure Served (p : Params) : Prop where
  asked : t.ask.request? = some p
  held : (t.found d p).isSome

end Turn

namespace Turn
variable {τ : Type} {d : Dispatcher (StateM τ)} {t : Turn τ} {p q : Params}
  {result result' : Except DispatchError Response}

theorem Runs.unique (first : t.Runs d p result) (second : t.Runs d q result') : q = p ∧ result' = result := by
  obtain rfl : q = p := Option.some.inj (second.asked.symm.trans first.asked)
  exact ⟨rfl, second.result.symm.trans first.result⟩

theorem Runs.not_served (runs : t.Runs d p result) : ¬t.Served d q := by
  intro served
  obtain rfl : q = p := Option.some.inj (served.asked.symm.trans runs.asked)
  have held := served.held
  rw [runs.missed] at held
  cases held

end Turn

/-- A response with records or without, that a run of a request under the key came to. -/
def Recalled {τ : Type} (d : Dispatcher (StateM τ)) (past : List (Turn τ)) (key : String) (response : Response) :
    Prop :=
  ((∃ output pager, response = .rendered output pager) ∨ response = .noResults) ∧
    ∃ earlier ∈ past, ∃ p, earlier.Runs d p (.ok response) ∧ p.digest = key

/-- What a turn does in a session with a cache, after the turns of its past. -/
structure Turn.Sound {σ : Type} (d : Dispatcher (StateM (Logged σ)))
    (past : List (Turn (Logged σ))) (t : Turn (Logged σ)) : Prop where
  recalled : ∃ cache, t.memory' = some cache ∧ cache.Holds (Recalled d (past ++ [t]))
  failed : ∀ p error, t.Runs d p (.error error) →
    t.reply = t.ask.report error ∧ t.memory'.entries ⊆ t.memory.entries
  served : ∀ p, t.Served d p → t.world'.2 = t.world.2 ∧ ∃ expiry response,
    (p.digest, expiry, response) ∈ t.memory.entries ∧ (d.clock t.world).1 < expiry ∧ t.reply = t.ask.passOn response

/-! ### Calls by their requests -/

namespace Ask

def ttl (usual : Nat) : Ask → Nat
  | dispatchFor ttl _ => ttl
  | dispatch _ | respond _ | block _ => usual

def wrap (answer : Except DispatchError Response) : Ask → Reply
  | dispatch _ | dispatchFor _ _ => .answered answer
  | respond _ | block _ => .shown (Dispatcher.shown answer)

theorem wrap_ok (ask : Ask) (response : Response) : ask.wrap (.ok response) = ask.passOn response := by
  cases ask <;> rfl

theorem wrap_error (ask : Ask) (error : DispatchError) : ask.wrap (.error error) = ask.report error := by
  cases ask <;> rfl

end Ask

namespace Dispatcher
variable {τ : Type} (d : Dispatcher (StateM τ))

theorem respond_eq (memory : Memory) (p : Params) (world : τ) :
    d.respond memory p world =
      ((shown (d.dispatch memory p world).1.1, (d.dispatch memory p world).1.2), (d.dispatch memory p world).2) := by
  simp only [respond, bind, StateT.bind]
  rfl

theorem ask_eq {ask : Ask} {p : Params} (asked : ask.request? = some p) (memory : Memory) (world : τ) :
    d.ask memory ask world =
      ((ask.wrap (d.dispatchFor (ask.ttl d.ttl) memory p world).1.1,
        (d.dispatchFor (ask.ttl d.ttl) memory p world).1.2), (d.dispatchFor (ask.ttl d.ttl) memory p world).2) := by
  cases ask with
  | dispatch | dispatchFor =>
    cases asked
    rfl
  | respond =>
    cases asked
    simp only [Dispatcher.ask, bind, StateT.bind, respond_eq]
    rfl
  | block b =>
    change b.request? = some p at asked
    simp only [Dispatcher.ask, bind, StateT.bind, respondBlock, asked, respond_eq]
    rfl

end Dispatcher

/-! ### Turns -/

theorem Recalled.later {τ : Type} {d : Dispatcher (StateM τ)} {past : List (Turn τ)} {key : String}
    {response : Response} (recalled : Recalled d past key response) (t : Turn τ) :
    Recalled d (past ++ [t]) key response := by
  obtain ⟨worth, earlier, member, ran⟩ := recalled
  exact ⟨worth, earlier, List.mem_append_left _ member, ran⟩

theorem Response.worth_of_isCacheable {response : Response} (cacheable : response.isCacheable = true) :
    (∃ output pager, response = .rendered output pager) ∨ response = .noResults := by
  cases response with
  | rendered output pager => exact .inl ⟨output, pager, rfl⟩
  | noResults => exact .inr rfl
  | _ => cases cacheable

section Turns
variable {σ : Type} {d : Dispatcher (StateM σ)} {past : List (Turn (Logged σ))} {cache : Cache Response}
  {t : Turn (Logged σ)}

theorem Turn.sound_of_empty (holds : cache.Holds (Recalled d.logged past)) (before : t.memory = some cache)
    (asked : t.ask.request? = none)
    (done : d.logged.ask t.memory t.ask t.world = ((t.reply, t.memory'), t.world')) : t.Sound d.logged past := by
  obtain ⟨ask, memory, world, reply, memory', world'⟩ := t
  obtain rfl : memory = some cache := before
  cases ask with
  | dispatch | dispatchFor | respond => cases asked
  | block b =>
    -- A block without a content type is not dispatched: cache and world stay as they are.
    change b.request? = none at asked
    simp only [Dispatcher.ask, Dispatcher.respondBlock, asked] at done
    cases done
    refine ⟨⟨cache, rfl, holds.mono fun _ _ recalled => recalled.later _⟩, ?_, ?_⟩
    · intro p error runs
      exact absurd (asked.symm.trans runs.asked) nofun
    · intro p served
      exact absurd (asked.symm.trans served.asked) nofun

theorem Turn.sound_of_found {p : Params} {hit : Response} {after : Cache Response}
    (holds : cache.Holds (Recalled d.logged past)) (before : t.memory = some cache)
    (asked : t.ask.request? = some p)
    (lookup : cache.get (d.logged.clock t.world).1 p.digest = (some hit, after))
    (reply : t.reply = t.ask.passOn hit) (memory' : t.memory' = some after)
    (world' : t.world' = (d.logged.clock t.world).2) : t.Sound d.logged past := by
  have looked := holds.get (d.logged.clock t.world).1 p.digest
  rw [lookup] at looked
  have served : t.Served d.logged p := by
    refine ⟨asked, ?_⟩
    rw [Turn.found, before, Option.bind_some, lookup]
    rfl
  refine ⟨⟨after, memory', looked.1.mono fun _ _ recalled => recalled.later t⟩, ?_, ?_⟩
  · intro q error runs
    exact absurd served runs.not_served
  · intro q other
    obtain rfl : q = p := Option.some.inj (other.asked.symm.trans asked)
    obtain ⟨expiry, held, fresh⟩ := Cache.exists_entry_of_get (congrArg Prod.fst lookup)
    refine ⟨?_, expiry, hit, ?_, fresh, reply⟩
    · rw [world']
      exact List.append_nil _
    · rw [before]
      exact held

theorem Turn.sound_of_failed {p : Params} {error : DispatchError} {after : Cache Response}
    (holds : cache.Holds (Recalled d.logged past)) (before : t.memory = some cache)
    (runs : t.Runs d.logged p (.error error))
    (lookup : (cache.get (d.logged.clock t.world).1 p.digest).2 = after)
    (reply : t.reply = t.ask.report error) (memory' : t.memory' = some after) : t.Sound d.logged past := by
  have looked := holds.get (d.logged.clock t.world).1 p.digest
  have kept := cache.get_subset (d.logged.clock t.world).1 p.digest
  rw [lookup] at looked kept
  refine ⟨⟨after, memory', looked.1.mono fun _ _ recalled => recalled.later t⟩, ?_, ?_⟩
  · intro q other again
    obtain ⟨rfl, same⟩ := runs.unique again
    cases same
    refine ⟨reply, ?_⟩
    rw [memory', before]
    exact kept
  · intro q served
    exact absurd served runs.not_served

theorem Turn.sound_of_ran {p : Params} {response : Response} {after final : Cache Response}
    (holds : cache.Holds (Recalled d.logged past)) (runs : t.Runs d.logged p (.ok response))
    (lookup : (cache.get (d.logged.clock t.world).1 p.digest).2 = after)
    (stored : final = after ∨ response.isCacheable = true ∧
      ∃ now ttl, after.set? now p.digest response ttl = some final)
    (memory' : t.memory' = some final) : t.Sound d.logged past := by
  have looked := (holds.get (d.logged.clock t.world).1 p.digest).1
  rw [lookup] at looked
  have later : after.Holds (Recalled d.logged (past ++ [t])) := looked.mono fun _ _ recalled => recalled.later t
  refine ⟨⟨final, memory', ?_⟩, ?_, ?_⟩
  · rcases stored with rfl | ⟨cacheable, now, ttl, set⟩
    · exact later
    · have own : Recalled d.logged (past ++ [t]) p.digest response :=
        ⟨Response.worth_of_isCacheable cacheable, t, List.mem_append_right _ List.mem_cons_self, p, runs, rfl⟩
      exact later.set? own set
  · intro q error again
    cases (runs.unique again).2
  · intro q served
    exact absurd served runs.not_served

theorem Turn.sound_of_request {p : Params} (holds : cache.Holds (Recalled d.logged past))
    (before : t.memory = some cache) (asked : t.ask.request? = some p)
    (done : d.logged.ask t.memory t.ask t.world = ((t.reply, t.memory'), t.world')) : t.Sound d.logged past := by
  rw [d.logged.ask_eq asked, before, Dispatcher.dispatchFor_cached] at done
  have found : t.found d.logged p = (cache.get (d.logged.clock t.world).1 p.digest).1 := by
    rw [Turn.found, before]
    rfl
  rcases lookup : cache.get (d.logged.clock t.world).1 p.digest with ⟨_ | hit, after⟩
  · rw [lookup] at found done
    have state : (cache.get (d.logged.clock t.world).1 p.digest).2 = after := congrArg Prod.snd lookup
    rcases ran : d.logged.run p (d.logged.clock t.world).2 with ⟨error | response, world⟩
    · rw [ran] at done
      obtain ⟨reply, memory'⟩ := Prod.mk.inj (Prod.mk.inj done).1
      rw [t.ask.wrap_error error] at reply
      exact sound_of_failed holds before ⟨asked, found, congrArg Prod.fst ran⟩ state reply.symm memory'.symm
    · have runs : t.Runs d.logged p (.ok response) := ⟨asked, found, congrArg Prod.fst ran⟩
      rw [ran] at done
      have memory' := (Prod.mk.inj (Prod.mk.inj done).1).2
      simp only at memory'
      split at memory'
      · rename_i cacheable
        split at memory'
        · rename_i set
          exact sound_of_ran holds runs state (.inr ⟨cacheable, _, _, set⟩) memory'.symm
        · exact sound_of_ran holds runs state (.inl rfl) memory'.symm
      · exact sound_of_ran holds runs state (.inl rfl) memory'.symm
  · rw [lookup] at done
    obtain ⟨shown, world'⟩ := Prod.mk.inj done
    obtain ⟨reply, memory'⟩ := Prod.mk.inj shown
    rw [t.ask.wrap_ok hit] at reply
    exact sound_of_found holds before asked lookup reply.symm memory'.symm world'.symm

theorem Turn.sound (holds : cache.Holds (Recalled d.logged past)) (before : t.memory = some cache)
    (done : d.logged.ask t.memory t.ask t.world = ((t.reply, t.memory'), t.world')) : t.Sound d.logged past := by
  cases asked : t.ask.request? with
  | none => exact sound_of_empty holds before asked done
  | some p => exact sound_of_request holds before asked done

end Turns

end Listing
