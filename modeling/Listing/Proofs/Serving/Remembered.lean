import Listing.OrderedMap
import Listing.Serving.Dispatch

/-!
What a cache remembers. It holds what has been put into it, each answer under its own key, and hands out nothing
else. A dispatcher looks there before it runs a request, and puts there what the run came to.
-/

namespace Listing

namespace Cache
variable {α : Type} {c c' : Cache α} {known : String → α → Prop} {now : Instant} {key : String} {answer : α}

def Holds (c : Cache α) (known : String → α → Prop) : Prop :=
  ∀ entry ∈ c.entries, known entry.1 entry.2.2

theorem holds_empty (capacity : Nat) (known : String → α → Prop) : (empty capacity).Holds known := by
  intro entry member
  cases member

theorem Holds.mono {known' : String → α → Prop} (holds : c.Holds known)
    (weaker : ∀ key answer, known key answer → known' key answer) : c.Holds known' :=
  fun entry member => weaker _ _ (holds entry member)

theorem Holds.get (holds : c.Holds known) (now : Instant) (key : String) :
    (c.get now key).2.Holds known ∧ ∀ answer, (c.get now key).1 = some answer → known key answer := by
  unfold Cache.get
  cases found : c.entries.lookup key with
  | none => exact ⟨holds, fun _ none => nomatch none⟩
  | some entry =>
    obtain ⟨expiry, answer⟩ := entry
    have member : (key, expiry, answer) ∈ c.entries := OrderedMap.mem_of_lookup found
    have others : ∀ entry ∈ without key c.entries, known entry.1 entry.2.2 :=
      fun entry member => holds entry (List.mem_filter.mp member).1
    simp only
    split
    · refine ⟨List.forall_mem_cons.mpr ⟨holds _ member, others⟩, ?_⟩
      rintro _ ⟨⟩
      exact holds _ member
    · exact ⟨others, fun _ none => nomatch none⟩

theorem Holds.set? {ttl : Nat} (holds : c.Holds known) (new : known key answer)
    (remembered : c.set? now key answer ttl = some c') : c'.Holds known := by
  unfold Cache.set? at remembered
  split at remembered
  · rwa [← Option.some.inj remembered]
  · obtain ⟨expiry, _, rfl⟩ := Option.map_eq_some_iff.mp remembered
    intro entry member
    rcases List.mem_cons.mp (List.mem_of_mem_take member) with rfl | old
    · exact new
    · exact holds entry (List.mem_filter.mp old).1

theorem get_subset (c : Cache α) (now : Instant) (key : String) : (c.get now key).2.entries ⊆ c.entries := by
  have others : without key c.entries ⊆ c.entries := fun _ member => (List.mem_filter.mp member).1
  unfold Cache.get
  cases found : c.entries.lookup key with
  | none => exact List.Subset.refl _
  | some entry =>
    simp only
    -- What is found moves to the front; what has expired is dropped.
    split
    · exact List.cons_subset.mpr ⟨OrderedMap.mem_of_lookup found, others⟩
    · exact others

theorem exists_entry_of_get (found : (c.get now key).1 = some answer) :
    ∃ expiry, (key, expiry, answer) ∈ c.entries ∧ now < expiry := by
  unfold Cache.get at found
  cases held : c.entries.lookup key with
  | none =>
    rw [held] at found
    cases found
  | some entry =>
    rw [held] at found
    simp only at found
    split at found
    · rename_i fresh
      cases found
      exact ⟨_, OrderedMap.mem_of_lookup held, fresh⟩
    · cases found

/-- An answer cannot be remembered just if it is to expire at an instant that no clock can show. -/
theorem set?_eq_none {ttl : Nat} :
    c.set? now key answer ttl = none ↔ ttl ≠ 0 ∧ Instant.limit ≤ now + ttl := by
  unfold Cache.set? Instant.after?
  by_cases brief : ttl = 0
  · simp only [brief, if_true, ne_eq, not_true_eq_false, false_and, reduceCtorEq]
  · rw [if_neg brief, Option.map_eq_none_iff, ite_eq_right_iff]
    simp only [reduceCtorEq, imp_false, Nat.not_lt, ne_eq, brief, not_false_eq_true, true_and]

theorem exists_set? {ttl : Nat} (c : Cache α) (key : String) (answer : α)
    (representable : now + ttl < Instant.limit) : ∃ c', c.set? now key answer ttl = some c' := by
  refine Option.ne_none_iff_exists'.mp fun refused => ?_
  exact Nat.not_le.mpr representable (set?_eq_none.mp refused).2

theorem get_empty (capacity : Nat) (now : Instant) (key : String) :
    (empty capacity : Cache α).get now key = (none, ⟨max capacity 1, [], 0, 1⟩) :=
  rfl

end Cache

namespace Dispatcher
variable {σ : Type}

/-- The instant of expiry is counted from a second look at the clock, after the run. -/
theorem dispatchFor_cached (d : Dispatcher (StateM σ)) (ttl : Nat) (cache : Cache Response) (p : Params)
    (world : σ) :
    d.dispatchFor ttl (some cache) p world =
      match cache.get (d.clock world).1 p.digest with
      | (some hit, cache) => ((.ok hit, some cache), (d.clock world).2)
      | (none, cache) =>
        match d.run p (d.clock world).2 with
        | (.error error, world) => ((.error error, some cache), world)
        | (.ok response, world) =>
          if response.isCacheable then
            match cache.set? (d.clock world).1 p.digest response ttl with
            | some cache => ((.ok response, some cache), (d.clock world).2)
            | none => ((.error .expiry, some cache), (d.clock world).2)
          else ((.ok response, some cache), world) := by
  simp only [dispatchFor, bind, StateT.bind]
  obtain ⟨now, read⟩ := d.clock world
  simp only
  rcases cache.get now p.digest with ⟨_ | hit, after⟩
  · simp only [StateT.bind]
    rcases d.run p read with ⟨_ | response, ran⟩
    · rfl
    · simp only [bind, StateT.bind, remember]
      cases response.isCacheable with
      | true =>
        simp only [if_true, bind, StateT.bind]
        obtain ⟨now, read⟩ := d.clock ran
        simp only
        cases after.set? now p.digest response ttl <;> rfl
      | false => rfl
  · rfl

end Dispatcher
end Listing
