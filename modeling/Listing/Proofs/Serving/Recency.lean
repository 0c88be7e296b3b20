import Mathlib.Data.Finset.Card
import Listing.Proofs.Serving.Remembered

/-!
What a cache hands out after any calls while its clock does not go back. An answer was stored under its key last and
has not expired, and it is handed out as long as fewer keys than there are places have been used since.
-/

namespace Listing.Cache
variable {α : Type}

/-! ### Calls and what has come of them -/

inductive Call (α : Type)
  | get (key : String)
  | set (key : String) (answer : α) (ttl : Nat)
  | clear
  deriving DecidableEq

def Call.isGet : Call α → Bool
  | .get _ => true
  | _ => false

structure Event (α : Type) where
  now : Instant
  call : Call α
  reply : Option α
  after : Cache α

/-- What a call comes to, unless the clock cannot show an instant of expiry. -/
def perform? (c : Cache α) (now : Instant) : Call α → Option (Option α × Cache α)
  | .get key => some (c.get now key)
  | .set key answer ttl => (c.set? now key answer ttl).map (none, ·)
  | .clear => some (none, c.clear)

def run? (c : Cache α) : List (Instant × Call α) → Option (List (Event α))
  | [] => some []
  | (now, call) :: rest => do
    let (reply, after) ← c.perform? now call
    return ⟨now, call, reply, after⟩ :: (← after.run? rest)

namespace Event

def touched? (e : Event α) : Option String :=
  match e.call with
  | .get key => e.reply.map fun _ => key
  | .set key _ ttl => if ttl = 0 then none else some key
  | .clear => none

def Stores (e : Event α) (key : String) (answer : α) (expiry : Instant) : Prop :=
  ∃ ttl, ttl ≠ 0 ∧ e.call = .set key answer ttl ∧ expiry = e.now + ttl

/-- Whatever was stored under the key before is gone. -/
def Ends (e : Event α) (key : String) : Prop :=
  e.call = .clear ∨ ∃ answer expiry, e.Stores key answer expiry

theorem not_stores_get {e : Event α} {key other : String} {answer : α} {expiry : Instant} (call : e.call = .get other) :
    ¬e.Stores key answer expiry := by
  rintro ⟨ttl, -, own, -⟩
  cases call.symm.trans own

theorem not_ends_get {e : Event α} {key other : String} (call : e.call = .get other) : ¬e.Ends key := by
  rintro (cleared | ⟨answer, expiry, stores⟩)
  · cases call.symm.trans cleared
  · exact not_stores_get call stores

theorem ends_set {e : Event α} {key other : String} {answer : α} {ttl : Nat} (call : e.call = .set other answer ttl) :
    e.Ends key ↔ ttl ≠ 0 ∧ key = other := by
  constructor
  · rintro (cleared | ⟨_, _, _, lasting, own, -⟩)
    · cases call.symm.trans cleared
    · cases call.symm.trans own
      exact ⟨lasting, rfl⟩
  · rintro ⟨lasting, rfl⟩
    exact .inr ⟨answer, _, ttl, lasting, call, rfl⟩

end Event

/-- The last of the past to store something under the key, with no clear after it. -/
def Stored (past : List (Event α)) (key : String) (answer : α) (expiry : Instant) : Prop :=
  ∃ before e after, past = before ++ e :: after ∧ e.Stores key answer expiry ∧ ∀ later ∈ after, ¬later.Ends key

/-- The keys that have been used since this one was, the latest first. -/
def others (past : List (Event α)) (key : String) : List String :=
  (past.filterMap Event.touched?).reverse.takeWhile (· ≠ key)

variable {c : Cache α} {past : List (Event α)} {e : Event α} {now expiry : Instant} {key other : String} {answer : α}

theorem others_concat (past : List (Event α)) (e : Event α) (key : String) :
    others (past ++ [e]) key =
      match e.touched? with
      | none => others past key
      | some other => if other = key then [] else other :: others past key := by
  unfold others
  cases used : e.touched? with
  | none => simp [List.filterMap_append, used]
  | some other =>
    by_cases own : other = key
    · simp [List.filterMap_append, used, own]
    · simp [List.filterMap_append, used, own]

theorem stored_concat :
    Stored (past ++ [e]) key answer expiry ↔
      e.Stores key answer expiry ∨ ¬e.Ends key ∧ Stored past key answer expiry := by
  constructor
  · rintro ⟨before, stored, after, whole, own, kept⟩
    rcases List.eq_nil_or_concat' after with rfl | ⟨later, final, rfl⟩
    · obtain ⟨-, last⟩ := List.append_inj' whole rfl
      cases last
      exact .inl own
    · rw [← List.cons_append, ← List.append_assoc] at whole
      obtain ⟨rfl, last⟩ := List.append_inj' whole rfl
      cases last
      exact .inr ⟨kept _ (List.mem_append_right _ List.mem_cons_self),
        before, stored, later, rfl, own, fun other member => kept _ (List.mem_append_left _ member)⟩
  · rintro (own | ⟨keeps, before, stored, after, rfl, own, kept⟩)
    · exact ⟨past, e, [], rfl, own, List.forall_mem_nil _⟩
    · refine ⟨before, stored, after ++ [e], by rw [List.append_assoc, List.cons_append], own, fun later member => ?_⟩
      rcases List.mem_append.mp member with old | new
      · exact kept later old
      · rwa [List.mem_singleton.mp new]

theorem not_stored_nil : ¬Stored [] key answer expiry := by
  rintro ⟨before, e, after, whole, -⟩
  exact List.append_ne_nil_of_right_ne_nil before (List.cons_ne_nil e after) whole.symm

theorem Stored.unique {answer' : α} {expiry' : Instant} (stored : Stored past key answer expiry)
    (stored' : Stored past key answer' expiry') : answer = answer' ∧ expiry = expiry' := by
  induction past using List.reverseRecOn with
  | nil => exact absurd stored not_stored_nil
  | append_singleton past e ih =>
    rcases stored_concat.mp stored with own | ⟨keeps, old⟩
    · rcases stored_concat.mp stored' with own' | ⟨keeps, -⟩
      · obtain ⟨ttl, -, call, rfl⟩ := own
        obtain ⟨ttl', -, call', rfl⟩ := own'
        cases call.symm.trans call'
        exact ⟨rfl, rfl⟩
      · exact absurd (.inr ⟨_, _, own⟩) keeps
    · rcases stored_concat.mp stored' with own' | ⟨-, old'⟩
      · exact absurd (.inr ⟨_, _, own'⟩) keeps
      · exact ih old old'

/-! ### Entries -/

def keys (c : Cache α) : List String := c.entries.map Prod.fst

/-- The key is held, and only keys used after it stand in front of it. -/
def Reaches (entries : List (String × Instant × α)) (key : String) (used : List String) : Prop :=
  ∃ front back, entries.map Prod.fst = front ++ key :: back ∧ front ⊆ used

/-- A key that can be recalled, given the keys that have been used since: it stands behind these alone, or there are as
many of them as there are places. -/
def Recalls (capacity : Nat) (entries : List (String × Instant × α)) (key : String) (used : List String) : Prop :=
  Reaches entries key used ∨ capacity ≤ used.toFinset.card

section
variable {entries : List (String × Instant × α)} {entry : String × Instant × α} {used used' : List String}
  {capacity : Nat}

theorem mem_without : entry ∈ without key entries ↔ entry ∈ entries ∧ entry.1 ≠ key := by
  simp [without]

theorem keys_without (key : String) (entries : List (String × Instant × α)) :
    (without key entries).map Prod.fst = (entries.map Prod.fst).filter (· ≠ key) := by
  unfold without
  induction entries with
  | nil => rfl
  | cons entry rest ih => by_cases own : entry.1 = key <;> simp [own, ih]

theorem nodup_cons_without (nodup : (entries.map Prod.fst).Nodup) (entry : String × Instant × α) :
    ((entry :: without entry.1 entries).map Prod.fst).Nodup := by
  rw [List.map_cons, keys_without, List.nodup_cons]
  exact ⟨by simp, nodup.filter _⟩

theorem length_without_lt (held : entry ∈ entries) : (without entry.1 entries).length < entries.length :=
  List.length_filter_lt_length_iff_exists.mpr ⟨entry, held, by simp⟩

theorem card_le_of_subset (within : used ⊆ used') : used.toFinset.card ≤ used'.toFinset.card :=
  Finset.card_le_card fun _ member => List.mem_toFinset.mpr (within (List.mem_toFinset.mp member))

theorem reaches_cons (entry : String × Instant × α) (entries : List (String × Instant × α)) (used : List String) :
    Reaches (entry :: entries) entry.1 used :=
  ⟨[], entries.map Prod.fst, rfl, List.nil_subset _⟩

theorem Reaches.cons (reaches : Reaches entries key used) (entry : String × Instant × α) :
    Reaches (entry :: entries) key (entry.1 :: used) := by
  obtain ⟨front, back, whole, within⟩ := reaches
  refine ⟨entry.1 :: front, back, by rw [List.map_cons, whole, List.cons_append], ?_⟩
  exact List.cons_subset.mpr ⟨List.mem_cons_self, fun _ member => List.mem_cons_of_mem _ (within member)⟩

theorem Reaches.without (reaches : Reaches entries key used) (apart : other ≠ key) :
    Reaches (without other entries) key used := by
  obtain ⟨front, back, whole, within⟩ := reaches
  refine ⟨front.filter (· ≠ other), back.filter (· ≠ other), ?_, fun _ member => within (List.mem_filter.mp member).1⟩
  rw [keys_without, whole, List.filter_append, List.filter_cons_of_pos (by simp [apart.symm])]

theorem Reaches.take (reaches : Reaches entries key used) (nodup : (entries.map Prod.fst).Nodup) (places : Nat) :
    Recalls places (entries.take places) key used := by
  obtain ⟨front, back, whole, within⟩ := reaches
  rcases Nat.lt_or_ge front.length places with enough | full
  · obtain ⟨rest, rfl⟩ := Nat.exists_eq_add_of_lt enough
    refine .inl ⟨front, back.take rest, ?_, within⟩
    rw [List.map_take, whole, Nat.add_assoc, List.take_length_add_append, List.take_succ_cons]
  · right
    rw [whole] at nodup
    calc places
      _ ≤ front.length := full
      _ = front.toFinset.card := (List.toFinset_card_of_nodup (List.nodup_append.mp nodup).1).symm
      _ ≤ used.toFinset.card := card_le_of_subset within

theorem Recalls.without (recalls : Recalls capacity entries key used) (apart : other ≠ key) :
    Recalls capacity (without other entries) key used :=
  recalls.imp_left fun reaches => reaches.without apart

theorem Recalls.behind (recalls : Recalls capacity entries key used) (entry : String × Instant × α)
    (apart : entry.1 ≠ key) : Recalls capacity (entry :: Cache.without entry.1 entries) key (entry.1 :: used) :=
  (recalls.without apart).imp (fun reaches => reaches.cons entry)
    fun full => full.trans (card_le_of_subset (List.subset_cons_self _ _))

end

/-! ### One call -/

inductive Performs (c : Cache α) (now : Instant) : Call α → Option α → Cache α → Prop
  | hit {key : String} {expiry : Instant} {answer : α} (held : (key, expiry, answer) ∈ c.entries)
      (fresh : now < expiry) : Performs c now (.get key) (some answer)
        { c with entries := (key, expiry, answer) :: without key c.entries, hits := c.hits + 1 }
  | absent {key : String} (new : key ∉ c.entries.map Prod.fst) :
      Performs c now (.get key) none { c with misses := c.misses + 1 }
  | expired {key : String} {expiry : Instant} {answer : α} (held : (key, expiry, answer) ∈ c.entries)
      (stale : ¬now < expiry) : Performs c now (.get key) none
        { c with entries := without key c.entries, misses := c.misses + 1 }
  | ignored {key : String} {answer : α} : Performs c now (.set key answer 0) none c
  | stored {key : String} {answer : α} {ttl : Nat} (lasting : ttl ≠ 0) :
      Performs c now (.set key answer ttl) none
        { c with entries := ((key, now + ttl, answer) :: without key c.entries).take c.capacity }
  | cleared : Performs c now .clear none c.clear

theorem performs_get (c : Cache α) (now : Instant) (key : String) :
    c.Performs now (.get key) (c.get now key).1 (c.get now key).2 := by
  unfold Cache.get
  cases found : c.entries.lookup key with
  | none =>
    refine .absent fun member => ?_
    obtain ⟨entry, held, rfl⟩ := List.mem_map.mp member
    exact absurd (List.lookup_eq_none_iff.mp found entry held) (by simp)
  | some entry =>
    obtain ⟨expiry, answer⟩ := entry
    have held := OrderedMap.mem_of_lookup found
    simp only
    split
    · rename_i fresh
      exact .hit held fresh
    · rename_i stale
      exact .expired held stale

theorem exists_performs {call : Call α} (c : Cache α)
    (representable : ∀ key answer ttl, call = .set key answer ttl → now + ttl < Instant.limit) :
    ∃ reply after, c.perform? now call = some (reply, after) ∧ c.Performs now call reply after := by
  cases call with
  | get key => exact ⟨_, _, rfl, c.performs_get now key⟩
  | clear => exact ⟨_, _, rfl, .cleared⟩
  | set key answer ttl =>
    by_cases brief : ttl = 0
    · subst brief
      exact ⟨none, c, rfl, .ignored⟩
    · simp only [perform?, Cache.set?, if_neg brief, Instant.after?, if_pos (representable key answer ttl rfl)]
      exact ⟨none, _, rfl, .stored brief⟩

namespace Performs
variable {call : Call α} {reply : Option α} {after : Cache α}

theorem capacity_eq (performs : c.Performs now call reply after) : after.capacity = c.capacity := by
  cases performs <;> rfl

theorem room (performs : c.Performs now call reply after) (room : c.size ≤ c.capacity) :
    after.size ≤ after.capacity := by
  cases performs with
  | hit held fresh => exact (length_without_lt held).trans_le room
  | absent | ignored => exact room
  | expired held stale => exact (length_without_lt held).le.trans room
  | stored lasting => exact List.length_take_le _ _
  | cleared => exact Nat.zero_le _

theorem nodup (performs : c.Performs now call reply after) (nodup : c.keys.Nodup) : after.keys.Nodup := by
  cases performs with
  | hit held fresh => exact nodup_cons_without nodup _
  | absent | ignored => exact nodup
  | @expired key expiry answer held stale =>
    unfold keys
    rw [keys_without]
    exact nodup.filter _
  | @stored key answer ttl lasting =>
    unfold keys
    rw [List.map_take]
    exact (List.take_sublist _ _).nodup (nodup_cons_without nodup (key, now + ttl, answer))
  | cleared => exact List.nodup_nil

/-- What is held after a call was held before and is not ended, or it has just been stored. -/
theorem mem_cases (performs : c.Performs now call reply after) {entry : String × Instant × α}
    (member : entry ∈ after.entries) :
    (⟨now, call, reply, after⟩ : Event α).Stores entry.1 entry.2.2 entry.2.1 ∨
      ¬(⟨now, call, reply, after⟩ : Event α).Ends entry.1 ∧ entry ∈ c.entries := by
  cases performs with
  | hit held fresh =>
    refine .inr ⟨Event.not_ends_get rfl, ?_⟩
    rcases List.mem_cons.mp member with rfl | old
    · exact held
    · exact (mem_without.mp old).1
  | absent new => exact .inr ⟨Event.not_ends_get rfl, member⟩
  | expired held stale => exact .inr ⟨Event.not_ends_get rfl, (mem_without.mp member).1⟩
  | ignored => exact .inr ⟨fun ends => ((Event.ends_set rfl).mp ends).1 rfl, member⟩
  | @stored key answer ttl lasting =>
    rcases List.mem_cons.mp (List.mem_of_mem_take member) with rfl | old
    · exact .inl ⟨ttl, lasting, rfl, rfl⟩
    · obtain ⟨old, apart⟩ := mem_without.mp old
      exact .inr ⟨fun ends => apart ((Event.ends_set rfl).mp ends).2, old⟩
  | cleared => cases member

theorem counters (performs : c.Performs now call reply after) :
    after.hits = c.hits + (call.isGet && reply.isSome).toNat ∧
      after.hits + after.misses = c.hits + c.misses + call.isGet.toNat := by
  cases performs <;> simp [Call.isGet, Cache.clear, Nat.add_assoc, Nat.add_comm, Nat.add_left_comm]

end Performs

/-! ### Invariant -/

structure Follows (c : Cache α) (past : List (Event α)) : Prop where
  room : c.size ≤ c.capacity
  nodup : c.keys.Nodup
  own : ∀ key expiry answer, (key, expiry, answer) ∈ c.entries → Stored past key answer expiry
  /-- An answer that has not expired is lost only to as many other keys as there are places. -/
  kept : ∀ key answer expiry, Stored past key answer expiry → (∀ e ∈ past, e.now < expiry) →
    Recalls c.capacity c.entries key (others past key)
  counted : c.hits + c.misses = past.countP fun e => e.call.isGet
  hits : c.hits = past.countP fun e => e.call.isGet && e.reply.isSome

/-- The answer that a key stored last stands under it, if anything does. -/
theorem Follows.eq_of_mem (follows : c.Follows past) (stored : Stored past key answer expiry)
    {expiry' : Instant} {answer' : α} (member : (key, expiry', answer') ∈ c.entries) :
    answer' = answer ∧ expiry' = expiry :=
  (follows.own key expiry' answer' member).unique stored

theorem Follows.kept_step (follows : c.Follows past) {call : Call α} {reply : Option α} {after : Cache α}
    (performs : c.Performs now call reply after)
    (stored : Stored (past ++ [⟨now, call, reply, after⟩]) key answer expiry)
    (lasts : ∀ e ∈ past ++ [⟨now, call, reply, after⟩], e.now < expiry) :
    Recalls after.capacity after.entries key (others (past ++ [⟨now, call, reply, after⟩]) key) := by
  obtain ⟨earlier, last⟩ := List.forall_mem_append.mp lasts
  have fresh : now < expiry := last _ List.mem_cons_self
  -- The key has been used by the call, or it was stored before and the call leaves it where it was or moves it back.
  have before (old : Stored past key answer expiry) : Recalls c.capacity c.entries key (others past key) :=
    follows.kept key answer expiry old earlier
  rw [others_concat]
  rcases stored_concat.mp stored with new | ⟨keeps, old⟩
  · obtain ⟨ttl, lasting, own, -⟩ := new
    cases own
    cases performs with
    | ignored => exact absurd rfl lasting
    | stored =>
      simp only [Event.touched?, if_neg lasting, if_true]
      exact (reaches_cons _ _ []).take (nodup_cons_without follows.nodup _) _
  · cases performs with
    | @hit other expiry' answer' held _ =>
      simp only [Event.touched?, Option.map_some]
      split
      · rename_i own
        exact .inl (own ▸ reaches_cons _ _ [])
      · rename_i apart
        exact (before old).behind (other, expiry', answer') apart
    | absent new => exact before old
    | @expired other expiry' answer' held stale =>
      refine (before old).without ?_
      rintro rfl
      exact stale ((follows.eq_of_mem old held).2 ▸ fresh)
    | ignored => exact before old
    | @stored other answer' ttl lasting =>
      have apart : other ≠ key := fun own => keeps ((Event.ends_set rfl).mpr ⟨lasting, own.symm⟩)
      simp only [Event.touched?, if_neg lasting, if_neg apart]
      rcases (before old).behind (other, now + ttl, answer') apart with reaches | full
      · exact reaches.take (nodup_cons_without follows.nodup (other, now + ttl, answer')) _
      · exact .inr full
    | cleared => exact absurd (.inl rfl) keeps

theorem Follows.step (follows : c.Follows past) {call : Call α} {reply : Option α} {after : Cache α}
    (performs : c.Performs now call reply after) : after.Follows (past ++ [⟨now, call, reply, after⟩]) where
  room := performs.room follows.room
  nodup := performs.nodup follows.nodup
  own key expiry answer member :=
    stored_concat.mpr ((performs.mem_cases member).imp_right fun ⟨keeps, old⟩ => ⟨keeps, follows.own _ _ _ old⟩)
  kept _ _ _ stored lasts := follows.kept_step performs stored lasts
  counted := by
    rw [performs.counters.2, follows.counted, List.countP_append, List.countP_singleton]
    cases call.isGet <;> rfl
  hits := by
    rw [performs.counters.1, follows.hits, List.countP_append, List.countP_singleton]
    cases call.isGet && reply.isSome <;> rfl

/-! ### Runs -/

/-- A call does what a least-recently-used cache with expiry does after such a past. -/
structure Event.Lawful (capacity : Nat) (past : List (Event α)) (e : Event α) : Prop where
  room : e.after.size ≤ capacity
  counted : e.after.hits + e.after.misses = (past ++ [e]).countP fun e => e.call.isGet
  hits : e.after.hits = (past ++ [e]).countP fun e => e.call.isGet && e.reply.isSome
  sound : ∀ key answer, e.call = .get key → e.reply = some answer →
    ∃ expiry, Stored past key answer expiry ∧ e.now < expiry
  complete : ∀ key answer expiry, e.call = .get key → Stored past key answer expiry → e.now < expiry →
    (others past key).toFinset.card < capacity → e.reply = some answer
  absent : ∀ key, e.call = .get key → e.reply = none → key ∉ e.after.keys

theorem Follows.lawful (follows : c.Follows past) {call : Call α} {reply : Option α} {after : Cache α}
    (performs : c.Performs now call reply after) (ordered : ∀ e ∈ past, e.now ≤ now) :
    Event.Lawful c.capacity past ⟨now, call, reply, after⟩ where
  room := performs.capacity_eq ▸ (follows.step performs).room
  counted := (follows.step performs).counted
  hits := (follows.step performs).hits
  sound := by
    rintro key answer ⟨⟩ ⟨⟩
    cases performs with
    | hit held fresh => exact ⟨_, follows.own _ _ _ held, fresh⟩
  complete := by
    rintro key answer expiry ⟨⟩ stored (fresh : now < expiry) few
    have recalls := follows.kept key answer expiry stored fun e member => (ordered e member).trans_lt fresh
    cases performs with
    | hit held fresh => exact congrArg some (follows.eq_of_mem stored held).1
    | absent new =>
      obtain ⟨front, back, whole, -⟩ := recalls.resolve_right (Nat.not_le.mpr few)
      exact absurd (whole ▸ List.mem_append_right _ List.mem_cons_self) new
    | expired held stale => exact absurd ((follows.eq_of_mem stored held).2 ▸ fresh) stale
  absent := by
    rintro key ⟨⟩ ⟨⟩
    cases performs with
    | absent new => exact new
    | expired held stale =>
      unfold keys
      rw [keys_without]
      simp

theorem Follows.run {calls : List (Instant × Call α)} (follows : c.Follows past)
    (representable : ∀ now key answer ttl, (now, .set key answer ttl) ∈ calls → now + ttl < Instant.limit)
    (later : ∀ e ∈ past, ∀ call ∈ calls, e.now ≤ call.1) (ordered : calls.Pairwise fun call next => call.1 ≤ next.1) :
    ∃ events, c.run? calls = some events ∧ events.map (fun e => (e.now, e.call)) = calls ∧
      ∀ before e after, events = before ++ e :: after → e.Lawful c.capacity (past ++ before) := by
  induction calls generalizing c past with
  | nil =>
    refine ⟨[], rfl, rfl, fun before e after whole => ?_⟩
    exact absurd whole.symm (List.append_ne_nil_of_right_ne_nil before (List.cons_ne_nil e after))
  | cons first rest ih =>
    obtain ⟨now, call⟩ := first
    obtain ⟨reply, after, performed, performs⟩ := c.exists_performs fun key answer ttl own =>
      representable now key answer ttl (own ▸ List.mem_cons_self)
    have earlier : ∀ e ∈ past, e.now ≤ now := fun e member => later e member _ List.mem_cons_self
    obtain ⟨next, ordered⟩ := List.pairwise_cons.mp ordered
    obtain ⟨events, ran, made, lawful⟩ := ih (follows.step performs)
      (fun now key answer ttl member => representable now key answer ttl (List.mem_cons_of_mem _ member))
      (fun e member call among => by
        rcases List.mem_append.mp member with old | new
        · exact later e old call (List.mem_cons_of_mem _ among)
        · rw [List.mem_singleton.mp new]
          exact next call among)
      ordered
    refine ⟨⟨now, call, reply, after⟩ :: events, by simp [run?, performed, ran], by rw [List.map_cons, made], ?_⟩
    rintro (_ | ⟨own, before⟩) e rest' ⟨⟩
    · rw [List.append_nil]
      exact follows.lawful performs earlier
    · rw [← performs.capacity_eq, List.append_cons]
      exact lawful before e rest' rfl

theorem follows_empty (capacity : Nat) : (empty capacity : Cache α).Follows [] where
  room := Nat.zero_le _
  nodup := List.nodup_nil
  own _ _ _ member := nomatch member
  kept _ _ _ stored _ := absurd stored not_stored_nil
  counted := rfl
  hits := rfl

/-- However it is called while its clock does not go back, a cache never holds more than its capacity, counts its hits
and misses, hands out only what was stored last and has not expired, and does hand it out as long as fewer other keys
have been used since than it has places. A key for which there is nothing is not held. -/
theorem recent_answers_recalled {calls : List (Instant × Call α)} (capacity : Nat)
    (representable : ∀ now key answer ttl, (now, .set key answer ttl) ∈ calls → now + ttl < Instant.limit)
    (ordered : calls.Pairwise fun call next => call.1 ≤ next.1) :
    ∃ events, (empty capacity).run? calls = some events ∧ events.map (fun e => (e.now, e.call)) = calls ∧
      ∀ past e later, events = past ++ e :: later → e.Lawful (max capacity 1) past :=
  (follows_empty capacity).run representable (fun _ member => nomatch member) ordered

theorem used_answer_outlives_older_one :
    let calls : List (Instant × Call Response) :=
      [(0, .set "a" .noResults 60), (1, .set "b" .invalidDate 60), (2, .get "a"), (3, .set "c" .emptyBlock 60),
        (3, .get "b"), (59, .get "a"), (60, .get "a")]
    ∃ events, (empty 2).run? calls = some events ∧
      events.map Event.reply = [none, none, some .noResults, none, none, some .noResults, none] ∧
      ∀ past e later, events = past ++ e :: later → e.Lawful 2 past := by
  intro calls
  have representable : ∀ now key answer ttl, (now, .set key answer ttl) ∈ calls → now + ttl < Instant.limit := by
    intro now key answer ttl member
    simp only [calls, List.mem_cons, Prod.mk.injEq, Call.set.injEq, reduceCtorEq, and_false, List.not_mem_nil,
      or_false, false_or] at member
    rcases member with ⟨rfl, -, -, rfl⟩ | ⟨rfl, -, -, rfl⟩ | ⟨rfl, -, -, rfl⟩ <;> decide
  obtain ⟨events, ran, -, lawful⟩ := recent_answers_recalled 2 representable (by decide)
  have replies : ((empty 2).run? calls).map (List.map Event.reply) =
      some [none, none, some .noResults, none, none, some .noResults, none] := rfl
  rw [ran] at replies
  exact ⟨events, ran, Option.some.inj replies, lawful⟩

end Listing.Cache
