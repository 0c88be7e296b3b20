/-!
# Response caches

A bounded memory of answers under their digests. Entries are kept with the latest used first; the last
one makes room when the cache is full. Each entry has an instant at which it expires, which is noticed
when it is asked for.
-/

namespace Listing

/-- Nanoseconds since some start. -/
abbrev Instant := Nat

/-- The instants that a clock can show: 64-bit signed seconds. -/
def Instant.limit : Nat := 9223372036854775808 * 1000000000

/-- The instant `ttl` after another, if a clock can show it. -/
def Instant.after? (now : Instant) (ttl : Nat) : Option Instant :=
  if now + ttl < Instant.limit then some (now + ttl) else none

structure Cache (α : Type) where
  capacity : Nat
  /-- The latest used entry first. -/
  entries : List (String × Instant × α)
  hits : Nat
  misses : Nat

namespace Cache
variable {α : Type}

def standardCapacity : Nat := 256

/-- A cache for at least one answer. -/
def empty (capacity : Nat) : Cache α := ⟨max capacity 1, [], 0, 0⟩

def size (c : Cache α) : Nat := c.entries.length

def without (key : String) (entries : List (String × Instant × α)) : List (String × Instant × α) :=
  entries.filter (·.1 != key)

/-- Asks for an answer. One that is found becomes the latest used; one that has expired goes. -/
def get (c : Cache α) (now : Instant) (key : String) : Option α × Cache α :=
  match c.entries.lookup key with
  | none => (none, { c with misses := c.misses + 1 })
  | some (expiry, answer) =>
    if now < expiry then
      (some answer,
        { c with entries := (key, expiry, answer) :: without key c.entries, hits := c.hits + 1 })
    else (none, { c with entries := without key c.entries, misses := c.misses + 1 })

/-- Remembers an answer for `ttl`, if that is any time at all. None where the clock cannot show the
instant of expiry. -/
def set? (c : Cache α) (now : Instant) (key : String) (answer : α) (ttl : Nat) : Option (Cache α) :=
  if ttl = 0 then some c
  else (now.after? ttl).map fun expiry =>
    { c with entries := ((key, expiry, answer) :: without key c.entries).take c.capacity }

def clear (c : Cache α) : Cache α := { c with entries := [] }

end Cache
end Listing
