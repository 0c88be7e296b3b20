import Listing.Serving.Dispatch

/-!
Sessions: calls on a dispatcher one after the other, in a world that its executor, its renderer and its clock may
change at will. What they are asked can be written to a log, which makes no difference to the session.
-/

namespace Listing

/-! ### Calls -/

inductive Ask where
  | dispatch (p : Params)
  | dispatchFor (ttl : Nat) (p : Params)
  | respond (p : Params)
  | block (b : Block)

inductive Reply where
  | answered (answer : Except DispatchError Response)
  | shown (answer : Except Halt Response)

namespace Ask

/-- The request that a call stands for; none for a block without a content type. -/
def request? : Ask → Option Params
  | dispatch p | dispatchFor _ p | respond p => some p
  | block b => b.request?

def passOn (response : Response) : Ask → Reply
  | dispatch _ | dispatchFor _ _ => .answered (.ok response)
  | respond _ | block _ => .shown (.ok response)

def report (error : DispatchError) : Ask → Reply
  | dispatch _ | dispatchFor _ _ => .answered (.error error)
  | respond _ | block _ => .shown (Dispatcher.shown (.error error))

end Ask

namespace Dispatcher
variable {m : Type → Type} [Monad m]

def ask (d : Dispatcher m) (memory : Memory) : Ask → m (Reply × Memory)
  | .dispatch p => do
    let (answer, memory) ← d.dispatch memory p
    return (.answered answer, memory)
  | .dispatchFor ttl p => do
    let (answer, memory) ← d.dispatchFor ttl memory p
    return (.answered answer, memory)
  | .respond p => do
    let (answer, memory) ← d.respond memory p
    return (.shown answer, memory)
  | .block b => do
    let (answer, memory) ← d.respondBlock memory b
    return (.shown answer, memory)

end Dispatcher

structure Turn (σ : Type) where
  ask : Ask
  memory : Dispatcher.Memory
  world : σ
  reply : Reply
  memory' : Dispatcher.Memory
  world' : σ

inductive Consultation where
  | execute (d : Descriptor)
  | count (d : Descriptor)
  | render (ids : List Count) (viewMode entityKind : String)

abbrev Logged (σ : Type) := σ × List Consultation

section Logs
variable {σ α β : Type}

def noting (entry : List Consultation) (act : StateM σ α) : StateM (Logged σ) α :=
  fun (world, log) => ((act world).1, (act world).2, log ++ entry)

/-- A dispatcher that writes down each time it consults its executor or its renderer. -/
def Dispatcher.logged (d : Dispatcher (StateM σ)) : Dispatcher (StateM (Logged σ)) where
  builder := d.builder
  executor := {
    execute := fun q => noting [.execute q] (d.executor.execute q)
    count := fun q => noting [.count q] (d.executor.count q) }
  renderer := fun ids viewMode entityKind =>
    noting [.render ids viewMode entityKind] (d.renderer ids viewMode entityKind)
  clock := noting [] d.clock
  ttl := d.ttl

/-- `x` does what `y` does, and at most adds to the log. -/
def Shadows (x : StateM (Logged σ) α) (y : StateM σ α) : Prop :=
  ∀ world log, ∃ more, x (world, log) = ((y world).1, (y world).2, log ++ more)

namespace Shadows

theorem noting (entry : List Consultation) (act : StateM σ α) : Shadows (noting entry act) act :=
  fun _ _ => ⟨entry, rfl⟩

theorem pure (a : α) : Shadows (Pure.pure a : StateM (Logged σ) α) (Pure.pure a : StateM σ α) :=
  fun _ log => ⟨[], by rw [List.append_nil]; rfl⟩

theorem bind {x : StateM (Logged σ) α} {y : StateM σ α} {f : α → StateM (Logged σ) β}
    {g : α → StateM σ β} (first : Shadows x y) (later : ∀ a, Shadows (f a) (g a)) : Shadows (x >>= f) (y >>= g) := by
  intro world log
  obtain ⟨more, own⟩ := first world log
  obtain ⟨yet, rest⟩ := later (y world).1 (y world).2 (log ++ more)
  refine ⟨more ++ yet, ?_⟩
  have step : (x >>= f) (world, log) = f (x (world, log)).1 (x (world, log)).2 := rfl
  rw [step, own, rest, List.append_assoc]
  rfl

end Shadows

namespace Dispatcher
variable (d : Dispatcher (StateM σ))

end Dispatcher

end Logs

end Listing
