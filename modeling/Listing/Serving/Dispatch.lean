import Listing.Query.Build
import Listing.Serving.Cache
import Listing.Serving.Response
import Listing.Store.Run

/-!
# Dispatching requests

A request is built, run, counted if it is paged, and rendered. Executor, renderer and clock are
operations of any monad, so that a storage may be in memory, remote, or made up. A request that cannot be
understood has an answer of its own; only a storage or a renderer that fails is an error, and an error
that the program cannot survive halts it.
-/

namespace Listing

inductive RenderError where
  | missing (id : Count)
  | failed (detail : String)
  deriving DecidableEq

def RenderError.message : RenderError → String
  | missing id => "Entity " ++ toString id.toNat ++ " not found"
  | failed detail => "Render failed: " ++ detail

structure Executor (m : Type → Type) where
  /-- The ids of a page, in order. -/
  execute : Descriptor → m (Except ExecutionError (List Count))
  /-- The number of records over all pages. -/
  count : Descriptor → m (Except ExecutionError Count)

/-- Renders ids in a view mode for an entity kind; none where there is nothing to show. -/
abbrev Renderer (m : Type → Type) :=
  List Count → String → String → m (Except RenderError (Option Rendered))

def Store.render (s : Store) (ids : List Count) (viewMode entityKind : String) :
    Except RenderError (Option Rendered) :=
  if ids.isEmpty then .ok none
  else do
    let items ← ids.mapM fun id =>
      match s.get? id with
      | some record => .ok record
      | none => .error (.missing id)
    return some ⟨entityKind, viewMode, items⟩

inductive DispatchError where
  | build (error : BuildError)
  | execution (error : ExecutionError)
  | render (error : RenderError)
  /-- The clock cannot show the instant at which an answer would expire. -/
  | expiry
  deriving DecidableEq

def DispatchError.message : DispatchError → String
  | build error => error.message
  | execution error => "Execution failed: " ++ error.message
  | render error => "Rendering failed: " ++ error.message
  | expiry => "overflow when adding duration to instant"

/-- Why the program cannot go on: an answer was to expire at an instant that no clock shows, or the
records stand in no order. -/
inductive Halt where
  | expiry
  | disorder
  deriving DecidableEq

def DispatchError.halt? : DispatchError → Option Halt
  | expiry => some .expiry
  | execution .disorder => some .disorder
  | _ => none

structure Dispatcher (m : Type → Type) where
  builder : Builder
  executor : Executor m
  renderer : Renderer m
  clock : m Instant
  /-- How long an answer is remembered unless a call says otherwise, in nanoseconds. -/
  ttl : Nat

/-- Where a block stands: what it lists and how. -/
structure Block where
  contentType : Option String
  viewMode : Option String

/-- The request of a block; none without a content type. -/
def Block.request? (b : Block) : Option Params :=
  match b.contentType with
  | none => none
  | some contentType =>
    if Text.isBlank contentType.toList then none
    else
      let p := OrderedMap.insert ∅ "content_type" contentType
      match b.viewMode with
      | some viewMode => some (p.insert "view_mode" viewMode)
      | none => some p

namespace Dispatcher
variable {m : Type → Type} [Monad m] (d : Dispatcher m)

abbrev Memory := Option (Cache Response)

/-- The pager of a request, counted only if it is paged. -/
def paginate (request : ParsedRequest) : m (Except ExecutionError (Option Pager)) :=
  match request.pager with
  | none => return .ok none
  | some spec => do
    match ← d.executor.count request.descriptor with
    | .ok total => return .ok (Pager.make? spec total)
    | .error error => return .error error

def answer (request : ParsedRequest) : m (Except DispatchError Response) := do
  match ← d.executor.execute request.descriptor with
  | .error error => return .error (.execution error)
  | .ok [] => return .ok .noResults
  | .ok ids =>
    match ← d.paginate request with
    | .error error => return .error (.execution error)
    | .ok pager =>
      match ← d.renderer ids request.viewMode request.descriptor.entityKind with
      | .error error => return .error (.render error)
      | .ok none => return .ok .noResults
      | .ok (some output) => return .ok (.rendered output pager)

/-- Answers a request without the cache. -/
def run (p : Params) : m (Except DispatchError Response) :=
  match d.builder.build p with
  | .ok request => d.answer request
  | .error (.invalidDate _ _) => return .ok .invalidDate
  | .error (.fragment error) => return .ok (.invalidInput error.message)
  | .error error => return .error (.build error)

/-- Remembers an answer that is worth it. -/
def remember (cache : Cache Response) (key : String) (response : Response) (ttl : Nat) :
    m (Except DispatchError (Cache Response)) :=
  if response.isCacheable then do
    match cache.set? (← d.clock) key response ttl with
    | some cache => return .ok cache
    | none => return .error .expiry
  else return .ok cache

/-- Answers a request from the cache, or else runs it and remembers the answer for `ttl`. -/
def dispatchFor (ttl : Nat) (memory : Memory) (p : Params) :
    m (Except DispatchError Response × Memory) :=
  match memory with
  | none => do return (← d.run p, none)
  | some cache => do
    match cache.get (← d.clock) p.digest with
    | (some hit, cache) => return (.ok hit, some cache)
    | (none, cache) =>
      match ← d.run p with
      | .error error => return (.error error, some cache)
      | .ok response =>
        match ← d.remember cache p.digest response ttl with
        | .ok cache => return (.ok response, some cache)
        | .error error => return (.error error, some cache)

def dispatch (memory : Memory) (p : Params) : m (Except DispatchError Response × Memory) :=
  d.dispatchFor d.ttl memory p

/-- An answer as it is shown: with a placeholder where it is an error, unless the program cannot go on. -/
def shown : Except DispatchError Response → Except Halt Response
  | .ok response => .ok response
  | .error error =>
    match error.halt? with
    | some reason => .error reason
    | none => .ok .failure

def respond (memory : Memory) (p : Params) : m (Except Halt Response × Memory) := do
  let (answer, memory) ← d.dispatch memory p
  return (shown answer, memory)

def respondBlock (memory : Memory) (b : Block) : m (Except Halt Response × Memory) :=
  match b.request? with
  | some p => d.respond memory p
  | none => return (.ok .emptyBlock, memory)

/-- The ids that match, without rendering and without the cache. -/
def ids (p : Params) : m (Except DispatchError (List Count)) :=
  match d.builder.build p with
  | .error error => return .error (.build error)
  | .ok request => do
    match ← d.executor.execute request.descriptor with
    | .ok ids => return .ok ids
    | .error error => return .error (.execution error)

end Dispatcher

/-- A store that answers for itself. -/
def Store.dispatcher {m : Type → Type} [Monad m] (s : Store) (shuffle : Shuffle) (b : Builder)
    (clock : m Instant) (ttl : Nat) : Dispatcher m where
  builder := b
  executor := {
    execute := fun d => return match s.execute shuffle d with
      | some ids => .ok ids
      | none => .error .disorder
    count := fun d => return .ok (s.count d) }
  renderer := fun ids viewMode entityKind => return s.render ids viewMode entityKind
  clock := clock
  ttl := ttl

end Listing
