import Listing.Encoding
import Listing.Program.Batch
import Listing.Program.Host
import Listing.Serving.Dispatch

/-!
# Answers of the program

What each command prints. A request that cannot be answered from the records is still an answer; errors
are those of files, of the configuration and of requests that have no answer to stand for them.
-/

namespace Listing

inductive ProgramError where
  | config (error : ConfigError)
  | noRecords
  | readRecords (path : String) (fault : FileFault)
  | loadRecords (path : String) (error : ExecutionError)
  | readBatch (path : String) (fault : FileFault)
  | batch (path : String) (error : Batch.Error)
  | build (error : BuildError)
  | dispatch (error : DispatchError)
  | fragment (error : FragmentError)
  | initialise (path : String) (error : ConfigError)
  | halt (reason : Halt)

/-- An error of a storage or a renderer stands behind the sentence that it failed. -/
def DispatchError.report (e : DispatchError) : String :=
  match e with
  | execution error => e.message ++ ": " ++ error.message
  | render error => e.message ++ ": " ++ error.message
  | _ => e.message

/-- The error and what lies behind it, in one line. -/
def ProgramError.report : ProgramError → String
  | config error => error.report
  | noRecords => "No records file given; pass --data or set data.records"
  | readRecords path fault => "Failed to read records from " ++ path ++ ": " ++ fault.message
  | loadRecords path error => "Failed to load records from " ++ path ++ ": " ++ error.message
  | readBatch path fault => "Failed to read batch file " ++ path ++ ": " ++ fault.message
  | batch path error =>
    "Invalid batch file " ++ path ++ match error.detail? with
      | some detail => ": " ++ detail
      | none => ""
  | build error => error.message
  | dispatch error => error.report
  | fragment error => error.message
  | initialise path error => "Failed to initialise " ++ path ++ ": " ++ error.report
  | halt .expiry => DispatchError.expiry.message
  | halt .disorder => ExecutionError.disorder.message

/-- A value to print, and whether a storage failed on the way to it. -/
structure Outcome where
  value : Json
  failed : Bool

/-- A response as it is printed. -/
def OutputSettings.outcome (o : OutputSettings) (r : Response) : Outcome :=
  ⟨if o.message then r.toJsonWithMessage else r.toJson, r.isFailure⟩

def OutputSettings.render (o : OutputSettings) (value : Json) : String :=
  (if o.pretty then value.pretty else value.compact) ++ "\n"

namespace Host
variable {m : Type → Type} [Monad m] (host : Host m)

/-- The records file that a command names, or else the configured one. -/
def recordsPath (c : Config) (data : Option String) : Except ProgramError String :=
  match data, c.records with
  | some path, _ => .ok path
  | none, some path => .ok path
  | none, none => .error .noRecords

def loadStore (c : Config) (data : Option String) : m (Except ProgramError Store) := do
  match recordsPath c data with
  | .error error => return .error error
  | .ok path =>
    match ← host.readText path with
    | .error fault => return .error (.readRecords path fault)
    | .ok text =>
      return (Store.ofJson c.query.idField text).mapError fun e => .loadRecords path e.report

def builder (c : Config) : m (Except ProgramError Builder) := do
  match c.query.offset with
  | .error _ => return (Builder.make c.query Calendar.Date.epoch).mapError .build
  | .ok offset =>
    let today ← host.today offset
    return (Builder.make c.query today).mapError .build

def memory (c : Config) : Dispatcher.Memory :=
  if c.cache.enabled then some (.empty c.cache.capacity.toNat) else none

def dispatcher (c : Config) (s : Store) : m (Except ProgramError (Dispatcher m)) := do
  match ← host.builder c with
  | .error error => return .error error
  | .ok builder =>
    let shuffle ← host.shuffle
    return .ok (s.dispatcher shuffle builder host.clock (c.cache.ttl.toNat * 1000000000))

/-- Answers requests one after the other, with one cache for all. -/
def respondAll (c : Config) (d : Dispatcher m) :
    Dispatcher.Memory → List Params → m (Except ProgramError (List Outcome))
  | _, [] => return .ok []
  | memory, p :: rest => do
    match ← d.respond memory p with
    | (.error reason, _) => return .error (.halt reason)
    | (.ok response, memory) =>
      match ← respondAll c d memory rest with
      | .error error => return .error error
      | .ok outcomes => return .ok (c.output.outcome response :: outcomes)

def query (c : Config) (s : Store) (p : Params) : m (Except ProgramError Outcome) := do
  match ← host.dispatcher c s with
  | .error error => return .error error
  | .ok d =>
    match ← d.respond (memory c) p with
    | (.ok response, _) => return .ok (c.output.outcome response)
    | (.error reason, _) => return .error (.halt reason)

def ids (c : Config) (s : Store) (p : Params) : m (Except ProgramError Outcome) := do
  match ← host.dispatcher c s with
  | .error error => return .error error
  | .ok d =>
    match ← d.ids p with
    | .ok ids => return .ok ⟨.object [("ids", .array (ids.map .ofCount))], false⟩
    | .error error =>
      match error.halt? with
      | some reason => return .error (.halt reason)
      | none => return .error (.dispatch error)

def block (c : Config) (s : Store) (b : Block) : m (Except ProgramError Outcome) := do
  match ← host.dispatcher c s with
  | .error error => return .error error
  | .ok d =>
    match ← d.respondBlock (memory c) b with
    | (.ok response, _) => return .ok (c.output.outcome response)
    | (.error reason, _) => return .error (.halt reason)

/-- The requests of a batch file, answered in order; repeated ones come from the cache. -/
def batch (c : Config) (s : Store) (path : String) : m (Except ProgramError Outcome) := do
  match ← host.readText path with
  | .error fault => return .error (.readBatch path fault)
  | .ok text =>
    match Batch.parse text with
    | .error error => return .error (.batch path error)
    | .ok requests =>
      match ← host.dispatcher c s with
      | .error error => return .error error
      | .ok d =>
        match ← respondAll c d (memory c) requests with
        | .error error => return .error error
        | .ok outcomes =>
          return .ok ⟨.array (outcomes.map (·.value)), outcomes.any (·.failed)⟩

def parse (c : Config) (p : Params) : m (Except ProgramError Json) := do
  match ← host.builder c with
  | .error error => return .error error
  | .ok b => return (b.build p).mapError .build |>.map ParsedRequest.toJson

end Host

/-- The pager of a specification over a number of records, even if it has one page only. -/
def pagerAnswer (spec : String) (total : Count) : Except ProgramError Json :=
  match Fragment.pageSpec spec with
  | .error error => .error (.fragment error)
  | .ok spec =>
    let state := PagerState.make spec total
    .ok (pagerObject state state.links)

end Listing
