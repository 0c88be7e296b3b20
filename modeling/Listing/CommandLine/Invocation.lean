import Listing.CommandLine.Reader

/-!
# Invocations

What a command line asks for.
-/

namespace Listing.CommandLine

inductive Command where
  | query (params : List (String × String)) (data batch : Option String) (idsOnly : Bool)
  | block (contentType viewMode data : Option String)
  | parse (params : List (String × String))
  | pager (spec : String) (total : Count)
  | configShow
  | configInit (path : String) (force : Bool)

structure Invocation where
  command : Command
  config : Option String
  verbose : UInt8
  compact : Bool

def Given.value? (given : Given) (name : ArgName) : Option String :=
  ((given.filter (·.1 == name)).flatMap Prod.snd).getLast?

def Given.params (given : Given) : List (String × String) :=
  ((given.filter (·.1 == .params)).flatMap Prod.snd).filterMap param?

/-- What was given at the deepest command that an argument was given at. -/
def Chain.deepest (chain : Chain) (name : ArgName) : Given :=
  match chain.reverse.find? fun (_, given) => given.has name with
  | some (_, given) => given
  | none => []

def Command.ofGiven (given : Given) : CommandName → Option Command
  | .query => some (.query given.params (given.value? .data) (given.value? .batch)
      (given.has .idsOnly))
  | .block => some (.block (given.value? .contentType) (given.value? .viewMode)
      (given.value? .data))
  | .parse => some (.parse given.params)
  | .pager =>
    match given.value? .spec, (given.value? .total).bind fun s => Text.unsignedCount? s.toList with
    | some spec, some total => some (.pager spec total)
    | _, _ => none
  | .configShow => some .configShow
  | .configInit => some (.configInit ((given.value? .path).getD "efq.toml") (given.has .force))
  | .root | .config => none

/-- The invocation that the words after the name of the program make. Options that every command takes
count where they stand deepest. -/
def Invocation.ofWords (words : List String) : Except UsageError Invocation := do
  let chain ← readChain 3 .root words
  match chain.getLast?.bind fun (name, given) => Command.ofGiven given name with
  | none => throw .missingSubcommand
  | some command =>
    let verbose := ((chain.deepest .verbose).filter (·.1 == .verbose)).length
    return {
      command := command
      config := (chain.deepest .config).value? .config
      verbose := UInt8.ofNat (min verbose 255)
      compact := !(chain.deepest .compact).isEmpty }

end Listing.CommandLine
