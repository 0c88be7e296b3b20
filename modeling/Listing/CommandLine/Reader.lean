import Listing.CommandLine.Grammar

/-!
# Reading a command line

Words are taken from left to right. An option waits for its value, and the values of one place are
gathered, until something else comes; only then are they checked. Two dashes end the options.
-/

namespace Listing.CommandLine

/-- The arguments given so far at one command, each with its values, in order. -/
abbrev Given := List (ArgName × List String)

/-- What the words so far have come to. -/
structure Progress where
  given : Given
  /-- An argument whose values have not been checked yet. -/
  pending : Option (Arg × List String)
  /-- Whether the next word, unless it is an option, is the value of the pending option. -/
  awaiting : Bool
  /-- Whether the last word was one of several values of a place. -/
  gathering : Bool
  /-- Whether the options are over. -/
  trailing : Bool
  /-- The place that is filled next. -/
  place : Nat

def Progress.start : Progress := ⟨[], none, false, false, false, 0⟩

def Given.has (given : Given) (name : ArgName) : Bool := given.any (·.1 == name)

def note (given : Given) (arg : Arg) (values : List String) : Except UsageError Given :=
  match arg.action with
  | .help => .error .displayHelp
  | .version => .error .displayVersion
  | .count => .ok (given ++ [(arg.name, [])])
  | .switch =>
    if given.has arg.name then .error .argumentConflict else .ok (given ++ [(arg.name, [])])
  | action =>
    if values.isEmpty then .error .invalidValue
    else if action == .value && given.has arg.name then .error .argumentConflict
    else match values.findSome? arg.kind.fault? with
      | some fault => .error fault
      | none => .ok (given ++ [(arg.name, values)])

def settle (p : Progress) : Except UsageError Progress :=
  match p.pending with
  | none => .ok p
  | some (arg, values) => do
    return { p with given := ← note p.given arg values, pending := none }

/-- An option that has been named, with the value that is attached to it if any. -/
def takeOption (p : Progress) (arg : Arg) (attached : Option String) :
    Except UsageError Progress := do
  let p := { p with awaiting := false, gathering := false }
  match arg.action, attached with
  | .value, some value | .values, some value =>
    let p ← settle p
    return { p with given := ← note p.given arg [value] }
  | .value, none | .values, none =>
    let p ← settle p
    return { p with pending := some (arg, []), awaiting := true }
  | _, some _ => throw .tooManyValues
  | _, none =>
    let p ← settle p
    return { p with given := ← note p.given arg [] }

/-- The letters behind a single dash. A letter that takes a value takes the rest of the word. -/
def takeLetters (c : CommandName) (p : Progress) : List Char → Except UsageError Progress
  | [] => .ok p
  | letter :: rest =>
    match c.short? letter with
    | none => .error .unknownArgument
    | some arg =>
      if arg.action == .value then
        match rest with
        | [] => takeOption p arg none
        | '=' :: value => takeOption p arg (some (String.ofList value))
        | value => takeOption p arg (some (String.ofList value))
      else do takeLetters c (← takeOption p arg none) rest

def takeLong (c : CommandName) (p : Progress) (body : List Char) : Except UsageError Progress :=
  let (name, attached) := match Text.cut? ['='] body with
    | some (name, value) => (name, some (String.ofList value))
    | none => (body, none)
  match c.long? (String.ofList name) with
  | none => .error .unknownArgument
  | some arg => takeOption p arg attached

def takeValue (c : CommandName) (p : Progress) (word : String) : Except UsageError Progress :=
  match p.pending with
  | some (arg, values) =>
    if p.awaiting && !p.trailing then
      .ok { p with pending := some (arg, values ++ [word]), awaiting := false }
    else place p (some (arg, values))
  | none => place p none
where
  place (p : Progress) (pending : Option (Arg × List String)) : Except UsageError Progress :=
    match c.places[p.place]? with
    | none =>
      let isCommand := word == "help" || (c.subcommands.lookup word).isSome
      if c.subcommands.isEmpty || (p.trailing && isCommand) then .error .unknownArgument
      else .error .invalidSubcommand
    | some arg =>
      match arg.action, pending with
      | .values, some (current, values) =>
        if current.name == arg.name then
          .ok { p with pending := some (arg, values ++ [word]), gathering := true }
        else do
          let p ← settle p
          return { p with pending := some (arg, [word]), awaiting := false, gathering := true }
      | .values, none => .ok { p with pending := some (arg, [word]), gathering := true }
      | _, _ => do
        let p ← settle p
        return { p with pending := some (arg, [word]), awaiting := false, place := p.place + 1 }

/-- Whether the words behind `help` name a command. -/
def helpFor (c : CommandName) : List String → UsageError
  | [] => .displayHelp
  | word :: rest =>
    match c.subcommands.lookup word with
    | some sub => helpFor sub rest
    | none =>
      if word == "help" && !c.subcommands.isEmpty && rest.isEmpty then .displayHelp
      else .invalidSubcommand

/-- The words of one command, up to the name of a command under it. -/
def takeWords (c : CommandName) (p : Progress) :
    List String → Except UsageError (Progress × Option (CommandName × List String))
  | [] => .ok (p, none)
  | word :: rest =>
    let step (p : Except UsageError Progress) := do takeWords c (← p) rest
    if p.trailing then step (takeValue c p word)
    else
      let free := !p.awaiting && !p.gathering
      match if free then c.subcommands.lookup word else none with
      | some sub => .ok (p, some (sub, rest))
      | none =>
        if free && word == "help" && !c.subcommands.isEmpty then .error (helpFor c rest)
        else match word.toList with
          | ['-', '-'] => step (.ok { p with trailing := true })
          | '-' :: '-' :: body => step (takeLong c p body)
          | ['-'] => step (takeValue c p word)
          | '-' :: letters => step (takeLetters c p letters)
          | _ => step (takeValue c p word)

def check (c : CommandName) (given : Given) (sub : Option CommandName) : Except UsageError Unit :=
  if sub.isNone && !c.subcommands.isEmpty then
    .error (if given.isEmpty then .displayHelpOnMissing else .missingSubcommand)
  else if c.conflicts.any fun (a, b) => given.has a && given.has b then .error .argumentConflict
  else if c.places.any fun arg => arg.required && !given.has arg.name then
    .error .missingRequiredArgument
  else .ok ()

/-- The commands that a line names, from the root, with what each was given. -/
abbrev Chain := List (CommandName × Given)

/-- Reads a command and the commands under it, at most `depth` of them. Faults further down are
reported first. -/
def readChain : Nat → CommandName → List String → Except UsageError Chain
  | 0, _, _ => .error .unknownArgument
  | depth + 1, c, words => do
    let (p, sub) ← takeWords c .start words
    let below ← match sub with
      | some (sub, rest) => readChain depth sub rest
      | none => .ok []
    let p ← settle p
    check c p.given (sub.map Prod.fst)
    return (c, p.given) :: below

end Listing.CommandLine
