import Listing.CommandLine.Invocation
import Listing.Config.Document
import Listing.Config.Environment
import Listing.Program.Answer

/-!
# The program

From the words of a command line to an exit code and what is printed.
-/

namespace Listing
open CommandLine

structure Exit where
  code : Nat
  out : String
  err : String

namespace Host
variable {m : Type → Type} [Monad m] (host : Host m)

def firstExisting : List String → m (Option String)
  | [] => return none
  | path :: rest => do
    if ← host.pathExists path then return some path else firstExisting rest

/-- The visible file of a directory comes before the hidden one. -/
def configPaths (places : List String) : List String :=
  places.flatMap fun place => [joinPath place "efq.toml", joinPath place ".efq.toml"]

def loadConfigFile (path : String) : m (Except ConfigError Config) := do
  match ← host.readText path with
  | .error fault => return .error (.read path fault)
  | .ok text =>
    match Config.ofToml? text with
    | some config => return .ok config
    | none => return .error (.parse path)

/-- The configuration in a file, or the standard one without a file. -/
def loadConfigAt (path : Option String) : m (Except ConfigError Config) :=
  match path with
  | some path => host.loadConfigFile path
  | none => return .ok .standard

/-- The variables that can override a configuration. -/
def variableNames : List String := [
  "EFQ_ENTITY_KIND", "EFQ_BUNDLE", "EFQ_STATUS", "EFQ_VIEW_MODE", "EFQ_TIMEZONE",
  "EFQ_INVALID_DATE_POLICY", "EFQ_FALLBACK_MONTHS", "EFQ_DATA", "EFQ_CACHE", "EFQ_CACHE_CAPACITY",
  "EFQ_CACHE_TTL", "EFQ_VERBOSITY"]

def environment : m (List (String × String)) := do
  let values ← variableNames.mapM fun name => do return (name, ← host.getVariable name)
  return values.filterMap fun (name, value) => value.map (name, ·)

/-- The configuration from the file named or found, and from the environment. -/
def loadConfig (named : Option String) : m (Except ConfigError Config) := do
  let path ← match named with
    | some path => pure (some path)
    | none => host.firstExisting (configPaths (← host.places))
  match ← host.loadConfigAt path with
  | .error error => return .error error
  | .ok config =>
    let env ← host.environment
    return .ok (config.withEnvironment fun name => env.lookup name)

def saveConfig (c : Config) (path : String) : m (Except ConfigError Unit) := do
  match ← host.writeText path c.toToml with
  | .ok () => return .ok ()
  | .error fault => return .error (.write path fault)

/-- Writes the standard configuration to a new file, or over any file if forced to. -/
def createConfig (path : String) (force : Bool) : m (Except ConfigError Unit) := do
  if (← host.pathExists path) && !force then return .error (.fileExists path)
  else host.saveConfig .standard path

end Host

/-- Flags override the configuration. -/
def Config.withFlags (c : Config) (i : Invocation) : Config :=
  { c with
    verbosity := if 0 < i.verbose then i.verbose else c.verbosity
    output := { c.output with pretty := c.output.pretty && !i.compact } }

namespace Exit

def success (out : String) : Exit := ⟨0, out, ""⟩

def fault (error : ProgramError) : Exit :=
  match error with
  | .halt _ => ⟨101, "", error.report ++ "\n"⟩
  | error => ⟨1, "", "Error: " ++ error.report ++ "\n"⟩

/-- A failure of a storage shows in the code. -/
def ofOutcome (o : OutputSettings) : Except ProgramError Outcome → Exit
  | .error error => fault error
  | .ok outcome => ⟨if outcome.failed then 2 else 0, o.render outcome.value, ""⟩

def ofValue (o : OutputSettings) : Except ProgramError Json → Exit
  | .error error => fault error
  | .ok value => success (o.render value)

def ofUsage (error : UsageError) : Exit :=
  match error with
  | .displayHelp => success "Usage: efq [OPTIONS] <COMMAND>\n"
  | error => ⟨2, "", "error: " ++ error.name ++ "\n"⟩

end Exit

namespace Host
variable {m : Type → Type} [Monad m] (host : Host m)

def onStore (c : Config) (data : Option String)
    (answer : Store → m (Except ProgramError Outcome)) : m Exit := do
  match ← host.loadStore c data with
  | .error error => return .fault error
  | .ok store => return .ofOutcome c.output (← answer store)

def runCommand (c : Config) : Command → m Exit
  | .query _ data (some path) _ => host.onStore c data fun s => host.batch c s path
  | .query params data none true => host.onStore c data fun s => host.ids c s (.ofList params)
  | .query params data none false => host.onStore c data fun s => host.query c s (.ofList params)
  | .block contentType viewMode data =>
    host.onStore c data fun s => host.block c s ⟨contentType, viewMode⟩
  | .parse params => do return .ofValue c.output (← host.parse c (.ofList params))
  | .pager spec total => return .ofValue c.output (pagerAnswer spec total)
  | .configShow => return .success c.toToml
  | .configInit path force => do
    match ← host.createConfig path force with
    | .ok () => return .success ("Created configuration file: " ++ path ++ "\n")
    | .error error => return .fault (.initialise path error)

def versionLine : String := "efq 0.1.0\n"

def run (words : List String) : m Exit := do
  if words.any fun word => word == "--version" || word == "-V" then
    return .success versionLine
  match Invocation.ofWords words with
  | .error error => return .ofUsage error
  | .ok invocation =>
    match ← host.loadConfig invocation.config with
    | .error error => return .fault (.config error)
    | .ok config =>
      let config := config.withFlags invocation
      match config.validate with
      | .error fault => return .fault (.config (.invalid fault))
      | .ok () => host.runCommand config invocation.command

end Host
end Listing
