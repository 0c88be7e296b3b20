import Listing.Query.Build
import Listing.Serving.Cache

/-!
# Configuration

The settings of the program: what requests get by default, where the records are, how answers are
remembered and printed.
-/

namespace Listing

structure CacheSettings where
  enabled : Bool
  capacity : Count
  /-- How long an answer is remembered, in seconds. -/
  ttl : Count
  deriving DecidableEq

structure OutputSettings where
  /-- Over several lines. -/
  pretty : Bool
  /-- Whether a placeholder shows its sentence. -/
  message : Bool
  deriving DecidableEq

structure Config where
  query : QuerySettings
  /-- The records file, unless a command names one. -/
  records : Option String
  cache : CacheSettings
  output : OutputSettings
  verbosity : UInt8
  deriving DecidableEq

namespace Config

def standard : Config where
  query := .standard
  records := none
  cache := ⟨true, 256, 300⟩
  output := ⟨true, true⟩
  verbosity := 0

/-- Why a configuration cannot be used. -/
inductive Fault where
  | query (fault : QuerySettings.Fault)
  | emptyWindow
  | noCapacity
  deriving DecidableEq

def Fault.message : Fault → String
  | query fault => (BuildError.settings fault).message
  | emptyWindow => "default range length must be greater than 0"
  | noCapacity => "cache capacity must be greater than 0"

/-- The first fault, looked for in the patterns, the timezone, the window and the cache. -/
def validate (c : Config) : Except Fault Unit := do
  let _ ← c.query.formats.mapError .query
  let _ ← c.query.offset.mapError .query
  if c.query.window.length = 0 then throw .emptyWindow
  if c.cache.enabled && c.cache.capacity = 0 then throw .noCapacity

end Config

inductive FileFault where
  | notFound
  | isDirectory
  | notDirectory
  /-- Anything else, in the words of the system. -/
  | other (report : String)
  deriving DecidableEq

def FileFault.message : FileFault → String
  | notFound => "No such file or directory (os error 2)"
  | isDirectory => "Is a directory (os error 21)"
  | notDirectory => "Not a directory (os error 20)"
  | other report => report

inductive ConfigError where
  | read (path : String) (fault : FileFault)
  | parse (path : String)
  | write (path : String) (fault : FileFault)
  | fileExists (path : String)
  | invalid (fault : Config.Fault)
  deriving DecidableEq

namespace ConfigError

def message : ConfigError → String
  | read path fault => "Failed to read config file " ++ path ++ ": " ++ fault.message
  | parse path => "Invalid config file " ++ path
  | write path fault => "Failed to write config file " ++ path ++ ": " ++ fault.message
  | fileExists path => "Config file already exists: " ++ path ++ " (use --force to overwrite)"
  | invalid fault => "Invalid configuration: " ++ fault.message

def cause? : ConfigError → Option String
  | read _ fault | write _ fault => some fault.message
  | _ => none

/-- The error and its cause, as the program reports them. -/
def report (e : ConfigError) : String :=
  match e.cause? with
  | some cause => e.message ++ ": " ++ cause
  | none => e.message

end ConfigError
end Listing
