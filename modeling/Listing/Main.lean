import Listing.Program.Run
import Std.Time.DateTime.Timestamp

/-!
# The command line

The program on the files, the variables and the clock of the machine.
-/

namespace Listing.Machine
open Calendar

def faultOf : IO.Error → FileFault
  | .noFileOrDirectory .. => .notFound
  | .inappropriateType _ 21 _ => .isDirectory
  | .inappropriateType .. => .notDirectory
  | error => .other error.toString

def attempt {α : Type} (action : IO α) : IO (Except FileFault α) := do
  try return .ok (← action) catch error => return .error (faultOf error)

def pathExists (path : String) : IO Bool := do
  return (← attempt (IO.FS.realPath path)).toBool

/-- The working directory, the directory for configurations and the home directory. -/
def places : IO (List String) := do
  let here := (← IO.currentDir).toString
  let home := (← IO.getEnv "HOME").filter (· ≠ "")
  let shared := (← IO.getEnv "XDG_CONFIG_HOME").filter (·.startsWith "/")
  let configs := shared.orElse fun _ => home.map (joinPath · ".config")
  return here :: (configs.map (joinPath · "efq")).toList ++ home.toList

def today (offset : Offset) : IO Date := do
  let seconds := (← Std.Time.Timestamp.now).toSecondsSinceUnixEpoch.val
  return (Date.ofEpochDay? ((seconds + offset.seconds) / 86400)).getD Date.epoch

def shuffle : IO Shuffle := do
  let seed ← IO.rand 0 0x3fffffffffffffff
  return .byKey fun place => hash (seed, place)

def host : Host IO where
  readText path := attempt (IO.FS.readFile path)
  writeText path text := attempt (IO.FS.writeFile path text)
  pathExists := pathExists
  getVariable := fun name => IO.getEnv name
  places := places
  clock := IO.monoNanosNow
  today := today
  shuffle := shuffle

end Listing.Machine

def main (words : List String) : IO UInt32 := do
  let exit ← Listing.Machine.host.run words
  IO.print exit.out
  IO.eprint exit.err
  return exit.code.toUInt32
