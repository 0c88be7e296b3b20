import Listing.Calendar.Date
import Listing.Calendar.Offset
import Listing.Config.Basic
import Listing.Store.Run

/-!
# Hosts

What the program asks of its surroundings, as operations of any monad.
-/

namespace Listing

structure Host (m : Type → Type) where
  readText : String → m (Except FileFault String)
  writeText : String → String → m (Except FileFault Unit)
  /-- Whether a path names a file or a directory. -/
  pathExists : String → m Bool
  getVariable : String → m (Option String)
  /-- The directories in which a configuration is looked for, the nearest first. -/
  places : m (List String)
  clock : m Instant
  /-- The day at an offset from universal time. -/
  today : Calendar.Offset → m Calendar.Date
  shuffle : m Shuffle

def joinPath (directory name : String) : String :=
  if directory.isEmpty then name
  else if directory.endsWith "/" then directory ++ name
  else directory ++ "/" ++ name

end Listing
