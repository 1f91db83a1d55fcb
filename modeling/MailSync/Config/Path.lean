/-!
# Where configuration files live

The directory of configuration files, and paths within it. Joining paths normalises nothing.
-/

namespace MailSync

namespace Path

/-- A path that starts at the root. -/
def isAbsolute (p : String) : Bool :=
  p.toList.head? = some '/'

/-- A path seen from a base. An absolute one stands for itself. -/
def join (base p : String) : String :=
  if isAbsolute p then p
  else if base.isEmpty ∨ base.toList.getLast? = some '/' then base ++ p
  else base ++ "/" ++ p

end Path

/-- Where a user's files and configuration are. -/
structure Surroundings where
  /-- The user's home directory. -/
  home : String
  /-- The directory that the user has named for configuration. -/
  configHome : Option String
  deriving DecidableEq, Repr

namespace Surroundings

/-- The root of configuration: the directory the user has named, if its path is absolute, and else
one in the home directory. -/
def configRoot (s : Surroundings) : String :=
  match s.configHome with
  | some p => if Path.isAbsolute p then p else Path.join s.home ".config"
  | none => Path.join s.home ".config"

/-- The name of the directory of configuration files below their root. -/
def appDirectory : String :=
  "eas-sync"

/-- The directory of configuration files. -/
def configDir (s : Surroundings) : String :=
  Path.join s.configRoot appDirectory

/-- The path of a configuration file. -/
def configPath (s : Surroundings) (filename : String) : String :=
  Path.join s.configDir filename

end Surroundings

end MailSync
