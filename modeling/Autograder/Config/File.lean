/-
# Configuration files

The configuration of an environment is in a file of its own. Without that file all settings have
their defaults, but a file that is there has to hold a valid configuration.
-/

import Autograder.Config.Reader
import Autograder.Files.Tree

namespace Autograder

/-- Why there is no configuration. A text that was not read from a file has no path. -/
inductive ConfigError where
  | unreadable (path : String) (error : FileError)
  | malformed (path : Option String)
  | invalid (fault : Invalid)

namespace ConfigError

/-- The error in words. -/
def message : ConfigError → String
  | .unreadable path error => "failed to read config file " ++ path ++ ": " ++ error.message
  | .malformed path => "failed to parse config file " ++ path.getD "<inline>"
  | .invalid fault => "invalid configuration: " ++ fault.message

/-- The error of a text that was read from a file. -/
def inFile (path : String) : ConfigError → ConfigError
  | .malformed _ => .malformed (some path)
  | e => e

end ConfigError

namespace Config

/-- The valid configuration that a YAML text holds. -/
def ofYaml (yaml : String) : Except ConfigError Config :=
  match parse? yaml with
  | none => .error (.malformed none)
  | some c =>
    match c.fault? with
    | some fault => .error (.invalid fault)
    | none => .ok c

/-- The valid configuration that a file holds. -/
def ofFile (fs : Files) (path : String) : Except ConfigError Config :=
  match fs.readText path with
  | .error error => .error (.unreadable path error)
  | .ok text =>
    match ofYaml text with
    | .error e => .error (e.inFile path)
    | .ok c => .ok c

/-- The file with the configuration of an environment. -/
def pathOf (environment : String) : String := "config/" ++ environment ++ ".yaml"

/-- The configuration of an environment: that of its file, or all defaults if there is no such
file. -/
def load (fs : Files) (environment : String) : Except ConfigError Config :=
  let path := pathOf environment
  if fs.exists? path then ofFile fs path else .ok default

end Config
end Autograder
