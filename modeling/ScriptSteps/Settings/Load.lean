import ScriptSteps.CommandLine
import ScriptSteps.Settings.Environment
import ScriptSteps.Settings.File

/-!
# The settings of a run

Settings come from the user's settings file, from the one in the working directory, from the
environment and from the command line. A later source overrides an earlier one, and the first
source that is refused ends the run.

## Main definitions

* `userDirectory?`: where a user keeps files of one kind
* `Settings.load`: the settings of a run
-/

namespace ScriptSteps

/-- The variables of an environment, in its order. -/
abbrev Environment := List (String × String)

/-- The value of a variable. -/
def Environment.value? (e : Environment) (name : String) : Option String :=
  (e.find? (·.1 == name)).map (·.2)

/-- Where a user keeps files of one kind: in the directory that a variable names, if it is written
from the root, or in a certain directory in the home directory. -/
def userDirectory? (e : Environment) (variableName inHome : String) : Option String :=
  let home := ((e.value? "HOME").filter (· != "")).map (Path.join · inHome)
  match e.value? variableName with
  | some path => if path.startsWith "/" then some path else home
  | none => home

/-- The path of the user's settings file. -/
def userSettingsPath? (e : Environment) : Option String :=
  (userDirectory? e "XDG_CONFIG_HOME" ".config").map fun directory =>
    Path.join (Path.join directory "spacey-steps") "config.toml"

/-- The path of the settings file in the working directory. -/
def localSettingsPath : String := ".spacey-steps.toml"

namespace Settings

/-- The settings after a file, which need not exist. -/
def mergeFileAt (s : Settings) (files : FileTree) (path : String) : Except SettingsError Settings :=
  if files.exists? path then s.mergeFile path (files.read path) else .ok s

/-- The settings after the user's file, which need not exist. -/
def mergeUserFile (s : Settings) (files : FileTree) (e : Environment) :
    Except SettingsError Settings :=
  match userSettingsPath? e with
  | some path => s.mergeFileAt files path
  | none => .ok s

/-- The settings of a run. -/
def load (files : FileTree) (e : Environment) (a : Arguments) : Except SettingsError Settings := do
  let s ← initial.mergeUserFile files e
  let s ← s.mergeFileAt files localSettingsPath
  match s.loadEnvironment e with
  | (s, none) => return s.apply a.layer
  | (_, some error) => .error error

end Settings

end ScriptSteps
