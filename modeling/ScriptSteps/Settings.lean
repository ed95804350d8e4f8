import ScriptSteps.Files
import ScriptSteps.Report.Format

/-!
# Settings

What a user can set, and the layers it is set in: a layer sets some of the settings and leaves the
others as they are.

## Main definitions

* `Settings`: the values in force
* `SettingsLayer`: the values that one source sets
* `Settings.apply`: the settings after one more layer
* `SettingsError`: why a source of settings is refused
-/

namespace ScriptSteps

/-- The values in force. -/
structure Settings where
  format : OutputFormat
  color : Bool
  logLevel : String
  historySize : Nat
deriving DecidableEq, Repr

/-- The settings before any source has set one. -/
def Settings.initial : Settings := ⟨.table, true, "warn", 1000⟩

/-- The values that one source sets. -/
structure SettingsLayer where
  format? : Option OutputFormat
  color? : Option Bool
  logLevel? : Option String
  historySize? : Option Nat
deriving DecidableEq, Repr

/-- The layer that sets nothing. -/
def SettingsLayer.empty : SettingsLayer := ⟨none, none, none, none⟩

/-- The settings after one more layer. -/
def Settings.apply (s : Settings) (layer : SettingsLayer) : Settings where
  format := layer.format?.getD s.format
  color := layer.color?.getD s.color
  logLevel := layer.logLevel?.getD s.logLevel
  historySize := layer.historySize?.getD s.historySize

@[simp] theorem Settings.apply_empty (s : Settings) : s.apply .empty = s := rfl

/-! ## Errors -/

/-- What is wrong with a settings file. -/
inductive SettingsFileProblem where
  | unknownField (name : String)
  | unknownVariant (name : String)
  /-- The text is no TOML, or a value is not of its setting's type. -/
  | malformed
deriving DecidableEq, Repr

/-- The wording of a problem with a settings file. -/
def SettingsFileProblem.message : SettingsFileProblem → String
  | unknownField name => "unknown field `" ++ name
      ++ "`, expected one of `format`, `color`, `log_level`, `history_size`"
  | unknownVariant name => "unknown variant `" ++ name ++ "`, expected `table` or `json`"
  | malformed => "malformed settings"

/-- Why a source of settings is refused. -/
inductive SettingsError where
  /-- No setting has this key. -/
  | unknownKey (key : String)
  /-- A value names no format, for the reason given. -/
  | format (reason : String)
  | notBoolean (value : String)
  | notNumber (value : String)
  | file (path : String) (problem : SettingsFileProblem)
  | unreadable (fault : FileFault)
deriving DecidableEq, Repr

/-- The wording of an error. -/
def SettingsError.message : SettingsError → String
  | unknownKey key => "ConfigError: " ++ key ++ ": unknown configuration key"
  | format reason => "ConfigError: format: " ++ reason
  | notBoolean value => "ConfigError: color: expected a boolean, got '" ++ value ++ "'"
  | notNumber value => "ConfigError: history_size: expected a number, got '" ++ value ++ "'"
  | file path problem => "ConfigError: " ++ path ++ ": " ++ problem.message
  | unreadable fault => "IOError: " ++ fault.message

end ScriptSteps
