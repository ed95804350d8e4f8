import ScriptSteps.Settings

/-!
# Settings by name

A setting can be given as a key and a text, by itself or in an environment variable, whose name is
the key in any case after a fixed beginning.

## Main definitions

* `Settings.set`: the settings after one key is set
* `Settings.loadEnvironment`: the settings after the environment's variables, in order
-/

namespace ScriptSteps

/-- The truth value that a word stands for. -/
def boolOf? (value : String) : Option Bool :=
  match Text.asciiLower (Text.trim value) with
  | "1" | "true" | "yes" | "on" => some true
  | "0" | "false" | "no" | "off" => some false
  | _ => none

/-- The natural number that a text stands for: digits with an optional plus sign before them, at
most 64 bits, and blanks around it. -/
def sizeOf? (value : String) : Option Nat :=
  let digits := match (Text.trim value).toList with
    | '+' :: digits => digits
    | digits => digits
  if digits = [] ∨ !digits.all Char.isDigit then none
  else
    let n := Nat.ofDigitChars 10 digits 0
    if n < UInt64.size then some n else none

/-- What a key and a text set. -/
def SettingsLayer.ofPair (key value : String) : Except SettingsError SettingsLayer :=
  match key with
  | "format" =>
    match OutputFormat.parse value with
    | .ok format => .ok { SettingsLayer.empty with format? := some format }
    | .error reason => .error (.format reason)
  | "color" =>
    match boolOf? value with
    | some color => .ok { SettingsLayer.empty with color? := some color }
    | none => .error (.notBoolean value)
  | "log_level" => .ok { SettingsLayer.empty with logLevel? := some value }
  | "history_size" =>
    match sizeOf? value with
    | some size => .ok { SettingsLayer.empty with historySize? := some size }
    | none => .error (.notNumber value)
  | other => .error (.unknownKey other)

/-- What the names of the variables that set something start with. -/
def environmentPrefix : String := "SPACEY_STEPS_"

/-- The key that a variable's name stands for, if it is one of ours. -/
def keyOfVariable? (name : String) : Option String :=
  let start := environmentPrefix.toList
  if start.isPrefixOf name.toList then
    some (Text.asciiLower (String.ofList (name.toList.drop start.length)))
  else none

namespace Settings

/-- The settings after a key is set. -/
def set (s : Settings) (key value : String) : Except SettingsError Settings :=
  (SettingsLayer.ofPair key value).map s.apply

/-- The settings after variables in order, up to the first that is refused, and its error. -/
def loadEnvironment (s : Settings) : List (String × String) → Settings × Option SettingsError
  | [] => (s, none)
  | (name, value) :: rest =>
    match keyOfVariable? name with
    | none => s.loadEnvironment rest
    | some key =>
      match s.set key value with
      | .ok s' => s'.loadEnvironment rest
      | .error e => (s, some e)

end Settings

end ScriptSteps
