import ScriptSteps.Settings
import ScriptSteps.Toml.Reader

/-!
# Settings files

A settings file is a TOML table with a key for each setting. Every key may be left out; any other
key is refused.

## Main definitions

* `SettingsLayer.ofText`, `SettingsLayer.ofContent`: what a file sets
* `Settings.merge`: merges a file into the settings
* `Settings.mergeFile`: the settings after a file
-/

namespace ScriptSteps

namespace SettingsLayer

/-- A format: its name, or a table with the name as its only key and nothing under it. -/
def formatOf : Toml → Except SettingsFileProblem OutputFormat
  | .string name =>
    match OutputFormat.ofName? name with
    | some format => .ok format
    | none => .error (.unknownVariant name)
  | .table [(name, value)] =>
    match OutputFormat.ofName? name, value with
    | some format, .table [] => .ok format
    | some _, _ => .error .malformed
    | none, _ => .error (.unknownVariant name)
  | _ => .error .malformed

/-- A layer with one more entry of a file. -/
def addEntry (layer : SettingsLayer) (key : String) (value : Toml) :
    Except SettingsFileProblem SettingsLayer :=
  match key, value with
  | "format", value => do return { layer with format? := some (← formatOf value) }
  | "color", .boolean color => .ok { layer with color? := some color }
  | "log_level", .string level => .ok { layer with logLevel? := some level }
  | "history_size", .integer size =>
    if 0 ≤ size then .ok { layer with historySize? := some size.toNat } else .error .malformed
  | "color", _ | "log_level", _ | "history_size", _ => .error .malformed
  | other, _ => .error (.unknownField other)

/-- What the entries of a file set. -/
def ofTable (entries : Toml.Table) : Except SettingsFileProblem SettingsLayer :=
  entries.foldlM (fun layer (key, value) => layer.addEntry key value) .empty

/-- What a file's text sets. -/
def ofText (text : String) : Except SettingsFileProblem SettingsLayer :=
  match Toml.parse? text with
  | some entries => ofTable entries
  | none => .error .malformed

/-- What a file sets, given what reading it gave. -/
def ofContent (path : String) (content : Except FileFault String) :
    Except SettingsError SettingsLayer :=
  match content with
  | .ok text => (ofText text).mapError (SettingsError.file path)
  | .error fault => .error (.unreadable fault)

end SettingsLayer

namespace Settings

/-- Sets a value in place, if there is one to set. -/
def assign {α : Type} (value? : Option α) (set : Settings → α → Settings) : StateM Settings Unit :=
  match value? with
  | some value => modify fun s => set s value
  | none => pure ()

/-- Sets the values of a layer in place, one after the other. -/
def assignAll (layer : SettingsLayer) : StateM Settings Unit := do
  assign layer.format? fun s format => { s with format }
  assign layer.color? fun s color => { s with color }
  assign layer.logLevel? fun s logLevel => { s with logLevel }
  assign layer.historySize? fun s historySize => { s with historySize }

/-- Merges a file into the settings in place, given what reading it gave. -/
def merge (path : String) (content : Except FileFault String) :
    ExceptT SettingsError (StateM Settings) Unit := do
  let layer ← MonadExcept.ofExcept (SettingsLayer.ofContent path content)
  assignAll layer

/-- The settings after a file, given what reading it gave. -/
def mergeFile (s : Settings) (path : String) (content : Except FileFault String) :
    Except SettingsError Settings :=
  match (merge path content).run.run s with
  | (.ok (), merged) => .ok merged
  | (.error error, _) => .error error

end Settings

end ScriptSteps
