import ScriptSteps.Settings

/-!
# Command lines

Options may stand anywhere before `--`, long or short, with their value attached or as the next
argument; everything else is a file. An argument that waits for its value is settled when the next
argument turns out not to be one, so problems are met in the order in which arguments are settled.

## Main definitions

* `Arguments`: what a command line asks for
* `ArgumentError`: why it is refused, or what it asks for instead
* `Arguments.parse`: the meaning of a command line
-/

namespace ScriptSteps

/-- What a command line asks for. -/
structure Arguments where
  eval? : Option String
  format? : Option OutputFormat
  noColor : Bool
  logLevel? : Option String
  files : List String
deriving DecidableEq, Repr

/-- Why a command line is not run. -/
inductive ArgumentError where
  /-- A value is missing or not one of those allowed. -/
  | invalidValue
  | unknownArgument
  /-- Two arguments exclude each other, or one is given twice. -/
  | conflict
  /-- A flag is given a value. -/
  | tooManyValues
  | displayHelp
  | displayVersion
deriving DecidableEq, Repr

/-- The options that take a value. -/
inductive ValueOption where
  | eval | format | logLevel
deriving DecidableEq, Repr

/-- The options that take none. -/
inductive FlagOption where
  | noColor | help | version
deriving DecidableEq, Repr

/-- What an argument that starts with dashes stands for. -/
inductive OptionName where
  | value (option : ValueOption)
  | flag (option : FlagOption)
deriving DecidableEq, Repr

/-- The option with a long name. -/
def OptionName.ofLong? (name : String) : Option OptionName :=
  match name with
  | "eval" => some (.value .eval)
  | "format" => some (.value .format)
  | "log-level" => some (.value .logLevel)
  | "no-color" => some (.flag .noColor)
  | "help" => some (.flag .help)
  | "version" => some (.flag .version)
  | _ => none

/-- The option with a short name. -/
def OptionName.ofShort? (c : Char) : Option OptionName :=
  match c with
  | 'e' => some (.value .eval)
  | 'f' => some (.value .format)
  | 'h' => some (.flag .help)
  | 'V' => some (.flag .version)
  | _ => none

namespace Arguments

/-- The arguments of an empty command line. -/
def empty : Arguments := ⟨none, none, false, none, []⟩

/-- Gives an option its value. No option can be given twice. -/
def giveValue (a : Arguments) (option : ValueOption) (value : String) :
    Except ArgumentError Arguments :=
  match option with
  | .eval => if a.eval?.isSome then .error .conflict else .ok { a with eval? := some value }
  | .logLevel =>
    if a.logLevel?.isSome then .error .conflict else .ok { a with logLevel? := some value }
  | .format =>
    if a.format?.isSome then .error .conflict
    else
      match OutputFormat.ofName? value with
      | some format => .ok { a with format? := some format }
      | none => .error .invalidValue

/-- Sets a flag, or answers a request. -/
def giveFlag (a : Arguments) (option : FlagOption) : Except ArgumentError Arguments :=
  match option with
  | .noColor => if a.noColor then .error .conflict else .ok { a with noColor := true }
  | .help => .error .displayHelp
  | .version => .error .displayVersion

/-- What the arguments read so far still leave open. -/
inductive Pending where
  | nothing
  /-- An option whose value has not come yet. -/
  | awaiting (option : ValueOption)
  /-- An option with its value. -/
  | given (option : ValueOption) (value : String)
  /-- Files in a row. -/
  | files (paths : List String)
deriving DecidableEq, Repr

/-- Settles what is open. An option without its value is refused, as is an empty path. -/
def settle (a : Arguments) : Pending → Except ArgumentError Arguments
  | .nothing => .ok a
  | .awaiting _ => .error .invalidValue
  | .given option value => a.giveValue option value
  | .files paths =>
    if paths.any (· == "") then .error .invalidValue
    else .ok { a with files := a.files ++ paths }

/-- Adds a file. -/
def addFile (a : Arguments) (pending : Pending) (path : String) :
    Except ArgumentError (Arguments × Pending) :=
  match pending with
  | .files paths => .ok (a, .files (paths ++ [path]))
  | other => do return (← a.settle other, .files [path])

/-- Reads a long option; its value may follow after `=`. -/
def addLong (a : Arguments) (pending : Pending) (text : List Char) :
    Except ArgumentError (Arguments × Pending) :=
  let name := String.ofList (text.takeWhile (· != '='))
  let attached := text.dropWhile (· != '=')
  match OptionName.ofLong? name, attached with
  | none, _ => .error .unknownArgument
  | some (.value option), [] => do return (← a.settle pending, .awaiting option)
  | some (.value option), _ :: value => do
    let a ← a.settle pending
    return (← a.giveValue option (String.ofList value), .nothing)
  | some (.flag option), [] => do
    let a ← a.settle pending
    return (← a.giveFlag option, .nothing)
  | some (.flag _), _ :: _ => .error .tooManyValues

/-- Reads short options in one argument. The first that takes a value takes the rest of it, after
an optional `=`. -/
def addShort (a : Arguments) (pending : Pending) : List Char →
    Except ArgumentError (Arguments × Pending)
  | [] => .ok (a, pending)
  | c :: cs =>
    match OptionName.ofShort? c with
    | none => .error .unknownArgument
    | some (.flag option) => do
      let a ← a.settle pending
      let a ← a.giveFlag option
      addShort a .nothing cs
    | some (.value option) => do
      let a ← a.settle pending
      match cs with
      | [] => return (a, .awaiting option)
      | '=' :: value => return (← a.giveValue option (String.ofList value), .nothing)
      | value => return (← a.giveValue option (String.ofList value), .nothing)

/-- Reads one argument before `--`. -/
def addArgument (a : Arguments) (pending : Pending) (argument : String) :
    Except ArgumentError (Arguments × Pending) :=
  match argument.toList, pending with
  | '-' :: '-' :: text, _ => a.addLong pending text
  | '-' :: c :: text, _ => a.addShort pending (c :: text)
  | _, .awaiting option => .ok (a, .given option argument)
  | _, _ => a.addFile pending argument

/-- Reads the arguments in order; after `--` all of them are files. -/
def addAll (a : Arguments) (pending : Pending) (onlyFiles : Bool) : List String →
    Except ArgumentError Arguments
  | [] => a.settle pending
  | argument :: rest =>
    if onlyFiles then do
      let (a, pending) ← a.addFile pending argument
      addAll a pending true rest
    else if argument = "--" then addAll a pending true rest
    else do
      let (a, pending) ← a.addArgument pending argument
      addAll a pending false rest

/-- The meaning of a command line. Code and files exclude each other. -/
def parse (arguments : List String) : Except ArgumentError Arguments := do
  let a ← addAll .empty .nothing false arguments
  if a.eval?.isSome && !a.files.isEmpty then .error .conflict else return a

/-- What a command line sets; colors can only be switched off. -/
def layer (a : Arguments) : SettingsLayer where
  format? := a.format?
  color? := if a.noColor then some false else none
  logLevel? := a.logLevel?
  historySize? := none

end Arguments

end ScriptSteps
