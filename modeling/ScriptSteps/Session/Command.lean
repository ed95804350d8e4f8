import ScriptSteps.Report.Format

/-!
# Commands of a session

A line that starts with a dot is a command: a name in any case and, after a blank, an argument.

## Main definitions

* `Command`: what a session can be told to do
* `Command.parse?`: the command that a line asks for, with its argument
-/

namespace ScriptSteps

/-- What a session can be told to do besides analyzing a text. -/
inductive Command where
  | help | exit | clear | format | load
deriving DecidableEq, Repr

namespace Command

/-- Every command, in the order of the help text. -/
def all : List Command := [help, exit, clear, format, load]

/-- The full name of a command. -/
def name : Command → String
  | help => "help"
  | exit => "exit"
  | clear => "clear"
  | format => "format"
  | load => "load"

/-- Other names that a command answers to. -/
def shortNames : Command → List String
  | help => ["h", "?"]
  | exit => ["quit", "q"]
  | clear => ["cls"]
  | format => ["f"]
  | load => ["l"]

/-- How a command is written. -/
def usage : Command → String
  | help => ".help"
  | exit => ".exit"
  | clear => ".clear"
  | format => ".format <table|json>"
  | load => ".load <file>"

/-- What a command does. -/
def about : Command → String
  | help => "Show this help message"
  | exit => "Exit the REPL"
  | clear => "Clear the screen"
  | format => "Show or change the output format"
  | load => "Analyze a JavaScript file"

/-- The command that answers to a name. -/
def ofName? (name : String) : Option Command :=
  all.find? fun command => command.name == name || command.shortNames.contains name

@[simp] theorem ofName?_name (c : Command) : ofName? c.name = some c := by cases c <;> rfl

/-- The command that a line asks for, and its argument if there is one. -/
def parse? (line : String) : Option (Command × Option String) :=
  match (Text.trim line).toList with
  | '.' :: rest => do
    let name := rest.takeWhile (!Text.isBlank ·)
    let argument := Text.trim (String.ofList (rest.dropWhile (!Text.isBlank ·)))
    -- No other letter has a small form that is one of the letters of these names.
    let command ← ofName? (Text.asciiLower (String.ofList name))
    return (command, if argument = "" then none else some argument)
  | _ => none

end Command

end ScriptSteps
