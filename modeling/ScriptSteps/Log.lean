import ScriptSteps.Report.Style
import ScriptSteps.Text.Alphanumeric
import ScriptSteps.Report.Format

/-!
# Log events

A run tells what it does in events. A filter, written as `level`, `target` or `target=level` with
commas between several, selects the events that are shown.

## Main definitions

* `Event`: what is told, at which level and from where
* `LogFilter.parse?`: a filter from its text
* `LogFilter.enables`: whether a filter shows an event
* `Event.line`: an event as it is shown
-/

namespace ScriptSteps

/-! ## Events -/

/-- How much an event matters, the most important first. -/
inductive LogLevel where
  | error | warn | info | debug | trace
deriving DecidableEq, Repr

namespace LogLevel

/-- The rank of a level; a filter of one rank shows the events up to it. -/
def rank : LogLevel → Nat
  | error => 1
  | warn => 2
  | info => 3
  | debug => 4
  | trace => 5

/-- The level as events show it. -/
def badge : LogLevel → String
  | error => Style.red.paint "ERROR"
  | warn => Style.yellow.paint " WARN"
  | info => Style.green.paint " INFO"
  | debug => Style.blue.paint "DEBUG"
  | trace => Style.magenta.paint "TRACE"

end LogLevel

/-- Something that a run tells about itself. -/
structure Event where
  level : LogLevel
  /-- The part of the program that tells it. -/
  target : String
  message : String
  /-- Names and values that go with the message. -/
  fields : List (String × String)
deriving DecidableEq, Repr

/-- An event as it is shown, with the time it happened at. -/
def Event.line (time : String) (e : Event) : String :=
  let field : String × String → String := fun (name, value) =>
    " " ++ Style.italic.paint name ++ Style.dimmed.paint "=" ++ value
  Style.dimmed.paint time ++ " " ++ e.level.badge ++ " " ++ Style.dimmed.paint e.target
    ++ Style.dimmed.paint ":" ++ " " ++ e.message ++ String.join (e.fields.map field) ++ "\n"

/-! ## Filters -/

/-- The events of the targets that start with a text are shown up to a rank. -/
structure Directive where
  target : String
  rank : Nat
deriving DecidableEq, Repr

/-- Directives; of those that apply to an event, the one with the longest target decides. -/
abbrev LogFilter := List Directive

/-- The rank that a level's name or number stands for. -/
def rankOf? (word : String) : Option Nat :=
  match Text.asciiLower word with
  | "off" | "0" => some 0
  | "error" | "1" => some 1
  | "warn" | "2" => some 2
  | "info" | "3" => some 3
  | "debug" | "4" => some 4
  | "trace" | "5" => some 5
  | _ => none

/-- One directive. A target without a level shows everything. -/
def Directive.parse? (text : String) : Option Directive :=
  let cs := text.toList
  match cs with
  | [] => none
  | first :: _ =>
    if !(Text.isAlphanumeric first || first == '_' || first == '-' || first == ':') then none
    else
      let target := String.ofList (cs.takeWhile (· != '='))
      match cs.dropWhile (· != '=') with
      | [] => match rankOf? text with
        | some rank => some ⟨"", rank⟩
        | none => some ⟨target, LogLevel.trace.rank⟩
      | ['='] => some ⟨target, LogLevel.trace.rank⟩
      | _ :: level => (rankOf? (String.ofList level)).map (⟨target, ·⟩)

namespace LogFilter

/-- A filter from its text. -/
def parse? (text : String) : Option LogFilter :=
  ((text.splitOn ",").filter (· != "")).mapM Directive.parse?

/-- The filter where none is asked for. -/
def default : LogFilter := [⟨"", LogLevel.warn.rank⟩]

/-- The more specific of two directives, the later one if they are for the same target. -/
def choose (best : Option Directive) (next : Directive) : Option Directive :=
  match best with
  | some d => if next.target.length < d.target.length then best else some next
  | none => some next

/-- Whether a filter shows an event. -/
def enables (filter : LogFilter) (e : Event) : Bool :=
  let applying := filter.filter fun d => d.target.toList.isPrefixOf e.target.toList
  match applying.foldl choose none with
  | some d => e.level.rank ≤ d.rank
  | none => false

end LogFilter

end ScriptSteps
