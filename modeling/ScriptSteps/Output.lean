import ScriptSteps.Files
import ScriptSteps.Report
import ScriptSteps.Step.Trace

/-!
# What a run puts out

Results go to the standard output, failures and events to the error output; their order is kept.
A run also makes directories, which are part of what it puts out.

## Main definitions

* `Output`: one piece of what a run puts out
* `Printer.result`: the result of an analysis
* `Printer.analysis`: everything that the analysis of a text puts out
-/

namespace ScriptSteps

/-- One piece of what a run puts out. -/
inductive Output where
  /-- A text on the standard output. -/
  | print (text : String)
  /-- A text on the error output. -/
  | complain (text : String)
  /-- An event, which is shown on the error output if the log filter asks for it. -/
  | tell (event : Event)
  /-- A directory, with those on the way to it. -/
  | makeDirectory (path : String)
deriving DecidableEq, Repr

namespace Output

/-- A line on the standard output. -/
def printLine (text : String) : Output := .print (text ++ "\n")

/-- A line on the error output. -/
def complainLine (text : String) : Output := .complain (text ++ "\n")

/-- Whether a piece is shown under a log filter. -/
def isShown (filter : LogFilter) : Output → Bool
  | print _ | complain _ | makeDirectory _ => true
  | tell event => filter.enables event

/-- The text of a piece on the standard output. -/
def onOutput : Output → String
  | print text => text
  | complain _ | tell _ | makeDirectory _ => ""

/-- The text of a piece on the error output, with the time of its event. -/
def onError (time : String) : Output → String
  | print _ | makeDirectory _ => ""
  | complain text => text
  | tell event => event.line time

end Output

namespace Printer

/-- The result of an analysis. -/
def result (p : Printer) : Except Error Model → Output
  | .ok m => .printLine (p.model m)
  | .error e => .complainLine (p.error e.message)

/-- Everything that the analysis of a text puts out. -/
def analysis (p : Printer) (source : String) : List Output :=
  (analysisEvents source).map .tell ++ [p.result (analyze source)]

end Printer

/-- Reads and analyzes a file. -/
def analyzeFile (files : FileTree) (path : String) : Except Error Model :=
  match files.read path with
  | .ok source => analyze source
  | .error fault => .error (.unreadable path fault.message)

end ScriptSteps
