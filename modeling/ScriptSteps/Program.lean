import ScriptSteps.Session
import ScriptSteps.Settings.Load

/-!
# The program

A run is settled by its command line, environment, files and input. It analyzes the code or the
files on its command line, or else holds a session on its input.

## Main definitions

* `Invocation`: what a run is given
* `Outcome`: what a run puts out, and its exit code
* `Invocation.run`: the run
-/

namespace ScriptSteps

/-- What a run is given. -/
structure Invocation where
  arguments : List String
  environment : Environment
  files : FileTree
  input : ByteArray

/-- What a run puts out, and its exit code. -/
structure Outcome where
  outputs : List Output
  code : Nat
deriving DecidableEq, Repr

namespace Outcome

/-- The outcome without the events that a log filter hides. -/
def shown (filter : LogFilter) (o : Outcome) : Outcome :=
  { o with outputs := o.outputs.filter (·.isShown filter) }

/-- All that is put out on the standard output. -/
def onOutput (o : Outcome) : String := String.join (o.outputs.map (·.onOutput))

/-- All that is put out on the error output, when events happen at the given time. -/
def onError (time : String) (o : Outcome) : String := String.join (o.outputs.map (·.onError time))

end Outcome

namespace Program

/-! ## Command lines that ask for no run -/

/-- How the program is called. -/
def usage : String :=
  "Usage: spacey-steps [OPTIONS] [FILE]...\n\n"
    ++ "  -e, --eval <CODE>         Analyze inline code instead of files\n"
    ++ "  -f, --format <FORMAT>     Output format: table or json\n"
    ++ "      --no-color            Disable colored output\n"
    ++ "      --log-level <LEVEL>   Log filter\n"
    ++ "  -h, --help                Print help\n"
    ++ "  -V, --version             Print version\n"

/-- The answer to a command line that is refused. -/
def refuse (reason : String) : Outcome := ⟨[.complain ("error: " ++ reason ++ "\n\n" ++ usage)], 2⟩

/-- The answer to a command line that asks for no run. -/
def answer : ArgumentError → Outcome
  | .displayHelp => ⟨[.print usage], 0⟩
  | .displayVersion => ⟨[.printLine "spacey-steps 0.1.0"], 0⟩
  | .invalidValue => refuse "a value is missing or not allowed"
  | .unknownArgument => refuse "unexpected argument"
  | .conflict => refuse "arguments cannot be used together"
  | .tooManyValues => refuse "unexpected value"

/-! ## Runs -/

/-- The exit code of an analysis. -/
def codeOf : Except Error Model → Nat
  | .ok _ => 0
  | .error _ => 1

/-- Analyzes code. -/
def runCode (p : Printer) (source : String) : Outcome :=
  ⟨p.analysis source, codeOf (analyze source)⟩

/-- What reading and analyzing a file tells. -/
def fileEvents (files : FileTree) (path : String) : List Event :=
  match files.read path with
  | .ok source =>
    ⟨.debug, "spacey_analyzer::async_engine", "loaded source",
      [("path", path), ("bytes", toString source.utf8ByteSize)]⟩ :: analysisEvents source
  | .error _ => []

/-- The results of files, one after the other; several are told apart by titles. -/
def fileResults (p : Printer) (results : List (String × Except Error Model)) : List Output :=
  let title (path : String) : List Output :=
    if results.length > 1 then [.printLine (p.header path)] else []
  let blocks := results.map fun (path, result) => title path ++ [p.result result]
  (blocks.intersperse [.printLine ""]).flatten

/-- Analyzes files: all of them are read before the first result is printed. -/
def runFiles (files : FileTree) (p : Printer) (paths : List String) : Outcome :=
  let results := paths.map fun path => (path, analyzeFile files path)
  ⟨(paths.flatMap (fileEvents files)).map .tell ++ fileResults p results,
   if results.any (codeOf ·.2 != 0) then 1 else 0⟩

/-- Where the entries of sessions are kept. -/
def historyDirectory (e : Environment) : String :=
  Path.join ((userDirectory? e "XDG_DATA_HOME" ".local/share").getD ".") "spacey-steps"

/-- The files when a session starts, after the directory for its entries is made, and what making
it puts out. -/
def openHistory (files : FileTree) (e : Environment) : FileTree × Output :=
  let path := historyDirectory e
  match files.makeDirectory path with
  | .ok files => (files, .makeDirectory path)
  | .error fault =>
    (files, .tell ⟨.debug, "spacey_steps::repl", "no history directory",
      [("path", path), ("error", fault.message)]⟩)

/-- Holds a session. -/
def runSession (i : Invocation) (s : Settings) : Outcome :=
  let (files, history) := openHistory i.files i.environment
  match Session.run files ⟨s.format, s.color⟩ i.input with
  | (outputs, .finished) => ⟨history :: outputs, 0⟩
  | (outputs, .notText) =>
    let printer : Printer := ⟨.table, s.color⟩
    let failure := printer.error ("ReplError: " ++ FileFault.notText.message)
    ⟨history :: outputs ++ [.complainLine failure], 1⟩

/-- The log filter of a run: the one on the command line, else that of the environment if it can
be read, else the one that is set. One that cannot be read stands for the usual filter. -/
def logFilter (e : Environment) (a : Arguments) (s : Settings) : LogFilter :=
  let configured := (LogFilter.parse? s.logLevel).getD .default
  if a.logLevel?.isSome then configured
  else ((e.value? "RUST_LOG").bind LogFilter.parse?).getD configured

end Program

/-- The run of a program. -/
def Invocation.run (i : Invocation) : Outcome :=
  match Arguments.parse i.arguments with
  | .error request => Program.answer request
  | .ok a =>
    match Settings.load i.files i.environment a with
    | .error e =>
      let printer : Printer := ⟨.table, !a.noColor⟩
      ⟨[.complainLine (printer.error e.message)], 1⟩
    | .ok s =>
      let printer : Printer := ⟨s.format, s.color⟩
      let outcome := match a.eval?, a.files with
        | some source, _ => Program.runCode printer source
        | none, [] => Program.runSession i s
        | none, paths => Program.runFiles i.files printer paths
      outcome.shown (Program.logFilter i.environment a s)

end ScriptSteps
