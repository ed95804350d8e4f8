import ScriptSteps.Output
import ScriptSteps.Session.Backspace
import ScriptSteps.Session.Command
import ScriptSteps.Session.Continuation

/-!
# Sessions

A session reads entries, each a line or several lines that belong together, and answers each: a
command is carried out, any other text is analyzed. All that a session remembers from one entry to
the next is how results are printed.

## Main definitions

* `Session.answer`: what a session does with an entry
* `Session.converse`: what a session does with lines of input, up to their end or to a line that
  is no text
* `Session.run`: a session from its first to its last line of output
-/

namespace ScriptSteps

namespace Session

/-! ## Texts -/

/-- What is shown before each line where input is typed. -/
def prompt (color : Bool) : String :=
  (if color then Style.bold.paint (colored .brightGreen "steps>") else "steps>") ++ " "

/-- A line of texts. -/
def textLine (texts : List String) : Output := .printLine (String.join texts)

/-- The greeting. -/
def banner : List Output :=
  [textLine [],
   textLine ["  ", Style.bold.paint (colored .white "spacey-steps"), " ",
     colored .brightYellow "v0.1.0"],
   textLine ["  ", Style.dimmed.paint "Enter a program to see its step table"],
   textLine ["  ", Style.dimmed.paint "Type", " ", colored .cyan ".help", " ",
     Style.dimmed.paint "for available commands"],
   textLine []]

/-- The head of a part of the help text. -/
def helpHead (title : String) : Output := textLine [Style.bold.paint (colored .white title)]

/-- An entry of the help text: what to type, and what it does. -/
def helpEntry (color : Color) (usage about : String) : Output :=
  textLine ["  ", colored color (padTo 24 usage), " ", Style.dimmed.paint about]

/-- The help text. -/
def help : List Output :=
  [textLine [], helpHead "REPL Commands:"]
    ++ Command.all.map (fun command => helpEntry .cyan command.usage command.about)
    ++ [textLine [], helpHead "Keys:",
      helpEntry .yellow "Ctrl+C" "Cancel current input",
      helpEntry .yellow "Ctrl+D" "Exit REPL",
      helpEntry .yellow "Tab" "Complete keywords and commands",
      textLine []]

/-- A complaint about an entry. -/
def complaint (reason : String) : Output :=
  .complainLine (Style.bold.paint (colored .red "Error") ++ ": " ++ reason)

/-- Clears the screen and goes to its top. -/
def clearScreen : String := "\x1b[2J\x1b[H"

/-! ## Entries -/

/-- What a session does with an entry. -/
structure Reply where
  outputs : List Output
  /-- How results are printed from now on. -/
  printer : Printer
  /-- Whether the session ends. -/
  ends : Bool
deriving DecidableEq, Repr

/-- A reply that changes nothing. -/
def Reply.say (p : Printer) (outputs : List Output) : Reply := ⟨outputs, p, false⟩

/-- Analyzes a file. -/
def load (files : FileTree) (p : Printer) (path : String) : List Output :=
  match files.read path with
  | .ok source => p.analysis source
  | .error fault => [p.result (.error (.unreadable path fault.message))]

/-- Carries out a command. -/
def execute (files : FileTree) (p : Printer) (command : Command) (argument? : Option String) :
    Reply :=
  match command, argument? with
  | .help, _ => .say p help
  | .exit, _ => ⟨[], p, true⟩
  | .clear, _ => .say p [.print clearScreen]
  | .format, none => .say p [.printLine (colored .cyan p.format.name)]
  | .format, some word =>
    match OutputFormat.parse word with
    | .ok format => ⟨[], { p with format }, false⟩
    | .error reason => .say p [complaint reason]
  | .load, none => .say p [complaint (colored .cyan ".load" ++ " requires a file path")]
  | .load, some path => .say p (load files p path)

/-- Whether a text is meant as a command. -/
def isCommand (text : String) : Bool := text.toList.head? == some '.'

/-- What a session does with an entry. Blanks around it do not matter. -/
def answer (files : FileTree) (p : Printer) (entry : String) : Reply :=
  let text := Text.trim entry
  if text = "" then .say p []
  else if !isCommand text then .say p (p.analysis text)
  else
    match Command.parse? text with
    | some (command, argument?) => execute files p command argument?
    | none => .say p [complaint ("unknown command " ++ colored .cyan text)]

/-! ## Input -/

/-- Whether an entry goes on in the next line. Commands never do. -/
def isUnfinished (entry : String) : Bool :=
  !isCommand (Text.trimStart entry) && needsMoreInput entry

/-- Lines with one more byte before them; a line feed ends a line of its own. -/
def addByte (byte : UInt8) : List (List UInt8) → List (List UInt8)
  | [] => [[byte]]
  | line :: lines => if byte = 10 then [byte] :: line :: lines else (byte :: line) :: lines

/-- Bytes cut after each line feed. -/
def byteLines (bytes : List UInt8) : List (List UInt8) := bytes.foldr addByte []

/-- A line without the line feed, or carriage return and line feed, that ends it. -/
def withoutLineEnd (line : String) : String :=
  match line.toList.reverse with
  | '\n' :: '\r' :: rest => String.ofList rest.reverse
  | '\n' :: rest => String.ofList rest.reverse
  | _ => line

/-- The line feed, or carriage return and line feed, that ends a line. -/
def lineEnd (line : String) : String :=
  match line.toList.reverse with
  | '\n' :: '\r' :: _ => "\r\n"
  | '\n' :: _ => "\n"
  | _ => ""

/-- How a session came to its end. -/
inductive Ending where
  /-- By a command, or at the end of its input. -/
  | finished
  /-- At a line that is no text. -/
  | notText
deriving DecidableEq, Repr

/-- What a session does with lines of input after the `pending` lines of an entry that is not
finished. A backspace at the start of a line takes away the end of the line before it if both
belong to one entry. Lines that the end of the input leaves unfinished are dropped. -/
def converse (files : FileTree) (p : Printer) (pending : String) :
    List (List UInt8) → List Output × Ending
  | [] => ([.printLine (Style.dimmed.paint "^D")], .finished)
  | bytes :: lines =>
    match String.fromUTF8? ⟨bytes.toArray⟩ with
    | none => ([], .notText)
    | some line =>
      let entry := applyBackspaces (pending ++ withoutLineEnd line)
      if isUnfinished entry then converse files p (entry ++ lineEnd line) lines
      else
        let reply := answer files p entry
        if reply.ends then (reply.outputs, .finished)
        else
          let (outputs, ending) := converse files reply.printer "" lines
          (reply.outputs ++ outputs, ending)

/-- A session on the bytes of its input. -/
def run (files : FileTree) (p : Printer) (input : ByteArray) : List Output × Ending :=
  let (outputs, ending) := converse files p "" (byteLines input.toList)
  (banner ++ outputs ++ [textLine []], ending)

end Session

end ScriptSteps
