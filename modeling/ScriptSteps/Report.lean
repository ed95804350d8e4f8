import ScriptSteps.Report.Format
import ScriptSteps.Report.Table
import ScriptSteps.Step.Json

/-!
# Printed results

## Main definitions

* `Printer`: an output format, and whether to use styles
* `Printer.model`, `Printer.error`, `Printer.header`: what is printed for each
-/

namespace ScriptSteps

/-- How results are printed. -/
structure Printer where
  format : OutputFormat
  color : Bool
deriving DecidableEq, Repr

namespace Printer

/-- A model in the printer's format. -/
def model (p : Printer) (m : Model) : String :=
  match p.format with
  | .table => renderTable p.color m
  | .json => m.toJson

/-- An error message; what stands before its first colon is the kind of error and is set apart. -/
def error (p : Printer) (message : String) : String :=
  let cs := message.toList
  match cs.dropWhile (· != ':') with
  | [] => Style.red.paintIf p.color message
  | rest => Style.boldRed.paintIf p.color (String.ofList (cs.takeWhile (· != ':')))
      ++ String.ofList rest

/-- The title above the results of one of several files. -/
def header (p : Printer) (title : String) : String :=
  Style.boldBrightCyan.paintIf p.color ("==> " ++ title ++ " <==")

end Printer

end ScriptSteps
