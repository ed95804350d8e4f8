import ScriptSteps.Report.Style
import ScriptSteps.Step
import ScriptSteps.Text.Blank

/-!
# Step tables

A model as aligned columns: a line of headers, a line of dashes as wide as the columns, and one
line per step. Every cell is padded to the width of its column, two spaces separate columns, and
blanks at the end of a line are dropped.

## Main definitions

* `columnWidths`: how wide the columns are, in characters
* `renderTable`: the table, with styles or without
-/

namespace ScriptSteps

/-- The headers of the columns. -/
def tableHeaders : List String := ["Line", "Type", "Name", "Condition", "Value"]

/-- The cells of a step's line. -/
def Step.cells (s : Step) : List String :=
  [toString s.line, s.kind.name, s.name, s.condition, s.value]

/-- The width of each column: that of its widest cell, its header included. -/
def columnWidths (m : Model) : List Nat :=
  m.foldl (fun widths s => widths.zipWith max (s.cells.map String.length))
    (tableHeaders.map String.length)

/-- A cell with spaces after it up to a width. -/
def padTo (width : Nat) (cell : String) : String :=
  cell ++ String.ofList (List.replicate (width - cell.length) ' ')

/-- The style of a kind of step. -/
def StepKind.style : StepKind → Style
  | functionDeclaration => .boldMagenta
  | variableDeclaration => .blue
  | ifStatement | elseIfStatement | elseStatement => .brightMagenta
  | whileStatement | forStatement => .brightYellow
  | returnStatement => .red
  | assignmentExpression | updateExpression => .plain

/-- The styles of the cells of a step's line. -/
def Step.styles (s : Step) : List Style := [.yellow, s.kind.style, .plain, .cyan, .green]

/-- One line of the table. -/
def tableLine (cells : List String) : String :=
  Text.trimEnd (String.intercalate "  " cells) ++ "\n"

/-- The line of headers. -/
def headerLine (color : Bool) (widths : List Nat) : String :=
  tableLine ((widths.zipWith padTo tableHeaders).map (Style.boldWhite.paintIf color))

/-- The line of dashes. -/
def ruleLine (color : Bool) (widths : List Nat) : String :=
  tableLine (widths.map fun width =>
    Style.dimmed.paintIf color (String.ofList (List.replicate width '-')))

/-- The line of a step. -/
def stepLine (color : Bool) (widths : List Nat) (s : Step) : String :=
  tableLine ((widths.zipWith padTo s.cells).zipWith (fun cell style => style.paintIf color cell)
    s.styles)

/-- A model as a table. -/
def renderTable (color : Bool) (m : Model) : String :=
  if m.isEmpty then Style.dimmed.paintIf color "(no steps)"
  else
    let widths := columnWidths m
    Text.trimEnd (headerLine color widths ++ ruleLine color widths
      ++ String.join (m.map (stepLine color widths)))

end ScriptSteps
