import ScriptSteps.Error
import ScriptSteps.Grammar
import ScriptSteps.Step
import ScriptSteps.Tree.Printer

/-!
# From statements to steps

A statement gives its own steps and then those of the statements inside it. A statement without
steps of its own kind makes the whole analysis fail.

## Main definitions

* `Statement.steps`: the steps of one statement
* `flatten`: the steps of a program
* `analyze`: the steps of a text
-/

namespace ScriptSteps

/-! ## Steps of single constructs -/

namespace Step

/-- The step of a function's head. -/
def ofFunction (id : Identifier) (line : Nat) : Step :=
  ⟨line, .functionDeclaration, id.name, "", ""⟩

/-- The step of a function's parameter. -/
def ofParameter (id : Identifier) : Step := ⟨id.line, .variableDeclaration, id.name, "", ""⟩

/-- The step of a declared variable. -/
def ofDeclarator (r : Renderer) (d : VariableDeclarator) : Step :=
  ⟨d.id.line, .variableDeclaration, d.id.name, "", (d.init.map r.expression).getD ""⟩

/-- The step of an update, which adds one or subtracts one. -/
def ofUpdate (r : Renderer) (operator : UpdateOperator) (argument : Expression) (line : Nat) :
    Step :=
  let target := r.expression argument
  let value := match operator with
    | .increment => target ++ " + 1"
    | .decrement => target ++ " - 1"
  ⟨line, .updateExpression, target, "", value⟩

/-- The value that an assignment stores: what is assigned, or that with the target's text and a
sign before it. The other operators have no such text. -/
def assignedValue? (operator : AssignmentOperator) (target value : String) : Option String :=
  match operator with
  | .assign => some value
  | .addAssign => some (target ++ " + " ++ value)
  | .subtractAssign => some (target ++ " - " ++ value)
  | _ => none

/-- The step of a `return`. -/
def ofReturn (r : Renderer) (argument : Option Expression) (line : Nat) : Step :=
  ⟨line, .returnStatement, "", "", (argument.map r.expression).getD ""⟩

/-- The step of a `while` loop. -/
def ofWhile (r : Renderer) (test : Expression) (line : Nat) : Step :=
  ⟨line, .whileStatement, "", r.expression test, ""⟩

/-- The step of a test of an `if` chain. -/
def ofTest (r : Renderer) (kind : StepKind) (test : Expression) (line : Nat) : Step :=
  ⟨line, kind, "", r.expression test, ""⟩

/-- The step of the end of an `if` chain that has no test. -/
def ofElse (body : Body) : Step := ⟨body.line, .elseStatement, "", "", ""⟩

/-- The text of what a `for` loop starts with. -/
def forInitText (r : Renderer) : Option ForInit → String
  | some (.declaration declaration) => r.declaration declaration
  | some (.expression expression) => r.expression expression
  | none => ""

/-- The step of a `for` loop: its three clauses, each empty if it is left out. -/
def ofFor (r : Renderer) (init : Option ForInit) (test update : Option Expression) (line : Nat) :
    Step :=
  let clause (e : Option Expression) : String := (e.map r.expression).getD ""
  ⟨line, .forStatement, "", forInitText r init ++ ";" ++ clause test ++ ";" ++ clause update, ""⟩

end Step

/-- The steps of an expression that stands as a statement. Only updates and assignments have any. -/
def Expression.steps (r : Renderer) (line : Nat) : Expression → Except Error Model
  | update operator argument _ updateLine => .ok [.ofUpdate r operator argument updateLine]
  | assignment operator left right assignmentLine =>
    let target := r.expression left
    match Step.assignedValue? operator target (r.expression right) with
    | some value => .ok [⟨assignmentLine, .assignmentExpression, target, "", value⟩]
    | none => .error (.unsupported operator.text assignmentLine)
  | other => .error (.unsupported other.typeName line)

/-! ## Steps of statements -/

mutual

/-- The steps of a statement and of all statements inside it. -/
def Statement.steps (r : Renderer) : Statement → Except Error Model
  | .declaration declared => .ok (declared.declarations.map (.ofDeclarator r))
  | .function id params body line => do
    let inner ← statementSteps r body
    return .ofFunction id line :: params.map .ofParameter ++ inner
  | .expression expression line => expression.steps r line
  | .return_ argument line => .ok [.ofReturn r argument line]
  | .while_ test body line => do
    let inner ← body.steps r
    return .ofWhile r test line :: inner
  | .if_ chain => chain.steps r .ifStatement
  | .for_ init test update body line => do
    let inner ← body.steps r
    return .ofFor r init test update line :: inner
  | .block block => .error (.unsupported "BlockStatement" block.line)
  | .switch _ _ line => .error (.unsupported "SwitchStatement" line)
  | .doWhile _ _ line => .error (.unsupported "DoWhileStatement" line)
  | .break_ _ line => .error (.unsupported "BreakStatement" line)
  | .continue_ _ line => .error (.unsupported "ContinueStatement" line)
  | .throw _ line => .error (.unsupported "ThrowStatement" line)
  | .try_ _ _ _ line => .error (.unsupported "TryStatement" line)
  | .empty line => .error (.unsupported "EmptyStatement" line)

/-- The steps of statements in a row. -/
def statementSteps (r : Renderer) : List Statement → Except Error Model
  | [] => .ok []
  | first :: rest => do
    let firstSteps ← first.steps r
    let restSteps ← statementSteps r rest
    return firstSteps ++ restSteps

/-- The steps of a loop's or branch's body, the same with braces and without. -/
def Body.steps (r : Renderer) : Body → Except Error Model
  | .block (.mk body _) => statementSteps r body
  | .single statement => statement.steps r

/-- The steps of an `if` chain, whose first test is of the given kind. -/
def IfStatement.steps (r : Renderer) (kind : StepKind) : IfStatement → Except Error Model
  | .mk test consequent alternate line => do
    let inner ← consequent.steps r
    let further ← alternateSteps r alternate
    return .ofTest r kind test line :: inner ++ further

/-- The steps of what an `else` leads to, if there is one. -/
def alternateSteps (r : Renderer) : Option Alternate → Except Error Model
  | none => .ok []
  | some (.elseIf next) => next.steps r .elseIfStatement
  | some (.else_ body) => do
    let inner ← body.steps r
    return .ofElse body :: inner

end

/-- The steps of a program. -/
def flatten (r : Renderer) (program : List Statement) : Except Error Model :=
  statementSteps r program

/-- The steps of a text. -/
def analyze (source : String) : Except Error Model := do
  flatten .canonical (← parseProgram source)

end ScriptSteps
