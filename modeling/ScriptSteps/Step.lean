/-!
# Steps

A step is one row of the table that a script is turned into: the line it comes from, what it is,
and the texts that go with that. A model is the list of steps of one script, in source order.

## Main definitions

* `StepKind`: what a step is, with its name
* `Step`: one row
* `Model`: the rows of one script
-/

namespace ScriptSteps

/-- What a step is. -/
inductive StepKind where
  | functionDeclaration
  /-- A variable or a parameter of a function. -/
  | variableDeclaration
  | updateExpression
  | assignmentExpression
  | returnStatement
  | whileStatement
  /-- The first test of an `if` chain. -/
  | ifStatement
  /-- A later test of an `if` chain. -/
  | elseIfStatement
  /-- The end of an `if` chain that has no test. -/
  | elseStatement
  | forStatement
deriving DecidableEq, Repr

namespace StepKind

/-- The name of a kind. -/
def name : StepKind → String
  | functionDeclaration => "FunctionDeclaration"
  | variableDeclaration => "VariableDeclaration"
  | updateExpression => "UpdateExpression"
  | assignmentExpression => "AssignmentExpression"
  | returnStatement => "ReturnStatement"
  | whileStatement => "WhileStatement"
  | ifStatement => "IfStatement"
  | elseIfStatement => "ElseIfStatement"
  | elseStatement => "ElseStatement"
  | forStatement => "ForStatement"

/-- Every kind. -/
def all : List StepKind :=
  [functionDeclaration, variableDeclaration, updateExpression, assignmentExpression,
   returnStatement, whileStatement, ifStatement, elseIfStatement, elseStatement, forStatement]

/-- The kind with the given name. -/
def ofName? (name : String) : Option StepKind := all.find? (·.name == name)

@[simp] theorem ofName?_name (k : StepKind) : ofName? k.name = some k := by cases k <;> rfl

end StepKind

/-- One row of the table; a text that does not apply is empty. -/
structure Step where
  line : Nat
  kind : StepKind
  name : String
  condition : String
  value : String
deriving DecidableEq, Repr

/-- The rows of one script, in source order. -/
abbrev Model := List Step

end ScriptSteps
