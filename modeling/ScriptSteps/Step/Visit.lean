import ScriptSteps.Step.Flatten

/-!
# The statements an analysis visits

An analysis visits statements in source order, a statement before those inside it, and stops at
the first one that it has no steps for. What is inside such a statement is never visited.

## Main definitions

* `Statement.visits`: a statement and the visited statements inside it
* `Statement.obstacle?`: why a statement by itself has no steps
* `visitedUntilFailure`: the statements of a program that are visited
-/

namespace ScriptSteps

mutual

/-- A statement and the statements inside it that are visited if nothing fails. -/
def Statement.visits : Statement → List Statement
  | .function id params body line => .function id params body line :: statementVisits body
  | .while_ test body line => .while_ test body line :: body.visits
  | .for_ init test update body line => .for_ init test update body line :: body.visits
  | .if_ chain => .if_ chain :: chain.visits
  | statement => [statement]

/-- The visits of statements in a row. -/
def statementVisits : List Statement → List Statement
  | [] => []
  | first :: rest => first.visits ++ statementVisits rest

/-- The visits of a loop's or branch's body. -/
def Body.visits : Body → List Statement
  | .block (.mk body _) => statementVisits body
  | .single statement => statement.visits

/-- The visits of the branches of an `if` chain. -/
def IfStatement.visits : IfStatement → List Statement
  | .mk _ consequent alternate _ => consequent.visits ++ alternateVisits alternate

/-- The visits of what an `else` leads to. -/
def alternateVisits : Option Alternate → List Statement
  | none => []
  | some (.elseIf next) => next.visits
  | some (.else_ body) => body.visits

end

/-- Why a statement by itself has no steps; none if it has. -/
def Statement.obstacle? : Statement → Option Error
  | .expression (.update _ _ _ _) _ => none
  | .expression (.assignment operator _ _ assignmentLine) _ =>
    match operator with
    | .assign | .addAssign | .subtractAssign => none
    | other => some (.unsupported other.text assignmentLine)
  | .expression other line => some (.unsupported other.typeName line)
  | .declaration _ | .function _ _ _ _ | .return_ _ _ | .while_ _ _ _ | .if_ _
  | .for_ _ _ _ _ _ => none
  | other => some (.unsupported other.typeName other.line)

/-- The elements up to and including the first that satisfies `p`. -/
def takeThrough {α : Type} (p : α → Bool) : List α → List α
  | [] => []
  | a :: as => if p a then [a] else a :: takeThrough p as

/-- The statements of a program that are visited: all of them, or those up to the first without
steps. -/
def visitedUntilFailure (program : List Statement) : List Statement :=
  takeThrough (·.obstacle?.isSome) (statementVisits program)

end ScriptSteps
