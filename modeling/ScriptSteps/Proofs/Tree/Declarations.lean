import ScriptSteps.Tree.Statement

/-!
# Declarations in a tree

All the declarations that a walk over a program meets, each with the place it stands in: the bodies
of functions, loops, branches and cases, the blocks of a `try` and the heads of `for` loops are
looked into.

## Main definitions

* `PlacedDeclaration`: a declaration and where it stands
* `Statement.declarations`, `statementDeclarations`: the declarations in a tree
-/

namespace ScriptSteps

/-- Where a declaration stands: as a statement, or at the start of a `for` loop's head. -/
inductive DeclarationPlace where
  | statement | head
deriving DecidableEq, Repr

/-- A declaration and where it stands. -/
structure PlacedDeclaration where
  place : DeclarationPlace
  declared : VariableDeclaration
deriving Repr

/-- The declaration that a `for` loop starts with, if it starts with one. -/
def headDeclarations : Option ForInit → List PlacedDeclaration
  | some (.declaration declared) => [⟨.head, declared⟩]
  | some (.expression _) | none => []

mutual

/-- The declarations in a statement. -/
def Statement.declarations : Statement → List PlacedDeclaration
  | .declaration declared => [⟨.statement, declared⟩]
  | .function _ _ body _ => statementDeclarations body
  | .block braces => braces.declarations
  | .if_ chain => chain.declarations
  | .switch _ cases _ => caseDeclarations cases
  | .while_ _ body _ => body.declarations
  | .doWhile body _ _ => body.declarations
  | .for_ init _ _ body _ => headDeclarations init ++ body.declarations
  | .try_ braces handler finalizer _ =>
    braces.declarations ++ (handlerDeclarations handler ++ finalizerDeclarations finalizer)
  | .expression _ _ | .return_ _ _ | .break_ _ _ | .continue_ _ _ | .throw _ _ | .empty _ => []

/-- The declarations in statements in a row. -/
def statementDeclarations : List Statement → List PlacedDeclaration
  | [] => []
  | first :: rest => first.declarations ++ statementDeclarations rest

/-- The declarations in braces. -/
def Block.declarations : Block → List PlacedDeclaration
  | .mk body _ => statementDeclarations body

/-- The declarations in what a loop repeats or a branch runs. -/
def Body.declarations : Body → List PlacedDeclaration
  | .block braces => braces.declarations
  | .single statement => statement.declarations

/-- The declarations in an `if` chain. -/
def IfStatement.declarations : IfStatement → List PlacedDeclaration
  | .mk _ consequent alternate _ => consequent.declarations ++ alternateDeclarations alternate

/-- The declarations in what an `else` leads to. -/
def alternateDeclarations : Option Alternate → List PlacedDeclaration
  | none => []
  | some (.elseIf next) => next.declarations
  | some (.else_ body) => body.declarations

/-- The declarations in the cases of a `switch`. -/
def caseDeclarations : List SwitchCase → List PlacedDeclaration
  | [] => []
  | .mk _ consequent :: rest => statementDeclarations consequent ++ caseDeclarations rest

/-- The declarations in the `catch` part of a `try`. -/
def handlerDeclarations : Option CatchClause → List PlacedDeclaration
  | none => []
  | some (.mk _ body) => body.declarations

/-- The declarations in the `finally` part of a `try`. -/
def finalizerDeclarations : Option Block → List PlacedDeclaration
  | none => []
  | some body => body.declarations

end

@[simp]
theorem Body.declarations_ofStatement (s : Statement) :
    (Body.ofStatement s).declarations = s.declarations := by
  cases s <;> rfl

end ScriptSteps
