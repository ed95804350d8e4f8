import ScriptSteps.Tree.Expression

/-!
# Statements

The tree of a statement. Every statement knows the line it starts on.

## Main definitions

* `VariableDeclaration`: the variables that one `var`, `let` or `const` introduces
* `Statement`, with `Block`, `Body`, `IfStatement`, `Alternate`, `SwitchCase` and `CatchClause`
* `Statement.line`, `Statement.typeName`: where a statement starts and its kind in messages
-/

namespace ScriptSteps

/-! ## Variables -/

/-- The word that introduces variables. -/
inductive VariableKind where
  | var | let_ | const
deriving DecidableEq, Repr

namespace VariableKind

/-- The word itself. -/
def text : VariableKind → String
  | var => "var"
  | let_ => "let"
  | const => "const"

end VariableKind

/-- One variable and what it starts as. -/
structure VariableDeclarator where
  id : Identifier
  init : Option Expression
deriving Repr

/-- The variables that one word introduces. -/
structure VariableDeclaration where
  kind : VariableKind
  declarations : List VariableDeclarator
  line : Nat
deriving Repr

/-- What a `for` loop starts with. -/
inductive ForInit where
  | declaration (declared : VariableDeclaration)
  | expression (expression : Expression)
deriving Repr

/-! ## Statements -/

mutual

/-- A statement. -/
inductive Statement where
  | declaration (declared : VariableDeclaration)
  | function (id : Identifier) (params : List Identifier) (body : List Statement) (line : Nat)
  | expression (expression : Expression) (line : Nat)
  | block (block : Block)
  | if_ (chain : IfStatement)
  | switch (discriminant : Expression) (cases : List SwitchCase) (line : Nat)
  | while_ (test : Expression) (body : Body) (line : Nat)
  | doWhile (body : Body) (test : Expression) (line : Nat)
  | for_ (init : Option ForInit) (test update : Option Expression) (body : Body) (line : Nat)
  | return_ (argument : Option Expression) (line : Nat)
  | break_ (label : Option Identifier) (line : Nat)
  | continue_ (label : Option Identifier) (line : Nat)
  | throw (argument : Expression) (line : Nat)
  | try_ (block : Block) (handler : Option CatchClause) (finalizer : Option Block) (line : Nat)
  | empty (line : Nat)

/-- Statements in braces, with the line of the opening brace. -/
inductive Block where
  | mk (body : List Statement) (line : Nat)

/-- What a loop repeats or a branch runs. -/
inductive Body where
  | block (block : Block)
  | single (statement : Statement)

/-- An `if` and what its `else` leads to. -/
inductive IfStatement where
  | mk (test : Expression) (consequent : Body) (alternate : Option Alternate) (line : Nat)

/-- The `else` part of an `if`. -/
inductive Alternate where
  /-- A further test of the same chain. -/
  | elseIf (next : IfStatement)
  | else_ (body : Body)

/-- One `case` of a `switch`, or its `default` if there is no test. -/
inductive SwitchCase where
  | mk (test : Option Expression) (consequent : List Statement)

/-- The `catch` part of a `try`. -/
inductive CatchClause where
  | mk (param : Option Identifier) (body : Block)

end

instance : Inhabited Statement := ⟨.empty 1⟩

namespace Block

/-- The statements inside the braces. -/
def body : Block → List Statement
  | mk body _ => body

/-- The line of the opening brace. -/
def line : Block → Nat
  | mk _ line => line

end Block

/-- The line of an `if`. -/
def IfStatement.line : IfStatement → Nat
  | mk _ _ _ line => line

namespace Statement

/-- The line the statement starts on. -/
def line : Statement → Nat
  | declaration declared => declared.line
  | block braces => braces.line
  | if_ chain => chain.line
  | function _ _ _ line | expression _ line | switch _ _ line | while_ _ _ line
  | doWhile _ _ line | for_ _ _ _ _ line | return_ _ line | break_ _ line | continue_ _ line
  | throw _ line | try_ _ _ _ line | empty line => line

/-- The name of the statement's kind in messages. -/
def typeName : Statement → String
  | declaration _ => "VariableDeclaration"
  | function _ _ _ _ => "FunctionDeclaration"
  | expression _ _ => "ExpressionStatement"
  | block _ => "BlockStatement"
  | if_ _ => "IfStatement"
  | switch _ _ _ => "SwitchStatement"
  | while_ _ _ _ => "WhileStatement"
  | doWhile _ _ _ => "DoWhileStatement"
  | for_ _ _ _ _ _ => "ForStatement"
  | return_ _ _ => "ReturnStatement"
  | break_ _ _ => "BreakStatement"
  | continue_ _ _ => "ContinueStatement"
  | throw _ _ => "ThrowStatement"
  | try_ _ _ _ _ => "TryStatement"
  | empty _ => "EmptyStatement"

end Statement

namespace Body

/-- A statement as a body; braces become those of the body. -/
def ofStatement : Statement → Body
  | .block braces => .block braces
  | statement => .single statement

/-- The line of the body's first token. -/
def line : Body → Nat
  | block braces => braces.line
  | single statement => statement.line

end Body

end ScriptSteps
