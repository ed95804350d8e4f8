import ScriptSteps.Tree.Operator

/-!
# Expressions

The tree of an expression. Identifiers, assignments and updates know the line they start on.

## Main definitions

* `Identifier`, `Literal`, `PropertyKey`: the leaves
* `Expression`: the tree
* `Expression.typeName`: the name of a node's kind in messages
* `Expression.level`: how tightly an expression binds
-/

namespace ScriptSteps

/-- A name and the line it stands on. -/
structure Identifier where
  name : String
  line : Nat
deriving DecidableEq, Repr

/-- A literal value. -/
inductive Literal where
  | number (value : Binary64)
  | string (value : String)
  | boolean (value : Bool)
  | null
deriving DecidableEq, Repr

/-- The key of an object's property. -/
inductive PropertyKey where
  | identifier (id : Identifier)
  | literal (value : Literal)
deriving DecidableEq, Repr

/-- An expression. -/
inductive Expression where
  | literal (value : Literal)
  | identifier (id : Identifier)
  | this
  /-- An array literal; an element left out is `none`. -/
  | array (elements : List (Option Expression))
  | object (properties : List (PropertyKey × Expression))
  | binary (operator : BinaryOperator) (left right : Expression)
  | unary (operator : UnaryOperator) (argument : Expression)
  | assignment (operator : AssignmentOperator) (left right : Expression) (line : Nat)
  | call (callee : Expression) (arguments : List Expression)
  /-- An access by name, `object.property`. -/
  | member (object : Expression) (property : Identifier)
  /-- An access by value, `object[property]`. -/
  | index (object property : Expression)
  | conditional (test consequent alternate : Expression)
  | new (callee : Expression) (arguments : List Expression)
  /-- A step by one, before or after the variable is read. -/
  | update (operator : UpdateOperator) (argument : Expression) (isPrefix : Bool) (line : Nat)
  | sequence (expressions : List Expression)
deriving Repr, Inhabited

namespace Expression

/-- The name of the expression's kind in messages. -/
def typeName : Expression → String
  | literal _ => "Literal"
  | identifier _ => "Identifier"
  | this => "ThisExpression"
  | array _ => "ArrayExpression"
  | object _ => "ObjectExpression"
  | binary operator _ _ => if operator.isLogical then "LogicalExpression" else "BinaryExpression"
  | unary _ _ => "UnaryExpression"
  | assignment _ _ _ _ => "AssignmentExpression"
  | call _ _ => "CallExpression"
  | member _ _ | index _ _ => "MemberExpression"
  | conditional _ _ _ => "ConditionalExpression"
  | new _ _ => "NewExpression"
  | update _ _ _ _ => "UpdateExpression"
  | sequence _ => "SequenceExpression"

/-- How tightly the expression binds. -/
def level : Expression → Level
  | sequence _ => .sequence
  | assignment _ _ _ _ => .assignment
  | conditional _ _ _ => .conditional
  | binary operator _ _ => operator.level
  | unary _ _ => .unary
  | update _ _ isPrefix _ => if isPrefix then .unary else .postfix_
  | call _ _ => .call
  | new _ _ => .new
  | member _ _ | index _ _ => .member
  | literal _ | identifier _ | this | array _ | object _ => .primary

/-- The expressions that can be assigned to and updated. -/
def isTarget : Expression → Bool
  | identifier _ | member _ _ | index _ _ => true
  | _ => false

end Expression

end ScriptSteps
