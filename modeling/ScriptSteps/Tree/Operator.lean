import ScriptSteps.Token.Kind

/-!
# Operators and binding levels

The operators of expressions, the tokens they are written as, and how tightly each binds.

## Main definitions

* `BinaryOperator`, `UnaryOperator`, `UpdateOperator`, `AssignmentOperator`
* `Level`: the 21 binding levels, the loosest first
* `BinaryOperator.level`: the level of a binary operator
-/

namespace ScriptSteps

/-! ## Levels -/

/-- How tightly an expression binds, the loosest level first. -/
inductive Level where
  | sequence | assignment | conditional | coalesce | logicalOr | logicalAnd
  | bitwiseOr | bitwiseXor | bitwiseAnd | equality | relational | shift
  | additive | multiplicative | exponent | unary | postfix_ | call | new | member | primary
deriving DecidableEq, Repr

namespace Level

/-- The rank of a level; a higher rank binds tighter. -/
def rank (l : Level) : Nat := l.ctorIdx

instance : LT Level := ⟨fun a b => a.rank < b.rank⟩

instance : LE Level := ⟨fun a b => a.rank ≤ b.rank⟩

instance (a b : Level) : Decidable (a < b) := inferInstanceAs (Decidable (a.rank < b.rank))

instance (a b : Level) : Decidable (a ≤ b) := inferInstanceAs (Decidable (a.rank ≤ b.rank))

end Level

/-! ## Binary operators -/

/-- The operators between two operands, other than assignments. -/
inductive BinaryOperator where
  | add | subtract | multiply | divide | modulo | exponent
  | equal | notEqual | strictEqual | strictNotEqual
  | lessThan | lessThanEqual | greaterThan | greaterThanEqual
  | logicalAnd | logicalOr | nullishCoalescing
  | bitwiseAnd | bitwiseOr | bitwiseXor | leftShift | rightShift | unsignedRightShift
  | in_ | instanceOf
deriving DecidableEq, Repr

namespace BinaryOperator

/-- The operator as it is written. -/
def text : BinaryOperator → String
  | add => "+"
  | subtract => "-"
  | multiply => "*"
  | divide => "/"
  | modulo => "%"
  | exponent => "**"
  | equal => "=="
  | notEqual => "!="
  | strictEqual => "==="
  | strictNotEqual => "!=="
  | lessThan => "<"
  | lessThanEqual => "<="
  | greaterThan => ">"
  | greaterThanEqual => ">="
  | logicalAnd => "&&"
  | logicalOr => "||"
  | nullishCoalescing => "??"
  | bitwiseAnd => "&"
  | bitwiseOr => "|"
  | bitwiseXor => "^"
  | leftShift => "<<"
  | rightShift => ">>"
  | unsignedRightShift => ">>>"
  | in_ => "in"
  | instanceOf => "instanceof"

/-- The operators that may leave their right operand unevaluated. -/
def isLogical : BinaryOperator → Bool
  | logicalAnd | logicalOr | nullishCoalescing => true
  | _ => false

/-- How tightly the operator binds. -/
def level : BinaryOperator → Level
  | nullishCoalescing => .coalesce
  | logicalOr => .logicalOr
  | logicalAnd => .logicalAnd
  | bitwiseOr => .bitwiseOr
  | bitwiseXor => .bitwiseXor
  | bitwiseAnd => .bitwiseAnd
  | equal | notEqual | strictEqual | strictNotEqual => .equality
  | lessThan | lessThanEqual | greaterThan | greaterThanEqual | in_ | instanceOf => .relational
  | leftShift | rightShift | unsignedRightShift => .shift
  | add | subtract => .additive
  | multiply | divide | modulo => .multiplicative
  | exponent => .exponent

/-- The operator that a token stands for between two operands. The exponent operator groups to
the other side and is not among them. -/
def ofKind? : TokenKind → Option BinaryOperator
  | .keyword .in_ => some in_
  | .keyword .instanceof => some instanceOf
  | .punctuator sign => match sign with
    | .questionQuestion => some nullishCoalescing
    | .pipePipe => some logicalOr
    | .ampersandAmpersand => some logicalAnd
    | .pipe => some bitwiseOr
    | .caret => some bitwiseXor
    | .ampersand => some bitwiseAnd
    | .equalEqual => some equal
    | .notEqual => some notEqual
    | .strictEqual => some strictEqual
    | .strictNotEqual => some strictNotEqual
    | .lessThan => some lessThan
    | .lessThanEqual => some lessThanEqual
    | .greaterThan => some greaterThan
    | .greaterThanEqual => some greaterThanEqual
    | .leftShift => some leftShift
    | .rightShift => some rightShift
    | .unsignedRightShift => some unsignedRightShift
    | .plus => some add
    | .minus => some subtract
    | .star => some multiply
    | .slash => some divide
    | .percent => some modulo
    | _ => none
  | _ => none

end BinaryOperator

/-! ## Unary operators -/

/-- The operators before one operand, other than updates. -/
inductive UnaryOperator where
  | minus | plus | logicalNot | bitwiseNot | typeof | void | delete
deriving DecidableEq, Repr

namespace UnaryOperator

/-- The operator as it is written. -/
def text : UnaryOperator → String
  | minus => "-"
  | plus => "+"
  | logicalNot => "!"
  | bitwiseNot => "~"
  | typeof => "typeof"
  | void => "void"
  | delete => "delete"

/-- The operators written as words. -/
def isWord : UnaryOperator → Bool
  | typeof | void | delete => true
  | minus | plus | logicalNot | bitwiseNot => false

/-- The operator that a token stands for before an operand. -/
def ofKind? : TokenKind → Option UnaryOperator
  | .punctuator .bang => some logicalNot
  | .punctuator .minus => some minus
  | .punctuator .plus => some plus
  | .punctuator .tilde => some bitwiseNot
  | .keyword .typeof => some typeof
  | .keyword .void => some void
  | .keyword .delete => some delete
  | _ => none

end UnaryOperator

/-! ## Updates -/

/-- The operators that change a variable by one. -/
inductive UpdateOperator where
  | increment | decrement
deriving DecidableEq, Repr

namespace UpdateOperator

/-- The operator as it is written. -/
def text : UpdateOperator → String
  | increment => "++"
  | decrement => "--"

/-- The update that a token stands for. -/
def ofKind? : TokenKind → Option UpdateOperator
  | .punctuator .plusPlus => some increment
  | .punctuator .minusMinus => some decrement
  | _ => none

end UpdateOperator

/-! ## Assignments -/

/-- The plain assignment and those that combine the old value with the new one. -/
inductive AssignmentOperator where
  | assign | addAssign | subtractAssign | multiplyAssign | divideAssign | moduloAssign
  | exponentAssign | leftShiftAssign | rightShiftAssign | unsignedRightShiftAssign
  | bitwiseAndAssign | bitwiseOrAssign | bitwiseXorAssign
  | logicalAndAssign | logicalOrAssign | nullishCoalescingAssign
deriving DecidableEq, Repr

namespace AssignmentOperator

/-- The operator as it is written. -/
def text : AssignmentOperator → String
  | assign => "="
  | addAssign => "+="
  | subtractAssign => "-="
  | multiplyAssign => "*="
  | divideAssign => "/="
  | moduloAssign => "%="
  | exponentAssign => "**="
  | leftShiftAssign => "<<="
  | rightShiftAssign => ">>="
  | unsignedRightShiftAssign => ">>>="
  | bitwiseAndAssign => "&="
  | bitwiseOrAssign => "|="
  | bitwiseXorAssign => "^="
  | logicalAndAssign => "&&="
  | logicalOrAssign => "||="
  | nullishCoalescingAssign => "??="

/-- The assignment that a token stands for. -/
def ofKind? : TokenKind → Option AssignmentOperator
  | .punctuator sign => match sign with
    | .equal => some assign
    | .plusEqual => some addAssign
    | .minusEqual => some subtractAssign
    | .starEqual => some multiplyAssign
    | .slashEqual => some divideAssign
    | .percentEqual => some moduloAssign
    | .starStarEqual => some exponentAssign
    | .leftShiftEqual => some leftShiftAssign
    | .rightShiftEqual => some rightShiftAssign
    | .unsignedRightShiftEqual => some unsignedRightShiftAssign
    | .ampersandEqual => some bitwiseAndAssign
    | .pipeEqual => some bitwiseOrAssign
    | .caretEqual => some bitwiseXorAssign
    | .ampersandAmpersandEqual => some logicalAndAssign
    | .pipePipeEqual => some logicalOrAssign
    | .questionQuestionEqual => some nullishCoalescingAssign
    | _ => none
  | _ => none

end AssignmentOperator

end ScriptSteps
