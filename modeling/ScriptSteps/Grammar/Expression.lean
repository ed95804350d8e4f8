import ScriptSteps.Grammar.Cursor

/-!
# The grammar of expressions

One function per rule, from the loosest level to the tightest. Operators between two operands are
read by precedence climbing: `binary floor` takes the operators that bind tighter than `floor`,
and the operand after each of them takes those that bind tighter still.

## Main definitions

* `Grammar.expression`: an expression, with comma sequences
* `Grammar.assignment`: an expression without them
* `Grammar.binary`: operators of one level and above
-/

namespace ScriptSteps.Grammar

/-- The literal that a token stands for. -/
def literalOf? : TokenKind → Option Literal
  | .number value => some (.number value)
  | .string value => some (.string value)
  | .keyword .true_ => some (.boolean true)
  | .keyword .false_ => some (.boolean false)
  | .keyword .null => some .null
  | _ => none

/-- A key of an object literal: a string, a number or a name. -/
def propertyKey (c : Cursor) : Parsed PropertyKey c.size :=
  match c.next? with
  | some (.string value, ⟨d, h⟩) => .ok (.literal (.string value)) d h
  | some (.number value, ⟨d, h⟩) => .ok (.literal (.number value)) d h
  | _ => c.expectName.map .identifier

mutual

/-- An expression: one assignment, or several with commas between them. -/
def expression (c : Cursor) : Parsed Expression c.size :=
  (assignment c).bindLoose fun first c₁ _ =>
  (sequenceRest c₁).map fun rest =>
    if rest.isEmpty then first else .sequence (first :: rest)
termination_by 16 * c.size + 10

/-- The further items of a sequence, each after a comma. -/
def sequenceRest (c : Cursor) : Parsed (List Expression) (c.size + 1) :=
  match c.eat? .comma with
  | none => .done [] c
  | some ⟨c₁, h₁⟩ =>
    .relax <| .resume h₁ <| (assignment c₁).bindLoose fun item c₂ _ =>
    (sequenceRest c₂).map fun rest => item :: rest
termination_by 16 * c.size

/-- A conditional, or a target and what is assigned to it. -/
def assignment (c : Cursor) : Parsed Expression c.size :=
  (conditional c).bindLoose fun target c₁ _ =>
  match c₁.take? AssignmentOperator.ofKind? with
  | none => .done target c₁
  | some (operator, ⟨c₂, h₂⟩) =>
    if target.isTarget then
      .relax <| .resume h₂ <| (assignment c₂).map fun value =>
        .assignment operator target value c.line
    else .error (c₁.fault .assignmentTarget) c₁
termination_by 16 * c.size + 9

/-- Operators and operands, with an optional choice between two further expressions. -/
def conditional (c : Cursor) : Parsed Expression c.size :=
  (binary .conditional c).bindLoose fun test c₁ _ =>
  match c₁.eat? .question with
  | none => .done test c₁
  | some ⟨c₂, h₂⟩ =>
    .relax <| .resume h₂ <| (assignment c₂).bind fun consequent c₃ _ =>
    (c₃.expect .colon).bind fun _ c₄ _ =>
    (assignment c₄).map fun alternate => .conditional test consequent alternate
termination_by 16 * c.size + 8

/-- Operands joined by operators that bind tighter than `floor`. -/
def binary (floor : Level) (c : Cursor) : Parsed Expression c.size :=
  (exponent c).bindLoose fun left c₁ _ => binaryRest floor left c₁
termination_by 16 * c.size + 7

/-- The operators after `left` that bind tighter than `floor`, each with its right operand;
operators of one level group to the left. -/
def binaryRest (floor : Level) (left : Expression) (c : Cursor) :
    Parsed Expression (c.size + 1) :=
  match c.take? BinaryOperator.ofKind? with
  | none => .done left c
  | some (operator, ⟨c₁, h₁⟩) =>
    if operator.level ≤ floor then .done left c
    else
      .relax <| .resume h₁ <| (binary operator.level c₁).bindLoose fun right c₂ _ =>
      binaryRest floor (.binary operator left right) c₂
termination_by 16 * c.size

/-- A base and an optional exponent, which groups to the right. A base that starts with a unary
operator takes no exponent. -/
def exponent (c : Cursor) : Parsed Expression c.size :=
  (unary c).bindLoose fun base c₁ _ =>
  match c₁.eat? .starStar with
  | none => .done base c₁
  | some ⟨c₂, h₂⟩ =>
    if (UnaryOperator.ofKind? c.kind).isSome then .error (c₁.fault .unaryBeforeExponent) c₁
    else .relax <| .resume h₂ <| (exponent c₂).map fun power => .binary .exponent base power
termination_by 16 * c.size + 6

/-- Updates and unary operators before an operand. -/
def unary (c : Cursor) : Parsed Expression c.size :=
  match c.take? UpdateOperator.ofKind? with
  | some (operator, ⟨c₁, h₁⟩) =>
    .resume h₁ <| (unary c₁).bindLoose fun argument c₂ _ =>
    if argument.isTarget then .done (.update operator argument true c.line) c₂
    else .error (c₂.fault .updateTarget) c₂
  | none =>
    match c.take? UnaryOperator.ofKind? with
    | some (operator, ⟨c₁, h₁⟩) =>
      .resume h₁ <| (unary c₁).map fun argument => .unary operator argument
    | none => postfix_ c
termination_by 16 * c.size + 5

/-- An operand with an optional update after it, on the same line. -/
def postfix_ (c : Cursor) : Parsed Expression c.size :=
  (call c).bindLoose fun argument c₁ _ =>
  match c₁.take? UpdateOperator.ofKind? with
  | none => .done argument c₁
  | some (operator, ⟨c₂, h₂⟩) =>
    if c₁.line = c₁.previousLine then
      if argument.isTarget then .relax (.ok (.update operator argument false c.line) c₂ h₂)
      else .error (c₁.fault .updateTarget) c₁
    else .done argument c₁
termination_by 16 * c.size + 4

/-- A `new` expression or a primary one, with the calls and accesses after it. -/
def call (c : Cursor) : Parsed Expression c.size :=
  (operand c).bindLoose fun callee c₁ _ => suffixes true callee c₁
termination_by 16 * c.size + 3

/-- A `new` expression or a primary one. The callee of `new` ends before the first argument list,
and that list may be left out. -/
def operand (c : Cursor) : Parsed Expression c.size :=
  match c.eatWord? .new with
  | none => primary c
  | some ⟨c₁, h₁⟩ =>
    .resume h₁ <| (operand c₁).bindLoose fun inner c₂ _ =>
    (suffixes false inner c₂).bindLoose fun callee c₃ _ =>
    match c₃.eat? .leftParen with
    | none => .done (.new callee []) c₃
    | some ⟨c₄, h₄⟩ =>
      .relax <| .resume h₄ <| (arguments c₄).map fun arguments => .new callee arguments
termination_by 16 * c.size + 2

/-- The accesses after an expression and, if `calls` is set, the argument lists. -/
def suffixes (calls : Bool) (object : Expression) (c : Cursor) :
    Parsed Expression (c.size + 1) :=
  match c.next? with
  | some (.punctuator .dot, ⟨c₁, h₁⟩) =>
    .relax <| .resume h₁ <| c₁.expectName.bindLoose fun property c₂ _ =>
    suffixes calls (.member object property) c₂
  | some (.punctuator .leftBracket, ⟨c₁, h₁⟩) =>
    .relax <| .resume h₁ <| (expression c₁).bind fun property c₂ _ =>
    (c₂.expect .rightBracket).bindLoose fun _ c₃ _ =>
    suffixes calls (.index object property) c₃
  | some (.punctuator .leftParen, ⟨c₁, h₁⟩) =>
    if calls then
      .relax <| .resume h₁ <| (arguments c₁).bindLoose fun arguments c₂ _ =>
      suffixes calls (.call object arguments) c₂
    else .done object c
  | _ => .done object c
termination_by 16 * c.size

/-- The arguments of a call after the opening parenthesis, with the closing one. -/
def arguments (c : Cursor) : Parsed (List Expression) c.size :=
  match c.eat? .rightParen with
  | some ⟨c₁, h₁⟩ => .ok [] c₁ h₁
  | none =>
    (assignment c).bind fun item c₁ _ =>
    match c₁.eat? .comma with
    | some ⟨c₂, h₂⟩ => .resume h₂ <| (arguments c₂).map fun items => item :: items
    | none => (c₁.expect .rightParen).map fun _ => [item]
termination_by 16 * c.size + 10

/-- A literal, a name, `this`, or something in brackets. -/
def primary (c : Cursor) : Parsed Expression c.size :=
  match c.take? literalOf? with
  | some (value, ⟨c₁, h₁⟩) => .ok (.literal value) c₁ h₁
  | none =>
    match c.next? with
    | some (.identifier name, ⟨c₁, h₁⟩) => .ok (.identifier ⟨name, c.line⟩) c₁ h₁
    | some (.keyword .this, ⟨c₁, h₁⟩) => .ok .this c₁ h₁
    | some (.punctuator .leftParen, ⟨c₁, h₁⟩) =>
      .resume h₁ <| (expression c₁).bind fun inner c₂ _ =>
      (c₂.expect .rightParen).map fun _ => inner
    | some (.punctuator .leftBracket, ⟨c₁, h₁⟩) => .resume h₁ <| (elements c₁).map .array
    | some (.punctuator .leftBrace, ⟨c₁, h₁⟩) => .resume h₁ <| (properties c₁).map .object
    | some (.keyword .function, _) => .error (.unsupported "FunctionExpression" c.line) c
    | some (.keyword .class_, _) => .error (.unsupported "ClassExpression" c.line) c
    | _ => .error c.unexpected c
termination_by 16 * c.size + 1

/-- The elements of an array literal after the opening bracket, with the closing one. -/
def elements (c : Cursor) : Parsed (List (Option Expression)) c.size :=
  match c.eat? .rightBracket with
  | some ⟨c₁, h₁⟩ => .ok [] c₁ h₁
  | none =>
    match c.eat? .comma with
    | some ⟨c₁, h₁⟩ => .resume h₁ <| (elements c₁).map fun rest => none :: rest
    | none =>
      (assignment c).bind fun item c₁ _ =>
      match c₁.eat? .rightBracket with
      | some ⟨c₂, h₂⟩ => .ok [some item] c₂ h₂
      | none =>
        (c₁.expect .comma).bind fun _ c₂ _ =>
        (elements c₂).map fun rest => some item :: rest
termination_by 16 * c.size + 10

/-- The properties of an object literal after the opening brace, with the closing one. -/
def properties (c : Cursor) : Parsed (List (PropertyKey × Expression)) c.size :=
  match c.eat? .rightBrace with
  | some ⟨c₁, h₁⟩ => .ok [] c₁ h₁
  | none =>
    (propertyKey c).bind fun key c₁ _ =>
    (c₁.expect .colon).bind fun _ c₂ _ =>
    (assignment c₂).bind fun value c₃ _ =>
    match c₃.eat? .rightBrace with
    | some ⟨c₄, h₄⟩ => .ok [(key, value)] c₄ h₄
    | none =>
      (c₃.expect .comma).bind fun _ c₄ _ =>
      (properties c₄).map fun rest => (key, value) :: rest
termination_by 16 * c.size + 10

end

/-- An expression in parentheses. -/
def parenthesized (c : Cursor) : Parsed Expression c.size :=
  (c.expect .leftParen).bind fun _ c₁ _ =>
  (expression c₁).bind fun inner c₂ _ =>
  (c₂.expect .rightParen).map fun _ => inner

end ScriptSteps.Grammar
