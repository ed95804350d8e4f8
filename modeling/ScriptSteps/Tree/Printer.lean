import ScriptSteps.Text.Visible
import ScriptSteps.Tree.Statement

/-!
# Writing trees as text

Expressions are written on one line: one space around each operator, strings in single quotes, and
parentheses only where the tree would be read differently without them.

## Main definitions

* `Literal.render`: numbers and strings
* `Expression.render`, `VariableDeclaration.render`: trees
* `Renderer`: any way to write expressions and declarations; `Renderer.canonical` is the above
-/

namespace ScriptSteps

/-! ## Literals -/

/-- Scripts write numbers from `10 ^ -6` up to `10 ^ 21` without an exponent and do not show the
sign of zero. -/
def scriptNumbers : NumberLayout where
  isPositional point := decide (-5 ≤ point ∧ point ≤ 21)
  infinity := "Infinity"
  notANumber := "NaN"
  signsZero := false

/-- Two hexadecimal digits, in upper case. -/
def hexByte (n : Nat) : List Char :=
  let digit (k : Nat) : Char := if k < 10 then Char.ofNat (48 + k) else Char.ofNat (55 + k)
  [digit (n / 16 % 16), digit (n % 16)]

/-- A character as it stands in a string literal. -/
def escapedChar (c : Char) : List Char :=
  if c = '\'' then ['\\', '\'']
  else if c = '\\' then ['\\', '\\']
  else if c = '\n' then ['\\', 'n']
  else if c = '\r' then ['\\', 'r']
  else if c = '\t' then ['\\', 't']
  else if c = '\x08' then ['\\', 'b']
  else if c = '\x0c' then ['\\', 'f']
  else if c = '\x0b' then ['\\', 'v']
  else if c = '\u2028' then ['\\', 'u', '2', '0', '2', '8']
  else if c = '\u2029' then ['\\', 'u', '2', '0', '2', '9']
  else if Text.isControl c then ['\\', 'x'] ++ hexByte c.toNat
  else [c]

/-- A string literal in single quotes. -/
def renderString (s : String) : String :=
  String.ofList ('\'' :: s.toList.flatMap escapedChar ++ ['\''])

/-- A literal as text. -/
def Literal.render : Literal → String
  | number value => scriptNumbers.write value
  | string value => renderString value
  | boolean true => "true"
  | boolean false => "false"
  | null => "null"

/-- A property's key as text. -/
def PropertyKey.render : PropertyKey → String
  | identifier id => id.name
  | literal value => value.render

/-! ## Parentheses -/

/-- A text in parentheses, where they are needed. -/
def parenthesizeIf (needed : Bool) (text : String) : String :=
  if needed then "(" ++ text ++ ")" else text

/-- Texts with a comma and a space between them. -/
def commaSeparated (texts : List String) : String := String.intercalate ", " texts

/-- Whether an operator of one kind joins an operand of the other, out of `??` and the pair of
`&&` and `||`. The two kinds are never mixed without parentheses. -/
def mixesNullish (operator : BinaryOperator) (operand : Expression) : Bool :=
  let isAndOr (o : BinaryOperator) : Bool := o == .logicalAnd || o == .logicalOr
  match operand with
  | .binary inner _ _ =>
    (operator == .nullishCoalescing && isAndOr inner)
      || (isAndOr operator && inner == .nullishCoalescing)
  | _ => false

/-- Whether a left operand needs parentheses: if it binds looser, and, since the exponent operator
groups to the right and takes no bare unary operator on its left, there also if it binds equally
or is unary. -/
def leftNeedsParens (operator : BinaryOperator) (left : Expression) : Bool :=
  match operator, left with
  | .exponent, .unary _ _ => true
  | _, _ =>
    decide (left.level < operator.level)
      || (operator == .exponent && left.level == operator.level)
      || mixesNullish operator left

/-- Whether a right operand needs parentheses: if it binds looser, or equally where the operator
groups to the left. -/
def rightNeedsParens (operator : BinaryOperator) (right : Expression) : Bool :=
  decide (right.level < operator.level)
    || (operator != .exponent && right.level == operator.level)
    || mixesNullish operator right

/-- Whether a callee of `new` has an argument list that would be taken for that of `new`. -/
def containsCall : Expression → Bool
  | .call _ _ => true
  | .member object _ | .index object _ => containsCall object
  | _ => false

/-- The object of an access as text. A number without a point would swallow the dot after it. -/
def accessed (object : Expression) (text : String) : String :=
  match object with
  | .literal (.number _) => parenthesizeIf (text.toList.all Char.isDigit) text
  | _ => parenthesizeIf (decide (object.level < .call)) text

/-- Whether a space separates a unary operator from its operand: after a word, and where two signs
would be read as one. -/
def spacesOperand (operator : UnaryOperator) (operand : String) : Bool :=
  let fuses := match operator with
    | .minus => operand.toList.head? == some '-'
    | .plus => operand.toList.head? == some '+'
    | _ => false
  operator.isWord || fuses

/-! ## Expressions -/

mutual

/-- An expression as text. -/
def Expression.render : Expression → String
  | .literal value => value.render
  | .identifier id => id.name
  | .this => "this"
  | .array elements =>
    let hole := match elements.getLast? with
      | some none => ","
      | _ => ""
    "[" ++ commaSeparated (renderElements elements) ++ hole ++ "]"
  | .object properties =>
    if properties.isEmpty then "\x7b\x7d"
    else "\x7b " ++ commaSeparated (renderProperties properties) ++ " \x7d"
  | .binary operator left right =>
    parenthesizeIf (leftNeedsParens operator left) left.render ++ " " ++ operator.text ++ " "
      ++ parenthesizeIf (rightNeedsParens operator right) right.render
  | .unary operator argument =>
    let operand := parenthesizeIf (decide (argument.level < .unary)) argument.render
    operator.text ++ (if spacesOperand operator operand then " " else "") ++ operand
  | .assignment operator left right _ =>
    left.render ++ " " ++ operator.text ++ " "
      ++ parenthesizeIf (decide (right.level < .assignment)) right.render
  | .call callee arguments =>
    parenthesizeIf (decide (callee.level < .call)) callee.render
      ++ "(" ++ commaSeparated (renderItems arguments) ++ ")"
  | .member object property => accessed object object.render ++ "." ++ property.name
  | .index object property => accessed object object.render ++ "[" ++ property.render ++ "]"
  | .conditional test consequent alternate =>
    parenthesizeIf (decide (test.level < .coalesce)) test.render
      ++ " ? " ++ parenthesizeIf (decide (consequent.level < .assignment)) consequent.render
      ++ " : " ++ parenthesizeIf (decide (alternate.level < .assignment)) alternate.render
  | .new callee arguments =>
    "new " ++ parenthesizeIf (containsCall callee || decide (callee.level < .member)) callee.render
      ++ "(" ++ commaSeparated (renderItems arguments) ++ ")"
  | .update operator argument isPrefix _ =>
    let operand := parenthesizeIf (decide (argument.level < .postfix_)) argument.render
    if isPrefix then operator.text ++ operand else operand ++ operator.text
  | .sequence expressions => commaSeparated (renderItems expressions)

/-- The items of a comma separated list. -/
def renderItems : List Expression → List String
  | [] => []
  | item :: items =>
    parenthesizeIf (decide (item.level < .assignment)) item.render :: renderItems items

/-- The elements of an array; one left out is empty. -/
def renderElements : List (Option Expression) → List String
  | [] => []
  | none :: items => "" :: renderElements items
  | some item :: items =>
    parenthesizeIf (decide (item.level < .assignment)) item.render :: renderElements items

/-- The properties of an object. -/
def renderProperties : List (PropertyKey × Expression) → List String
  | [] => []
  | (key, value) :: properties =>
    (key.render ++ ": " ++ parenthesizeIf (decide (value.level < .assignment)) value.render)
      :: renderProperties properties

end

/-! ## Declarations -/

/-- A variable with what it starts as. -/
def VariableDeclarator.render (d : VariableDeclarator) : String :=
  match d.init with
  | none => d.id.name
  | some init =>
    d.id.name ++ " = " ++ parenthesizeIf (decide (init.level < .assignment)) init.render

/-- A declaration without the semicolon after it. -/
def VariableDeclaration.render (d : VariableDeclaration) : String :=
  d.kind.text ++ " " ++ commaSeparated (d.declarations.map (·.render))

/-- A way to write expressions and declarations. -/
structure Renderer where
  expression : Expression → String
  declaration : VariableDeclaration → String

/-- The way this library writes them. -/
def Renderer.canonical : Renderer := ⟨Expression.render, VariableDeclaration.render⟩

end ScriptSteps
