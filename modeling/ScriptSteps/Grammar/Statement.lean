import ScriptSteps.Grammar.Expression
import ScriptSteps.Tree.Statement

/-!
# The grammar of statements

The first token of a statement selects its rule. Rules for statements that start with a reserved
word are given the line of that word and the cursor after it.

## Main definitions

* `Grammar.statement`: one statement
* `Grammar.program`: the statements of a whole text
-/

namespace ScriptSteps.Grammar

/-! ## Parts without statements in them -/

/-- The word that introduces variables, if a token is one. -/
def variableKindOf? : TokenKind → Option VariableKind
  | .keyword .var => some .var
  | .keyword .let_ => some .let_
  | .keyword .const => some .const
  | _ => none

/-- What a variable starts as. A constant needs a value, unless the declaration turns out to be
the head of a loop over a collection. -/
def initializer (kind : VariableKind) (c : Cursor) : Parsed (Option Expression) (c.size + 1) :=
  match c.eat? .equal with
  | some ⟨c₁, h₁⟩ => .relax <| .resume h₁ <| (assignment c₁).map some
  | none =>
    if kind = .const ∧ c.kind ≠ .keyword .in_ ∧ c.kind ≠ .identifier "of" then
      .error (c.fault .missingInitializer) c
    else .done none c

/-- Variables with commas between them. -/
def declarators (kind : VariableKind) (c : Cursor) : Parsed (List VariableDeclarator) c.size :=
  c.expectName.bindLoose fun id c₁ _ =>
  (initializer kind c₁).bindLoose fun init c₂ _ =>
  match c₂.eat? .comma with
  | none => .done [⟨id, init⟩] c₂
  | some ⟨c₃, h₃⟩ =>
    .relax <| .resume h₃ <| (declarators kind c₃).map fun rest => ⟨id, init⟩ :: rest
termination_by c.size

/-- The variables after the word that introduces them. -/
def declaration (kind : VariableKind) (line : Nat) (c : Cursor) :
    Parsed VariableDeclaration c.size :=
  (declarators kind c).map fun declarations => ⟨kind, declarations, line⟩

/-- The variables of a statement and its end. -/
def declarationStatement (kind : VariableKind) (line : Nat) (c : Cursor) :
    Parsed Statement c.size :=
  (declaration kind line c).bindLoose fun declared c₁ _ =>
  c₁.endStatement.map fun _ => .declaration declared

/-- The parameters of a function after the opening parenthesis, with the closing one. -/
def parameters (c : Cursor) : Parsed (List Identifier) c.size :=
  match c.eat? .rightParen with
  | some ⟨c₁, h₁⟩ => .ok [] c₁ h₁
  | none =>
    c.expectName.bind fun id c₁ _ =>
    match c₁.eat? .comma with
    | some ⟨c₂, h₂⟩ => .resume h₂ <| (parameters c₂).map fun ids => id :: ids
    | none => (c₁.expect .rightParen).map fun _ => [id]
termination_by c.size

/-- The label of a jump, on the line of its word, and the end of the statement. -/
def jump (line : Nat) (c : Cursor) : Parsed (Option Identifier) (c.size + 1) :=
  match c.eatName? with
  | some (label, ⟨c₁, h₁⟩) =>
    if c.line = line then .relax <| .resumeLoose h₁ <| c₁.endStatement.map fun _ => some label
    else c.endStatement.map fun _ => none
  | none => c.endStatement.map fun _ => none

/-- What a function returns: nothing where the line or the statement ends. -/
def returned (line : Nat) (c : Cursor) : Parsed (Option Expression) (c.size + 1) :=
  if c.kind = .punctuator .semicolon ∨ c.kind = .punctuator .rightBrace ∨ c.kind = .endOfInput
      ∨ c.line ≠ line then
    c.endStatement.map fun _ => none
  else
    .relax <| (expression c).bindLoose fun argument c₁ _ =>
    c₁.endStatement.map fun _ => some argument

/-- What is thrown, on the line of the word. -/
def thrown (line : Nat) (c : Cursor) : Parsed Expression (c.size + 1) :=
  if c.line ≠ line then .error (c.fault .newlineAfterThrow) c
  else
    .relax <| (expression c).bindLoose fun argument c₁ _ =>
    c₁.endStatement.map fun _ => argument

/-- Whether a label comes next: a name with a colon right after it. -/
def atLabel (c : Cursor) : Bool :=
  match c.eatName? with
  | some (_, ⟨c₁, _⟩) => c₁.kind = .punctuator .colon
  | none => false

/-- An expression as a statement. -/
def expressionStatement (c : Cursor) : Parsed Statement c.size :=
  if atLabel c then .error (.unsupported "LabeledStatement" c.line) c
  else
    (expression c).bindLoose fun value c₁ _ =>
    c₁.endStatement.map fun _ => .expression value c.line

/-- What a `for` loop starts with, up to the token after it. -/
def forInit (c : Cursor) : Parsed (Option ForInit) (c.size + 1) :=
  match c.take? variableKindOf? with
  | some (kind, ⟨c₁, h₁⟩) =>
    .relax <| .resume h₁ <| (declaration kind c.line c₁).map fun declared =>
      some (.declaration declared)
  | none =>
    if c.kind = .punctuator .semicolon then .done none c
    else .relax <| (expression c).map fun value => some (.expression value)

/-- The loop over a collection that the start of a `for` loop turns out to be. With a name alone
before it, `in` is read as an operator of the starting expression. -/
def collectionLoop? (init : Option ForInit) (c : Cursor) : Option String :=
  let isMembership : Bool := match init with
    | some (.expression (.binary .in_ _ _)) => true
    | _ => false
  if (isMembership ∧ c.kind = .punctuator .rightParen) ∨ c.kind = .keyword .in_ then
    some "ForInStatement"
  else if c.kind = .identifier "of" then some "ForOfStatement"
  else none

/-- An optional clause of a `for` loop, with the punctuator that ends it. -/
def forClause (close : Punctuator) (c : Cursor) : Parsed (Option Expression) c.size :=
  match c.eat? close with
  | some ⟨c₁, h₁⟩ => .ok none c₁ h₁
  | none =>
    (expression c).bind fun value c₁ _ =>
    (c₁.expect close).map fun _ => some value

/-- The head of a `for` loop, in its parentheses. -/
def forHead (line : Nat) (c : Cursor) :
    Parsed (Option ForInit × Option Expression × Option Expression) c.size :=
  (c.expect .leftParen).bindLoose fun _ c₁ _ =>
  (forInit c₁).bind fun init c₂ _ =>
  match collectionLoop? init c₂ with
  | some construct => .error (.unsupported construct line) c₂
  | none =>
    (c₂.expect .semicolon).bind fun _ c₃ _ =>
    (forClause .semicolon c₃).bind fun test c₄ _ =>
    (forClause .rightParen c₄).map fun update => (init, test, update)

/-- The test of a `case`, or none for `default`, with the colon after it. -/
def caseTest (c : Cursor) : Parsed (Option Expression) c.size :=
  match c.eatWord? .case with
  | some ⟨c₁, h₁⟩ =>
    .resume h₁ <| (expression c₁).bind fun test c₂ _ =>
    (c₂.expect .colon).map fun _ => some test
  | none =>
    match c.eatWord? .default with
    | some ⟨c₁, h₁⟩ => .resume h₁ <| (c₁.expect .colon).map fun _ => none
    | none => .error c.unexpected c

/-- The parameter of a `catch`, if it has one. -/
def catchParameter (c : Cursor) : Parsed (Option Identifier) (c.size + 1) :=
  match c.eat? .leftParen with
  | none => .done none c
  | some ⟨c₁, h₁⟩ =>
    .relax <| .resume h₁ <| c₁.expectName.bind fun id c₂ _ =>
    (c₂.expect .rightParen).map fun _ => some id

/-! ## Statements -/

/-- One test of an `if` chain with what it guards. -/
structure Rung where
  test : Expression
  body : Body
  line : Nat

/-- The tests of an `if` chain, the first one apart, and the final `else`. -/
def linkRungs (first : Rung) (rest : List Rung) (last : Option Body) : IfStatement :=
  let alternate := rest.foldr
    (fun rung alternate => some (.elseIf (.mk rung.test rung.body alternate rung.line)))
    (last.map Alternate.else_)
  .mk first.test first.body alternate first.line

mutual

/-- One statement. -/
def statement (c : Cursor) : Parsed Statement c.size :=
  match c.next? with
  | some (.keyword word, ⟨c₁, h₁⟩) =>
    match word with
    | .var => .resume h₁ <| declarationStatement .var c.line c₁
    | .let_ => .resume h₁ <| declarationStatement .let_ c.line c₁
    | .const => .resume h₁ <| declarationStatement .const c.line c₁
    | .function => .resume h₁ <| function c.line c₁
    | .if_ => .resume h₁ <| ifStatement c.line c₁
    | .switch => .resume h₁ <| switch c.line c₁
    | .while_ =>
      .resume h₁ <| (parenthesized c₁).bind fun test c₂ _ =>
      (body c₂).map fun inner => .while_ test inner c.line
    | .do_ => .resume h₁ <| doWhile c.line c₁
    | .for_ =>
      .resume h₁ <| (forHead c.line c₁).bind fun (init, test, update) c₂ _ =>
      (body c₂).map fun inner => .for_ init test update inner c.line
    | .return_ =>
      .resumeLoose h₁ <| (returned c.line c₁).map fun argument => .return_ argument c.line
    | .break_ => .resumeLoose h₁ <| (jump c.line c₁).map fun label => .break_ label c.line
    | .continue_ => .resumeLoose h₁ <| (jump c.line c₁).map fun label => .continue_ label c.line
    | .throw => .resumeLoose h₁ <| (thrown c.line c₁).map fun argument => .throw argument c.line
    | .try_ => .resume h₁ <| tryStatement c.line c₁
    | _ => expressionStatement c
  | some (.punctuator .leftBrace, _) => (block c).map .block
  | some (.punctuator .semicolon, ⟨c₁, h₁⟩) => .ok (.empty c.line) c₁ h₁
  | _ => expressionStatement c
termination_by 4 * c.size + 2

/-- The statements before a token of kind `close` or the end of the text. -/
def statements (close : TokenKind) (c : Cursor) : Parsed (List Statement) (c.size + 1) :=
  if c.kind = close ∨ c.kind = .endOfInput then .done [] c
  else
    .relax <| (statement c).bindLoose fun first c₁ _ =>
    (statements close c₁).map fun rest => first :: rest
termination_by 4 * c.size + 3

/-- Statements in braces. -/
def block (c : Cursor) : Parsed Block c.size :=
  (c.expect .leftBrace).bindLoose fun _ c₁ _ =>
  (statements (.punctuator .rightBrace) c₁).bind fun inner c₂ _ =>
  (c₂.expect .rightBrace).map fun _ => .mk inner c.line
termination_by 4 * c.size + 1

/-- What a loop repeats or a branch runs. -/
def body (c : Cursor) : Parsed Body c.size := (statement c).map .ofStatement
termination_by 4 * c.size + 3

/-- A function after its reserved word. -/
def function (line : Nat) (c : Cursor) : Parsed Statement c.size :=
  c.expectName.bind fun id c₁ _ =>
  (c₁.expect .leftParen).bind fun _ c₂ _ =>
  (parameters c₂).bind fun params c₃ _ =>
  (block c₃).map fun inner => .function id params inner.body line
termination_by 4 * c.size

/-- An `if` after its reserved word, with all that its `else` parts lead to. -/
def ifStatement (line : Nat) (c : Cursor) : Parsed Statement c.size :=
  (rung line c).bindLoose fun first c₁ _ =>
  (rungs c₁).map fun (rest, last) => .if_ (linkRungs first rest last)
termination_by 4 * c.size + 2

/-- A test in parentheses and what it guards. -/
def rung (line : Nat) (c : Cursor) : Parsed Rung c.size :=
  (parenthesized c).bind fun test c₁ _ =>
  (body c₁).map fun inner => ⟨test, inner, line⟩
termination_by 4 * c.size + 1

/-- The further tests of an `if` chain, and its final `else`. -/
def rungs (c : Cursor) : Parsed (List Rung × Option Body) (c.size + 1) :=
  match c.eatWord? .else_ with
  | none => .done ([], none) c
  | some ⟨c₁, h₁⟩ =>
    match c₁.eatWord? .if_ with
    | some ⟨c₂, h₂⟩ =>
      .relax <| .resume h₁ <| .resume h₂ <| (rung c₁.line c₂).bindLoose fun first c₃ _ =>
      (rungs c₃).map fun (rest, last) => (first :: rest, last)
    | none => .relax <| .resume h₁ <| (body c₁).map fun last => ([], some last)
termination_by 4 * c.size

/-- A `switch` after its reserved word. -/
def switch (line : Nat) (c : Cursor) : Parsed Statement c.size :=
  (parenthesized c).bind fun discriminant c₁ _ =>
  (c₁.expect .leftBrace).bind fun _ c₂ _ =>
  (cases c₂).map fun cases => .switch discriminant cases line
termination_by 4 * c.size

/-- The cases of a `switch`, with the closing brace. -/
def cases (c : Cursor) : Parsed (List SwitchCase) c.size :=
  match c.eat? .rightBrace with
  | some ⟨c₁, h₁⟩ => .ok [] c₁ h₁
  | none =>
    (caseTest c).bindLoose fun test c₁ _ =>
    (caseBody c₁).bind fun consequent c₂ _ =>
    (cases c₂).map fun rest => .mk test consequent :: rest
termination_by 4 * c.size

/-- The statements of a case. -/
def caseBody (c : Cursor) : Parsed (List Statement) (c.size + 1) :=
  if c.kind = .keyword .case ∨ c.kind = .keyword .default ∨ c.kind = .punctuator .rightBrace
      ∨ c.kind = .endOfInput then .done [] c
  else
    .relax <| (statement c).bindLoose fun first c₁ _ =>
    (caseBody c₁).map fun rest => first :: rest
termination_by 4 * c.size + 3

/-- A `do` loop after its reserved word; the semicolon at its end may always be left out. -/
def doWhile (line : Nat) (c : Cursor) : Parsed Statement c.size :=
  (body c).bind fun inner c₁ _ =>
  (c₁.expectWord .while_).bind fun _ c₂ _ =>
  (parenthesized c₂).bindLoose fun test c₃ _ =>
  match c₃.eat? .semicolon with
  | some ⟨c₄, h₄⟩ => .relax (.ok (.doWhile inner test line) c₄ h₄)
  | none => .done (.doWhile inner test line) c₃
termination_by 4 * c.size + 4

/-- A `try` after its reserved word. -/
def tryStatement (line : Nat) (c : Cursor) : Parsed Statement c.size :=
  (block c).bindLoose fun inner c₁ _ =>
  (handler c₁).bindLoose fun handler c₂ _ =>
  (finalizer c₂).bindLoose fun finalizer c₃ _ =>
  if handler.isNone && finalizer.isNone then .error (c₃.fault .missingHandler) c₃
  else .done (.try_ inner handler finalizer line) c₃
termination_by 4 * c.size + 2

/-- The `catch` part of a `try`, if it has one. -/
def handler (c : Cursor) : Parsed (Option CatchClause) (c.size + 1) :=
  match c.eatWord? .catch_ with
  | none => .done none c
  | some ⟨c₁, h₁⟩ =>
    .relax <| .resumeLoose h₁ <| (catchParameter c₁).bind fun param c₂ _ =>
    (block c₂).map fun inner => some (.mk param inner)
termination_by 4 * c.size

/-- The `finally` part of a `try`, if it has one. -/
def finalizer (c : Cursor) : Parsed (Option Block) (c.size + 1) :=
  match c.eatWord? .finally_ with
  | none => .done none c
  | some ⟨c₁, h₁⟩ => .relax <| .resume h₁ <| (block c₁).map some
termination_by 4 * c.size

end

/-! ## Programs -/

/-- The statements up to the end of the text. -/
def program (c : Cursor) : Parsed (List Statement) (c.size + 1) := statements .endOfInput c

end ScriptSteps.Grammar
