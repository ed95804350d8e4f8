import Mathlib
import ScriptSteps.Proofs.Tree.Shape
import ScriptSteps.Tree.Printer

/-!
# Trees on later lines

The same tree as if its text stood some lines further down. Nothing that is written of a tree tells
the two apart.

## Main definitions

* `HasLines`: what has lines in it, and can be moved to later ones
* `Expression.addLines`, `Statement.addLines`: trees on later lines

## Main statements

* `Expression.render_addLines`: what is written of an expression does not depend on its lines
-/

namespace ScriptSteps

/-- What has lines in it, and can be moved to later ones. -/
class HasLines (α : Type) where
  /-- The same with a number added to every line. -/
  moved : ℕ → α → α

export HasLines (moved)

instance : HasLines Unit := ⟨fun _ value => value⟩

instance {α : Type} [HasLines α] : HasLines (Option α) := ⟨fun k => Option.map (moved k)⟩

instance {α : Type} [HasLines α] : HasLines (List α) := ⟨fun k => List.map (moved k)⟩

instance {α β : Type} [HasLines α] [HasLines β] : HasLines (α × β) :=
  ⟨fun k => Prod.map (moved k) (moved k)⟩

section Containers

variable {α β : Type} [HasLines α] [HasLines β] (k : ℕ)

@[simp] theorem moved_option (value : Option α) : moved k value = value.map (moved k) := rfl

@[simp] theorem moved_list (values : List α) : moved k values = values.map (moved k) := rfl

@[simp] theorem moved_pair (value : α × β) :
    moved k value = (moved k value.1, moved k value.2) := rfl

end Containers

/-! ## Expressions -/

/-- A name on a later line. -/
def Identifier.addLines (k : ℕ) (id : Identifier) : Identifier := { id with line := id.line + k }

/-- A key on a later line. -/
def PropertyKey.addLines (k : ℕ) : PropertyKey → PropertyKey
  | .identifier id => .identifier (id.addLines k)
  | .literal value => .literal value

mutual

/-- An expression on later lines. -/
def Expression.addLines (k : ℕ) : Expression → Expression
  | .literal value => .literal value
  | .identifier id => .identifier (id.addLines k)
  | .this => .this
  | .array elements => .array (elementsAddLines k elements)
  | .object properties => .object (propertiesAddLines k properties)
  | .binary operator left right => .binary operator (left.addLines k) (right.addLines k)
  | .unary operator argument => .unary operator (argument.addLines k)
  | .assignment operator left right line =>
    .assignment operator (left.addLines k) (right.addLines k) (line + k)
  | .call callee arguments => .call (callee.addLines k) (itemsAddLines k arguments)
  | .member owner property => .member (owner.addLines k) (property.addLines k)
  | .index owner property => .index (owner.addLines k) (property.addLines k)
  | .conditional test consequent alternate =>
    .conditional (test.addLines k) (consequent.addLines k) (alternate.addLines k)
  | .new callee arguments => .new (callee.addLines k) (itemsAddLines k arguments)
  | .update operator argument isPrefix line =>
    .update operator (argument.addLines k) isPrefix (line + k)
  | .sequence expressions => .sequence (itemsAddLines k expressions)

/-- Expressions on later lines. -/
def itemsAddLines (k : ℕ) : List Expression → List Expression
  | [] => []
  | item :: items => item.addLines k :: itemsAddLines k items

/-- Expressions on later lines, in a list that may have gaps. -/
def elementsAddLines (k : ℕ) : List (Option Expression) → List (Option Expression)
  | [] => []
  | none :: elements => none :: elementsAddLines k elements
  | some element :: elements => some (element.addLines k) :: elementsAddLines k elements

/-- Properties on later lines. -/
def propertiesAddLines (k : ℕ) :
    List (PropertyKey × Expression) → List (PropertyKey × Expression)
  | [] => []
  | (key, value) :: properties =>
    (key.addLines k, value.addLines k) :: propertiesAddLines k properties

end

instance : HasLines Identifier := ⟨Identifier.addLines⟩

instance : HasLines PropertyKey := ⟨PropertyKey.addLines⟩

instance : HasLines Expression := ⟨Expression.addLines⟩

@[simp] theorem moved_identifier (k : ℕ) (id : Identifier) : moved k id = id.addLines k := rfl

@[simp] theorem moved_propertyKey (k : ℕ) (key : PropertyKey) : moved k key = key.addLines k := rfl

@[simp] theorem moved_expression (k : ℕ) (e : Expression) : moved k e = e.addLines k := rfl

attribute [simp] Identifier.addLines PropertyKey.addLines Expression.addLines

@[simp] theorem itemsAddLines_eq (k : ℕ) (items : List Expression) :
    itemsAddLines k items = items.map (moved k) := by
  induction items with
  | nil => rfl
  | cons item items ih => rw [itemsAddLines, ih]; rfl

@[simp] theorem elementsAddLines_eq (k : ℕ) (elements : List (Option Expression)) :
    elementsAddLines k elements = elements.map (moved k) := by
  induction elements with
  | nil => rfl
  | cons head elements ih => cases head <;> rw [elementsAddLines, ih] <;> rfl

@[simp] theorem propertiesAddLines_eq (k : ℕ) (properties : List (PropertyKey × Expression)) :
    propertiesAddLines k properties = properties.map (moved k) := by
  induction properties with
  | nil => rfl
  | cons property properties ih => rw [propertiesAddLines, ih]; rfl

/-! ### What is written of them -/

namespace Expression

variable (k : ℕ) (e : Expression)

@[simp] theorem level_addLines : (e.addLines k).level = e.level := by cases e <;> rfl

@[simp] theorem isTarget_addLines : (e.addLines k).isTarget = e.isTarget := by cases e <;> rfl

@[simp] theorem mixesNullish_addLines (operator : BinaryOperator) :
    mixesNullish operator (e.addLines k) = mixesNullish operator e := by cases e <;> rfl

@[simp] theorem leftNeedsParens_addLines (operator : BinaryOperator) :
    leftNeedsParens operator (e.addLines k) = leftNeedsParens operator e := by
  cases operator <;> cases e <;> rfl

@[simp] theorem rightNeedsParens_addLines (operator : BinaryOperator) :
    rightNeedsParens operator (e.addLines k) = rightNeedsParens operator e := by
  simp [rightNeedsParens]

@[simp] theorem accessed_addLines (text : String) :
    accessed (e.addLines k) text = accessed e text := by cases e <;> rfl

@[simp] theorem containsCall_addLines : containsCall (e.addLines k) = containsCall e := by
  induction e using Expression.induction <;> simp_all [containsCall]

theorem renderItems_addLines {items : List Expression}
    (h : ∀ item ∈ items, (item.addLines k).render = item.render) :
    renderItems (items.map (moved k)) = renderItems items := by
  induction items with
  | nil => rfl
  | cons item items ih => simp_all [renderItems]

theorem renderElements_addLines {elements : List (Option Expression)}
    (h : ∀ element, some element ∈ elements → (element.addLines k).render = element.render) :
    renderElements (elements.map (moved k)) = renderElements elements := by
  induction elements with
  | nil => rfl
  | cons head elements ih => cases head <;> simp_all [renderElements]

theorem renderProperties_addLines {properties : List (PropertyKey × Expression)}
    (h : ∀ property ∈ properties, (property.2.addLines k).render = property.2.render) :
    renderProperties (properties.map (moved k)) = renderProperties properties := by
  have hkey (key : PropertyKey) : (key.addLines k).render = key.render := by cases key <;> rfl
  induction properties with
  | nil => rfl
  | cons property properties ih => simp_all [renderProperties]

/-- What is written of an expression does not depend on its lines. -/
@[simp] theorem render_addLines : (e.addLines k).render = e.render := by
  induction e using Expression.induction with
  | literal value => rfl
  | identifier id => rfl
  | this => rfl
  | array elements ih =>
    simp only [addLines, elementsAddLines_eq, render, renderElements_addLines k ih,
      List.getLast?_map]
    rcases elements.getLast? with - | - | last <;> rfl
  | object properties ih => simp [render, renderProperties_addLines k ih]
  | binary operator left right ihLeft ihRight => simp [render, ihLeft, ihRight]
  | unary operator argument ih => simp [render, ih]
  | assignment operator left right line ihLeft ihRight => simp [render, ihLeft, ihRight]
  | call callee arguments ihCallee ih => simp [render, ihCallee, renderItems_addLines k ih]
  | member owner property ih => simp [render, ih]
  | index owner property ihOwner ihProperty => simp [render, ihOwner, ihProperty]
  | conditional test consequent alternate ihTest ihConsequent ihAlternate =>
    simp [render, ihTest, ihConsequent, ihAlternate]
  | new callee arguments ihCallee ih => simp [render, ihCallee, renderItems_addLines k ih]
  | update operator argument isPrefix line ih => simp [render, ih]
  | sequence expressions ih => simp [render, renderItems_addLines k ih]

end Expression

/-! ## Statements -/

/-- A variable on later lines. -/
def VariableDeclarator.addLines (k : ℕ) (d : VariableDeclarator) : VariableDeclarator :=
  ⟨moved k d.id, moved k d.init⟩

instance : HasLines VariableDeclarator := ⟨VariableDeclarator.addLines⟩

/-- A declaration on later lines. -/
def VariableDeclaration.addLines (k : ℕ) (d : VariableDeclaration) : VariableDeclaration :=
  ⟨d.kind, moved k d.declarations, d.line + k⟩

instance : HasLines VariableDeclaration := ⟨VariableDeclaration.addLines⟩

/-- The start of a `for` loop on later lines. -/
def ForInit.addLines (k : ℕ) : ForInit → ForInit
  | .declaration declared => .declaration (moved k declared)
  | .expression value => .expression (moved k value)

instance : HasLines ForInit := ⟨ForInit.addLines⟩

mutual

/-- A statement on later lines. -/
def Statement.addLines (k : ℕ) : Statement → Statement
  | .declaration declared => .declaration (moved k declared)
  | .function id params body line =>
    .function (moved k id) (moved k params) (statementsAddLines k body) (line + k)
  | .expression value line => .expression (moved k value) (line + k)
  | .block braces => .block (braces.addLines k)
  | .if_ chain => .if_ (chain.addLines k)
  | .switch discriminant cases line =>
    .switch (moved k discriminant) (casesAddLines k cases) (line + k)
  | .while_ test body line => .while_ (moved k test) (body.addLines k) (line + k)
  | .doWhile body test line => .doWhile (body.addLines k) (moved k test) (line + k)
  | .for_ init test update body line =>
    .for_ (moved k init) (moved k test) (moved k update) (body.addLines k) (line + k)
  | .return_ argument line => .return_ (moved k argument) (line + k)
  | .break_ label line => .break_ (moved k label) (line + k)
  | .continue_ label line => .continue_ (moved k label) (line + k)
  | .throw argument line => .throw (moved k argument) (line + k)
  | .try_ braces handler finalizer line =>
    .try_ (braces.addLines k) (handlerAddLines k handler) (finalizerAddLines k finalizer)
      (line + k)
  | .empty line => .empty (line + k)

/-- Statements on later lines. -/
def statementsAddLines (k : ℕ) : List Statement → List Statement
  | [] => []
  | first :: rest => first.addLines k :: statementsAddLines k rest

/-- A block on later lines. -/
def Block.addLines (k : ℕ) : Block → Block
  | .mk body line => .mk (statementsAddLines k body) (line + k)

/-- A body on later lines. -/
def Body.addLines (k : ℕ) : Body → Body
  | .block braces => .block (braces.addLines k)
  | .single inner => .single (inner.addLines k)

/-- An `if` chain on later lines. -/
def IfStatement.addLines (k : ℕ) : IfStatement → IfStatement
  | .mk test consequent alternate line =>
    .mk (moved k test) (consequent.addLines k) (alternateAddLines k alternate) (line + k)

/-- What an `else` leads to, on later lines. -/
def alternateAddLines (k : ℕ) : Option Alternate → Option Alternate
  | none => none
  | some (.elseIf next) => some (.elseIf (next.addLines k))
  | some (.else_ body) => some (.else_ (body.addLines k))

/-- The cases of a `switch` on later lines. -/
def casesAddLines (k : ℕ) : List SwitchCase → List SwitchCase
  | [] => []
  | .mk test consequent :: rest =>
    .mk (moved k test) (statementsAddLines k consequent) :: casesAddLines k rest

/-- A `catch` part on later lines. -/
def handlerAddLines (k : ℕ) : Option CatchClause → Option CatchClause
  | none => none
  | some (.mk param body) => some (.mk (moved k param) (body.addLines k))

/-- A `finally` part on later lines. -/
def finalizerAddLines (k : ℕ) : Option Block → Option Block
  | none => none
  | some body => some (body.addLines k)

end

instance : HasLines Statement := ⟨Statement.addLines⟩

instance : HasLines Block := ⟨Block.addLines⟩

instance : HasLines Body := ⟨Body.addLines⟩

instance : HasLines IfStatement := ⟨IfStatement.addLines⟩

instance : HasLines Alternate where
  moved k
    | .elseIf next => .elseIf (next.addLines k)
    | .else_ body => .else_ (body.addLines k)

instance : HasLines SwitchCase where
  moved k
    | .mk test consequent => .mk (moved k test) (moved k consequent)

instance : HasLines CatchClause where
  moved k
    | .mk param body => .mk (moved k param) (body.addLines k)

@[simp] theorem statementsAddLines_eq (k : ℕ) (statements : List Statement) :
    statementsAddLines k statements = moved k statements := by
  induction statements with
  | nil => rfl
  | cons first rest ih => rw [statementsAddLines, ih]; rfl

@[simp] theorem alternateAddLines_eq (k : ℕ) (alternate : Option Alternate) :
    alternateAddLines k alternate = moved k alternate := by
  rcases alternate with - | - | - <;> rfl

@[simp] theorem casesAddLines_eq (k : ℕ) (cases : List SwitchCase) :
    casesAddLines k cases = moved k cases := by
  induction cases with
  | nil => rfl
  | cons first rest ih =>
    obtain ⟨test, consequent⟩ := first
    rw [casesAddLines, ih, statementsAddLines_eq]
    rfl

@[simp] theorem handlerAddLines_eq (k : ℕ) (handler : Option CatchClause) :
    handlerAddLines k handler = moved k handler := by
  rcases handler with - | ⟨param, body⟩ <;> rfl

@[simp] theorem finalizerAddLines_eq (k : ℕ) (finalizer : Option Block) :
    finalizerAddLines k finalizer = moved k finalizer := by
  cases finalizer <;> rfl

section Statements

variable (k : ℕ)

theorem moved_chain (test : Expression) (consequent : Body) (alternate : Option Alternate)
    (line : ℕ) :
    moved k (IfStatement.mk test consequent alternate line)
      = .mk (moved k test) (moved k consequent) (moved k alternate) (line + k) := by
  rw [← alternateAddLines_eq]
  rfl

@[simp] theorem moved_declaration (d : VariableDeclaration) : moved k d = d.addLines k := rfl

@[simp] theorem moved_statement (s : Statement) : moved k s = s.addLines k := rfl

@[simp] theorem moved_block (b : Block) : moved k b = b.addLines k := rfl

@[simp] theorem moved_body (b : Body) : moved k b = b.addLines k := rfl

end Statements

/-! ### Lines and texts -/

theorem Statement.line_addLines (k : ℕ) (s : Statement) : (s.addLines k).line = s.line + k := by
  cases s with
  | block braces => cases braces; rfl
  | if_ chain => cases chain; rfl
  | _ => rfl

@[simp] theorem Body.line_addLines (k : ℕ) (b : Body) : (b.addLines k).line = b.line + k := by
  cases b with
  | block braces => cases braces; rfl
  | single inner => exact inner.line_addLines k

theorem VariableDeclarator.render_addLines (k : ℕ) (d : VariableDeclarator) :
    (d.addLines k).render = d.render := by
  rcases d with ⟨id, - | init⟩ <;> simp [addLines, render]

@[simp] theorem VariableDeclaration.render_addLines (k : ℕ) (d : VariableDeclaration) :
    (d.addLines k).render = d.render := by
  have hdeclarators : (d.declarations.map (moved k)).map VariableDeclarator.render
      = d.declarations.map VariableDeclarator.render := by
    rw [List.map_map]
    exact List.map_congr_left fun declarator _ => declarator.render_addLines k
  simp only [addLines, render, moved_list, hdeclarators]

end ScriptSteps
