import ScriptSteps.Tree.Statement

/-!
# Well-shaped trees

A tree is well-shaped if its parts are of the kinds that its place in the grammar asks for:
assignments and updates have a target, sequences have two items or more, a `try` has a handler or a
finalizer, and so on. What may stand at the leaves (names, numbers, strings and lines) is left to a
`Vocabulary`.

## Main definitions

* `Vocabulary`: what may stand at the leaves of a tree
* `Expression.Fits`, `Statement.Fits`: the well-shaped trees over a vocabulary

## Main statements

* `Expression.induction`: induction over expressions with their lists of parts
-/

namespace ScriptSteps

/-- What may stand at the leaves of a tree. -/
structure Vocabulary where
  name : String → Prop
  number : Binary64 → Prop
  string : String → Prop
  line : Nat → Prop

/-! ## Expressions -/

/-- The identifiers over a vocabulary. -/
def Identifier.Fits (v : Vocabulary) (id : Identifier) : Prop := v.name id.name ∧ v.line id.line

/-- The literals over a vocabulary. -/
def Literal.Fits (v : Vocabulary) : Literal → Prop
  | number value => v.number value
  | string value => v.string value
  | boolean _ | null => True

/-- The keys over a vocabulary: names, strings and numbers. -/
def PropertyKey.Fits (v : Vocabulary) : PropertyKey → Prop
  | identifier id => id.Fits v
  | literal (.number value) => v.number value
  | literal (.string value) => v.string value
  | literal (.boolean _) | literal .null => False

mutual

/-- The well-shaped expressions over a vocabulary. -/
def Expression.Fits (v : Vocabulary) : Expression → Prop
  | .literal value => value.Fits v
  | .identifier id => id.Fits v
  | .this => True
  | .array elements => elementsFit v elements
  | .object properties => propertiesFit v properties
  | .binary _ left right => left.Fits v ∧ right.Fits v
  | .unary _ argument => argument.Fits v
  | .assignment _ left right line =>
    left.isTarget = true ∧ left.Fits v ∧ right.Fits v ∧ v.line line
  | .call callee arguments => callee.Fits v ∧ itemsFit v arguments
  | .member object property => object.Fits v ∧ property.Fits v
  | .index object property => object.Fits v ∧ property.Fits v
  | .conditional test consequent alternate => test.Fits v ∧ consequent.Fits v ∧ alternate.Fits v
  | .new callee arguments => callee.Fits v ∧ itemsFit v arguments
  | .update _ argument _ line => argument.isTarget = true ∧ argument.Fits v ∧ v.line line
  | .sequence expressions => 2 ≤ expressions.length ∧ itemsFit v expressions

/-- Lists of such expressions. -/
def itemsFit (v : Vocabulary) : List Expression → Prop
  | [] => True
  | item :: items => item.Fits v ∧ itemsFit v items

/-- Lists of such expressions in which some may be left out. -/
def elementsFit (v : Vocabulary) : List (Option Expression) → Prop
  | [] => True
  | none :: elements => elementsFit v elements
  | some element :: elements => element.Fits v ∧ elementsFit v elements

/-- Lists of keys with such expressions. -/
def propertiesFit (v : Vocabulary) : List (PropertyKey × Expression) → Prop
  | [] => True
  | (key, value) :: properties => key.Fits v ∧ value.Fits v ∧ propertiesFit v properties

end

theorem itemsFit_iff {v : Vocabulary} {items : List Expression} :
    itemsFit v items ↔ ∀ item ∈ items, item.Fits v := by
  induction items with
  | nil => simp [itemsFit]
  | cons item items ih => simp [itemsFit, ih]

theorem elementsFit_iff {v : Vocabulary} {elements : List (Option Expression)} :
    elementsFit v elements ↔ ∀ element, some element ∈ elements → element.Fits v := by
  induction elements with
  | nil => simp [elementsFit]
  | cons head elements ih =>
    cases head with
    | none => simp [elementsFit, ih]
    | some element => simp [elementsFit, ih]

theorem propertiesFit_iff {v : Vocabulary} {properties : List (PropertyKey × Expression)} :
    propertiesFit v properties
      ↔ ∀ property ∈ properties, property.1.Fits v ∧ property.2.Fits v := by
  induction properties with
  | nil => simp [propertiesFit]
  | cons property properties ih => simp [propertiesFit, ih, and_assoc]

/-- Induction over expressions; the parts in a list are given by membership. -/
@[elab_as_elim] theorem Expression.induction {motive : Expression → Prop}
    (literal : ∀ value, motive (.literal value))
    (identifier : ∀ id, motive (.identifier id))
    (this : motive .this)
    (array : ∀ elements, (∀ element, some element ∈ elements → motive element) →
      motive (.array elements))
    (object : ∀ properties : List (PropertyKey × Expression),
      (∀ property ∈ properties, motive property.2) → motive (.object properties))
    (binary : ∀ operator left right, motive left → motive right →
      motive (.binary operator left right))
    (unary : ∀ operator argument, motive argument → motive (.unary operator argument))
    (assignment : ∀ operator left right line, motive left → motive right →
      motive (.assignment operator left right line))
    (call : ∀ callee arguments, motive callee → (∀ argument ∈ arguments, motive argument) →
      motive (.call callee arguments))
    (member : ∀ object property, motive object → motive (.member object property))
    (index : ∀ object property, motive object → motive property →
      motive (.index object property))
    (conditional : ∀ test consequent alternate, motive test → motive consequent →
      motive alternate → motive (.conditional test consequent alternate))
    (new : ∀ callee arguments, motive callee → (∀ argument ∈ arguments, motive argument) →
      motive (.new callee arguments))
    (update : ∀ operator argument isPrefix line, motive argument →
      motive (.update operator argument isPrefix line))
    (sequence : ∀ expressions, (∀ expression ∈ expressions, motive expression) →
      motive (.sequence expressions))
    (expression : Expression) : motive expression := by
  refine @Expression.rec motive
    (fun elements => ∀ element, some element ∈ elements → motive element)
    (fun properties => ∀ property ∈ properties, motive property.2)
    (fun items => ∀ item ∈ items, motive item) (fun element => ∀ e, element = some e → motive e)
    (fun property => motive property.2) literal identifier this array object binary unary
    assignment call member index conditional new update sequence ?_ ?_ ?_ ?_ ?_ ?_ ?_ ?_ ?_
    expression
  · simp
  · intro head tail hhead htail element helement
    rcases List.mem_cons.1 helement with heq | hmem
    · exact hhead element heq.symm
    · exact htail element hmem
  · simp
  · intro head tail hhead htail property hproperty
    rcases List.mem_cons.1 hproperty with rfl | hmem
    · exact hhead
    · exact htail property hmem
  · simp
  · intro head tail hhead htail item hitem
    rcases List.mem_cons.1 hitem with rfl | hmem
    · exact hhead
    · exact htail item hmem
  · simp
  · rintro value hvalue e heq
    exact Option.some.inj heq ▸ hvalue
  · exact fun _ _ h => h

/-! ## Statements -/

/-- The variables over a vocabulary. -/
def VariableDeclarator.Fits (v : Vocabulary) (d : VariableDeclarator) : Prop :=
  d.id.Fits v ∧ ∀ init ∈ d.init, init.Fits v

/-- The declarations over a vocabulary: they declare something. -/
def VariableDeclaration.Fits (v : Vocabulary) (d : VariableDeclaration) : Prop :=
  d.declarations ≠ [] ∧ (∀ declarator ∈ d.declarations, declarator.Fits v) ∧ v.line d.line

/-- The starts of `for` loops over a vocabulary. -/
def ForInit.Fits (v : Vocabulary) : ForInit → Prop
  | declaration declared => declared.Fits v
  | expression value => value.Fits v

/-- Whether a statement is a block. -/
def Statement.isBlock : Statement → Bool
  | .block _ => true
  | _ => false

/-- Whether a statement is an `if`. -/
def Statement.isIf : Statement → Bool
  | .if_ _ => true
  | _ => false

/-- Whether a body is an `if` without braces. -/
def Body.isIf : Body → Bool
  | .single statement => statement.isIf
  | .block _ => false

mutual

/-- The well-shaped statements over a vocabulary. -/
def Statement.Fits (v : Vocabulary) : Statement → Prop
  | .declaration declared => declared.Fits v
  | .function id params body line =>
    id.Fits v ∧ (∀ param ∈ params, param.Fits v) ∧ statementsFit v body ∧ v.line line
  | .expression expression line => expression.Fits v ∧ v.line line
  | .block block => block.Fits v
  | .if_ chain => chain.Fits v
  | .switch discriminant cases line => discriminant.Fits v ∧ casesFit v cases ∧ v.line line
  | .while_ test body line => test.Fits v ∧ body.Fits v ∧ v.line line
  | .doWhile body test line => body.Fits v ∧ test.Fits v ∧ v.line line
  | .for_ init test update body line =>
    (∀ start ∈ init, start.Fits v) ∧ (∀ e ∈ test, e.Fits v) ∧ (∀ e ∈ update, e.Fits v)
      ∧ body.Fits v ∧ v.line line
  | .return_ argument line => (∀ e ∈ argument, e.Fits v) ∧ v.line line
  | .break_ label line => (∀ id ∈ label, id.Fits v) ∧ v.line line
  | .continue_ label line => (∀ id ∈ label, id.Fits v) ∧ v.line line
  | .throw argument line => argument.Fits v ∧ v.line line
  | .try_ block handler finalizer line =>
    (handler.isSome = true ∨ finalizer.isSome = true)
      ∧ block.Fits v ∧ handlerFits v handler ∧ finalizerFits v finalizer ∧ v.line line
  | .empty line => v.line line

/-- Lists of such statements. -/
def statementsFit (v : Vocabulary) : List Statement → Prop
  | [] => True
  | first :: rest => first.Fits v ∧ statementsFit v rest

/-- The blocks of such statements. -/
def Block.Fits (v : Vocabulary) : Block → Prop
  | .mk body line => statementsFit v body ∧ v.line line

/-- The bodies of such statements: a single statement in a body is not a block. -/
def Body.Fits (v : Vocabulary) : Body → Prop
  | .block block => block.Fits v
  | .single statement => statement.isBlock = false ∧ statement.Fits v

/-- The `if` chains of such statements. -/
def IfStatement.Fits (v : Vocabulary) : IfStatement → Prop
  | .mk test consequent alternate line =>
    test.Fits v ∧ consequent.Fits v ∧ alternateFits v alternate ∧ v.line line

/-- What an `else` may lead to: an `if` right after it belongs to the chain. -/
def alternateFits (v : Vocabulary) : Option Alternate → Prop
  | none => True
  | some (.elseIf next) => next.Fits v
  | some (.else_ body) => body.isIf = false ∧ body.Fits v

/-- The cases of a `switch` over such statements. -/
def casesFit (v : Vocabulary) : List SwitchCase → Prop
  | [] => True
  | .mk test consequent :: rest =>
    (∀ e ∈ test, e.Fits v) ∧ statementsFit v consequent ∧ casesFit v rest

/-- The `catch` parts of such statements. -/
def handlerFits (v : Vocabulary) : Option CatchClause → Prop
  | none => True
  | some (.mk param body) => (∀ id ∈ param, id.Fits v) ∧ body.Fits v

/-- The `finally` parts of such statements. -/
def finalizerFits (v : Vocabulary) : Option Block → Prop
  | none => True
  | some body => body.Fits v

end

end ScriptSteps
