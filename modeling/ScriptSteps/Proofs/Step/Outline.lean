import Mathlib
import ScriptSteps.Proofs.Step.Walk

/-!
# Steps with trees in the place of texts

An analysis never looks at a rendered text. Before anything is rendered it is settled whether a
program has steps, which ones, and which trees are to be written into each of their texts. This
outline does not depend on the renderer, so two renderers can only disagree about the texts
themselves.

## Main definitions

* `Piece`: a part of a text, either fixed or a tree to be rendered
* `Step.Outline`: a step with pieces in the place of its texts
* `outline`: the outlines of the steps of a program
* `Step.Agrees`: what two steps have in common that come from one outline

## Main statements

* `flatten_eq_fill`: the steps of a program are its outline with the pieces rendered
* `flatten_renderers`: the steps of a program under two renderers
-/

namespace ScriptSteps

/-! ## Texts -/

/-- A part of a text. -/
inductive Piece where
  | text (s : String)
  | expression (e : Expression)
  | declaration (d : VariableDeclaration)

namespace Piece

/-- The text of a piece. -/
def render (r : Renderer) : Piece → String
  | text s => s
  | expression e => r.expression e
  | declaration d => r.declaration d

/-- The text of pieces in a row. -/
def renderAll (r : Renderer) : List Piece → String
  | [] => ""
  | piece :: pieces => piece.render r ++ renderAll r pieces

@[simp] theorem renderAll_nil (r : Renderer) : renderAll r [] = "" := rfl

@[simp] theorem renderAll_cons (r : Renderer) (piece : Piece) (pieces : List Piece) :
    renderAll r (piece :: pieces) = piece.render r ++ renderAll r pieces := rfl

@[simp] theorem renderAll_append (r : Renderer) (first second : List Piece) :
    renderAll r (first ++ second) = renderAll r first ++ renderAll r second := by
  induction first with
  | nil => simp
  | cons piece pieces ih => simp [ih, String.append_assoc]

@[simp] theorem render_text (r : Renderer) (s : String) : (text s).render r = s := rfl

@[simp] theorem render_expression (r : Renderer) (e : Expression) :
    (expression e).render r = r.expression e := rfl

@[simp] theorem render_declaration (r : Renderer) (d : VariableDeclaration) :
    (declaration d).render r = r.declaration d := rfl

/-- The pieces of an expression that may be left out. -/
def ofOption (e : Option Expression) : List Piece := (e.map expression).toList

@[simp] theorem renderAll_ofOption (r : Renderer) (e : Option Expression) :
    renderAll r (ofOption e) = (e.map r.expression).getD "" := by
  cases e <;> simp [ofOption]

end Piece

/-! ## Outlines -/

/-- A step before its texts are rendered. -/
structure Step.Outline where
  line : ℕ
  kind : StepKind
  name : List Piece := []
  condition : List Piece := []
  value : List Piece := []

/-- The step that an outline becomes under a renderer. -/
def Step.Outline.fill (r : Renderer) (o : Step.Outline) : Step :=
  ⟨o.line, o.kind, Piece.renderAll r o.name, Piece.renderAll r o.condition,
    Piece.renderAll r o.value⟩

namespace Step.Outline

/-- A step that declares a name, with what it starts as. -/
def ofName (kind : StepKind) (line : ℕ) (name : String) (init : Option Expression) : Outline where
  line := line
  kind := kind
  name := [.text name]
  value := Piece.ofOption init

/-- A step that stores what the pieces say in a target. -/
def ofTarget (kind : StepKind) (line : ℕ) (target : Expression) (value : List Piece) :
    Outline where
  line := line
  kind := kind
  name := [.expression target]
  value := value

/-- A step with a condition. -/
def ofCondition (kind : StepKind) (line : ℕ) (condition : List Piece) : Outline where
  line := line
  kind := kind
  condition := condition

end Step.Outline

/-- The pieces of the value that an update stores. -/
def UpdateOperator.pieces (operator : UpdateOperator) (target : Expression) : List Piece :=
  match operator with
  | .increment => [.expression target, .text " + 1"]
  | .decrement => [.expression target, .text " - 1"]

/-- The pieces of the value that an assignment stores, if it has such a text. -/
def AssignmentOperator.pieces? (operator : AssignmentOperator) (target value : Expression) :
    Option (List Piece) :=
  match operator with
  | .assign => some [.expression value]
  | .addAssign => some [.expression target, .text " + ", .expression value]
  | .subtractAssign => some [.expression target, .text " - ", .expression value]
  | _ => none

/-- The pieces of what a `for` loop starts with. -/
def ForInit.pieces : Option ForInit → List Piece
  | some (.declaration declared) => [.declaration declared]
  | some (.expression e) => [.expression e]
  | none => []

/-- The outline of a test of an `if` chain. -/
def IfStatement.outline (kind : StepKind) : IfStatement → Step.Outline
  | .mk test _ _ line => .ofCondition kind line [.expression test]

/-- The outlines of the steps that a construct has by itself. -/
def Construct.outlines : Construct → List Step.Outline
  | .statement (.function id params _ line) =>
    .ofName .functionDeclaration line id.name none
      :: params.map fun param => .ofName .variableDeclaration param.line param.name none
  | .statement (.declaration declared) =>
    declared.declarations.map fun d => .ofName .variableDeclaration d.id.line d.id.name d.init
  | .statement (.expression (.update operator argument _ line) _) =>
    [.ofTarget .updateExpression line argument (operator.pieces argument)]
  | .statement (.expression (.assignment operator left right line) _) =>
    (operator.pieces? left right).toList.map (.ofTarget .assignmentExpression line left)
  | .statement (.return_ argument line) =>
    [{ line := line, kind := .returnStatement, value := Piece.ofOption argument }]
  | .statement (.while_ test _ line) => [.ofCondition .whileStatement line [.expression test]]
  | .statement (.for_ init test update _ line) =>
    [.ofCondition .forStatement line (ForInit.pieces init
      ++ .text ";" :: Piece.ofOption test ++ .text ";" :: Piece.ofOption update)]
  | .statement (.if_ chain) => [chain.outline .ifStatement]
  | .statement _ => []
  | .elseIf chain => [chain.outline .elseIfStatement]
  | .else_ body => [{ line := body.line, kind := .elseStatement }]

theorem IfStatement.step_eq_fill (r : Renderer) (kind : StepKind) (chain : IfStatement) :
    chain.step r kind = (chain.outline kind).fill r := by
  cases chain
  simp [step, outline, Step.ofTest, Step.Outline.fill, Step.Outline.ofCondition]

theorem Construct.steps_eq_fill (r : Renderer) (construct : Construct) :
    construct.steps r = construct.outlines.map fun o => o.fill r := by
  cases construct with
  | elseIf chain => simp [steps, outlines, chain.step_eq_fill]
  | else_ body => simp [steps, outlines, Step.ofElse, Step.Outline.fill]
  | statement s =>
    cases s with
    | function id params body line =>
      simp [steps, outlines, Step.ofFunction, Step.ofParameter, Step.Outline.ofName,
        Step.Outline.fill]
    | declaration declared =>
      simp [steps, outlines, Step.ofDeclarator, Step.Outline.ofName, Step.Outline.fill]
    | expression e line =>
      cases e with
      | update operator argument isPrefix updateLine =>
        cases operator <;>
          simp [steps, outlines, Step.ofUpdate, UpdateOperator.pieces, Step.Outline.ofTarget,
            Step.Outline.fill]
      | assignment operator left right assignmentLine =>
        cases operator <;>
          simp [steps, outlines, Step.assignedValue?, AssignmentOperator.pieces?,
            Step.Outline.ofTarget, Step.Outline.fill, String.append_assoc]
      | _ => rfl
    | return_ argument line => simp [steps, outlines, Step.ofReturn, Step.Outline.fill]
    | while_ test body line =>
      simp [steps, outlines, Step.ofWhile, Step.Outline.ofCondition, Step.Outline.fill]
    | for_ init test update body line =>
      have hinit : Step.forInitText r init = Piece.renderAll r (ForInit.pieces init) := by
        rcases init with _ | declared | e <;> simp [Step.forInitText, ForInit.pieces]
      simp [steps, outlines, Step.ofFor, hinit, Step.Outline.ofCondition, Step.Outline.fill,
        String.append_assoc]
    | if_ chain => simp [steps, outlines, chain.step_eq_fill]
    | _ => rfl

/-- The outlines of the steps of a program, or what stops the walk over it. -/
def outline (program : List Statement) : Except Error (List Step.Outline) :=
  match (statementVisits program).findSome? Statement.obstacle? with
  | some e => .error e
  | none => .ok ((statementConstructs program).flatMap Construct.outlines)

/-- The steps of a program are its outline with the pieces rendered. -/
theorem flatten_eq_fill (r : Renderer) (program : List Statement) :
    flatten r program = (outline program).map fun os => os.map fun o => o.fill r := by
  have hsteps : Construct.steps r = fun construct => construct.outlines.map fun o => o.fill r :=
    funext (Construct.steps_eq_fill r)
  rw [flatten_eq_gather, outline, hsteps]
  cases (statementVisits program).findSome? Statement.obstacle? with
  | some e => rfl
  | none => simp [Except.map, List.map_flatMap]

/-! ## Kinds -/

namespace StepKind

/-- Whether steps of a kind declare the name they have. -/
def declares : StepKind → Bool
  | functionDeclaration | variableDeclaration => true
  | _ => false

/-- Whether steps of a kind have a name. -/
def hasName : StepKind → Bool
  | functionDeclaration | variableDeclaration | updateExpression | assignmentExpression => true
  | _ => false

/-- Whether steps of a kind have a condition. -/
def hasCondition : StepKind → Bool
  | whileStatement | ifStatement | elseIfStatement | forStatement => true
  | _ => false

/-- Whether steps of a kind have a value. -/
def hasValue : StepKind → Bool
  | variableDeclaration | updateExpression | assignmentExpression | returnStatement => true
  | _ => false

end StepKind

/-- The outlines with pieces only where their kind has texts, and with a fixed name where it
declares one. -/
structure Step.Outline.Regular (o : Step.Outline) : Prop where
  declared : o.kind.declares = true → ∃ name, o.name = [.text name]
  name : o.kind.hasName = false → o.name = []
  condition : o.kind.hasCondition = false → o.condition = []
  value : o.kind.hasValue = false → o.value = []

namespace Step.Outline

variable {line : ℕ} {kind : StepKind}

theorem regular_function (name : String) :
    (ofName .functionDeclaration line name none).Regular :=
  ⟨fun _ => ⟨name, rfl⟩, nofun, fun _ => rfl, fun _ => rfl⟩

theorem regular_variable (name : String) (init : Option Expression) :
    (ofName .variableDeclaration line name init).Regular :=
  ⟨fun _ => ⟨name, rfl⟩, nofun, fun _ => rfl, nofun⟩

theorem regular_ofTarget (h : kind = .updateExpression ∨ kind = .assignmentExpression)
    (target : Expression) (value : List Piece) : (ofTarget kind line target value).Regular := by
  rcases h with rfl | rfl <;> exact ⟨nofun, nofun, fun _ => rfl, nofun⟩

theorem regular_ofCondition (h : kind.hasCondition = true) (condition : List Piece) :
    (ofCondition kind line condition).Regular := by
  have hdeclares : kind.declares = false := by cases kind <;> first | rfl | cases h
  refine ⟨fun hd => ?_, fun _ => rfl, fun hc => ?_, fun _ => rfl⟩
  · exact absurd (hdeclares.symm.trans hd) (by decide)
  · exact absurd (hc.symm.trans h) (by decide)

theorem regular_return (argument : Option Expression) :
    Regular { line := line, kind := .returnStatement, value := Piece.ofOption argument } :=
  ⟨nofun, fun _ => rfl, fun _ => rfl, nofun⟩

theorem regular_else : Regular { line := line, kind := .elseStatement } :=
  ⟨nofun, fun _ => rfl, fun _ => rfl, fun _ => rfl⟩

end Step.Outline

theorem IfStatement.regular_outline {kind : StepKind} (h : kind.hasCondition = true)
    (chain : IfStatement) : (chain.outline kind).Regular := by
  cases chain
  exact Step.Outline.regular_ofCondition h _

theorem Construct.regular_outlines (construct : Construct) :
    ∀ o ∈ construct.outlines, o.Regular := by
  intro o ho
  unfold outlines at ho
  split at ho
  case h_1 id params body line =>
    rcases List.mem_cons.1 ho with rfl | hparam
    · exact Step.Outline.regular_function id.name
    · obtain ⟨param, -, rfl⟩ := List.mem_map.1 hparam
      exact Step.Outline.regular_variable param.name none
  case h_2 declared =>
    obtain ⟨d, -, rfl⟩ := List.mem_map.1 ho
    exact Step.Outline.regular_variable d.id.name d.init
  case h_3 operator argument isPrefix line outer =>
    obtain rfl := List.mem_singleton.1 ho
    exact Step.Outline.regular_ofTarget (.inl rfl) argument _
  case h_4 operator left right line outer =>
    obtain ⟨value, -, rfl⟩ := List.mem_map.1 ho
    exact Step.Outline.regular_ofTarget (.inr rfl) left value
  case h_5 argument line =>
    obtain rfl := List.mem_singleton.1 ho
    exact Step.Outline.regular_return argument
  case h_6 test body line =>
    obtain rfl := List.mem_singleton.1 ho
    exact Step.Outline.regular_ofCondition rfl _
  case h_7 init test update body line =>
    obtain rfl := List.mem_singleton.1 ho
    exact Step.Outline.regular_ofCondition rfl _
  case h_8 chain =>
    obtain rfl := List.mem_singleton.1 ho
    exact chain.regular_outline rfl
  case h_9 => cases ho
  case h_10 chain =>
    obtain rfl := List.mem_singleton.1 ho
    exact chain.regular_outline rfl
  case h_11 body =>
    obtain rfl := List.mem_singleton.1 ho
    exact Step.Outline.regular_else

theorem regular_of_outline {program : List Statement} {os : List Step.Outline}
    (h : outline program = .ok os) : ∀ o ∈ os, o.Regular := by
  unfold outline at h
  split at h
  · cases h
  · obtain rfl := Except.ok.inj h
    intro o ho
    obtain ⟨construct, -, hmem⟩ := List.mem_flatMap.1 ho
    exact construct.regular_outlines o hmem

/-! ## Two renderers -/

/-- Two steps are the same but for texts that were rendered: they are of one kind and from one line,
a declared name is the same, and a text that the kind does not have is empty in both. -/
structure Step.Agrees (s s' : Step) : Prop where
  line : s.line = s'.line
  kind : s.kind = s'.kind
  declared : s.kind.declares = true → s.name = s'.name
  name : s.kind.hasName = false → s.name = "" ∧ s'.name = ""
  condition : s.kind.hasCondition = false → s.condition = "" ∧ s'.condition = ""
  value : s.kind.hasValue = false → s.value = "" ∧ s'.value = ""

theorem Step.Outline.Regular.agrees {o : Step.Outline} (h : o.Regular) (r r' : Renderer) :
    (o.fill r).Agrees (o.fill r') := by
  have hempty : ∀ {pieces : List Piece}, pieces = [] →
      Piece.renderAll r pieces = "" ∧ Piece.renderAll r' pieces = "" := by
    rintro _ rfl
    exact ⟨rfl, rfl⟩
  refine ⟨rfl, rfl, fun hkind => ?_, fun hkind => hempty (h.name hkind),
    fun hkind => hempty (h.condition hkind), fun hkind => hempty (h.value hkind)⟩
  obtain ⟨name, hname⟩ := h.declared hkind
  simp [fill, hname]

/-- Under two renderers a program either fails with one error, or has steps that agree one by one;
they are the two renderings of one outline, so nothing but rendered text sets them apart. -/
theorem flatten_renderers (r r' : Renderer) (program : List Statement) :
    (∃ e, flatten r program = .error e ∧ flatten r' program = .error e)
      ∨ ∃ m m' : Model, flatten r program = .ok m ∧ flatten r' program = .ok m'
        ∧ m.length = m'.length ∧ List.Forall₂ Step.Agrees m m'
        ∧ ∃ os : List Step.Outline, m = os.map (·.fill r) ∧ m' = os.map (·.fill r') := by
  rw [flatten_eq_fill, flatten_eq_fill]
  cases houtline : outline program with
  | error e => exact .inl ⟨e, rfl, rfl⟩
  | ok os =>
    refine .inr ⟨_, _, rfl, rfl, by simp, ?_, os, rfl, rfl⟩
    rw [List.forall₂_map_left_iff, List.forall₂_map_right_iff, List.forall₂_same]
    intro o ho
    exact (regular_of_outline houtline o ho).agrees r r'

end ScriptSteps
