import Mathlib
import ScriptSteps.Step.Flatten

/-!
# Braces around a single statement

A body with one statement may stand in braces or not. The walk over a program looks through the
braces, and the line of a body is that of its first token in both forms, so it makes no difference
to the steps, or to the error, which of the bodies in a program have them.

## Main definitions

* `Statement.Braced`, `Body.Braced` and so on: the same tree, with braces around some of its bodies

## Main statements

* `Statement.Braced.line_eq`, `Body.Braced.line_eq`: braces do not move anything to another line
* `flatten_braced`: the steps of a program with braces around some of its bodies
-/

namespace ScriptSteps

/-! ## Trees with braces added -/

mutual

/-- The second statement is the first with braces around some of the bodies in it that are single
statements, no matter how many and how deep inside. -/
inductive Statement.Braced : Statement → Statement → Prop where
  | refl (s : Statement) : Statement.Braced s s
  | function {body body' : List Statement} (id : Identifier) (params : List Identifier) (line : ℕ)
      (hbody : List.Forall₂ Statement.Braced body body') :
      Statement.Braced (.function id params body line) (.function id params body' line)
  | block {braces braces' : Block} (h : Block.Braced braces braces') :
      Statement.Braced (.block braces) (.block braces')
  | if_ {chain chain' : IfStatement} (h : IfStatement.Braced chain chain') :
      Statement.Braced (.if_ chain) (.if_ chain')
  | switch {cases cases' : List SwitchCase} (discriminant : Expression) (line : ℕ)
      (hcases : List.Forall₂ SwitchCase.Braced cases cases') :
      Statement.Braced (.switch discriminant cases line) (.switch discriminant cases' line)
  | while_ {body body' : Body} (test : Expression) (line : ℕ) (hbody : Body.Braced body body') :
      Statement.Braced (.while_ test body line) (.while_ test body' line)
  | doWhile {body body' : Body} (test : Expression) (line : ℕ) (hbody : Body.Braced body body') :
      Statement.Braced (.doWhile body test line) (.doWhile body' test line)
  | for_ {body body' : Body} (init : Option ForInit) (test update : Option Expression) (line : ℕ)
      (hbody : Body.Braced body body') :
      Statement.Braced (.for_ init test update body line) (.for_ init test update body' line)
  | try_ {block block' : Block} {handler handler' : Option CatchClause}
      {finalizer finalizer' : Option Block} (line : ℕ) (hblock : Block.Braced block block')
      (hhandler : Option.Rel CatchClause.Braced handler handler')
      (hfinalizer : Option.Rel Block.Braced finalizer finalizer') :
      Statement.Braced (.try_ block handler finalizer line) (.try_ block' handler' finalizer' line)

/-- The same of statements in braces. -/
inductive Block.Braced : Block → Block → Prop where
  | mk {body body' : List Statement} (line : ℕ)
      (hbody : List.Forall₂ Statement.Braced body body') :
      Block.Braced (.mk body line) (.mk body' line)

/-- The same of a body, which may itself be put into braces if it is a single statement. The braces
are on the line of the statement. -/
inductive Body.Braced : Body → Body → Prop where
  | block {braces braces' : Block} (h : Block.Braced braces braces') :
      Body.Braced (.block braces) (.block braces')
  | single {s s' : Statement} (h : Statement.Braced s s') : Body.Braced (.single s) (.single s')
  | braces {s s' : Statement} (h : Statement.Braced s s') :
      Body.Braced (.single s) (.block (.mk [s'] s.line))

/-- The same of an `if` and what its `else` leads to. -/
inductive IfStatement.Braced : IfStatement → IfStatement → Prop where
  | mk {consequent consequent' : Body} {alternate alternate' : Option Alternate}
      (test : Expression) (line : ℕ) (hconsequent : Body.Braced consequent consequent')
      (halternate : Option.Rel Alternate.Braced alternate alternate') :
      IfStatement.Braced (.mk test consequent alternate line) (.mk test consequent' alternate' line)

/-- The same of the `else` part of an `if`. -/
inductive Alternate.Braced : Alternate → Alternate → Prop where
  | elseIf {next next' : IfStatement} (h : IfStatement.Braced next next') :
      Alternate.Braced (.elseIf next) (.elseIf next')
  | else_ {body body' : Body} (h : Body.Braced body body') :
      Alternate.Braced (.else_ body) (.else_ body')

/-- The same of a `case` of a `switch`. -/
inductive SwitchCase.Braced : SwitchCase → SwitchCase → Prop where
  | mk {consequent consequent' : List Statement} (test : Option Expression)
      (hconsequent : List.Forall₂ Statement.Braced consequent consequent') :
      SwitchCase.Braced (.mk test consequent) (.mk test consequent')

/-- The same of the `catch` part of a `try`. -/
inductive CatchClause.Braced : CatchClause → CatchClause → Prop where
  | mk {body body' : Block} (param : Option Identifier) (hbody : Block.Braced body body') :
      CatchClause.Braced (.mk param body) (.mk param body')

end

/-! ## Lines -/

theorem Block.Braced.line_eq {braces braces' : Block} (h : braces.Braced braces') :
    braces'.line = braces.line := by
  cases h
  rfl

theorem Statement.Braced.line_eq {s s' : Statement} (h : s.Braced s') : s'.line = s.line := by
  cases h with
  | block h => exact h.line_eq
  | if_ h =>
    cases h
    rfl
  | _ => rfl

/-- Braces around a body do not change its line. -/
theorem Body.Braced.line_eq {body body' : Body} (h : body.Braced body') :
    body'.line = body.line := by
  cases h with
  | block h => exact h.line_eq
  | single h => exact h.line_eq
  | braces h => rfl

/-! ## Steps -/

theorem Step.ofElse_braced {body body' : Body} (h : body.Braced body') :
    ofElse body' = ofElse body := by
  rw [ofElse, ofElse, h.line_eq]

/-- A single statement in braces has the steps that it has without them. -/
theorem Body.steps_braces (r : Renderer) (s : Statement) (line : ℕ) :
    (Body.block (.mk [s] line)).steps r = s.steps r := by
  rw [Body.steps, statementSteps, statementSteps]
  cases s.steps r with
  | error e => rfl
  | ok m => exact congrArg Except.ok (List.append_nil m)

section Walk

variable (r : Renderer)

mutual

/-- A statement with braces added inside it has the same steps, or the same error. -/
theorem Statement.steps_braced : (s : Statement) → ∀ {s' : Statement}, s.Braced s' →
    s'.steps r = s.steps r
  | .function id params body line, _, h => by
    cases h with
    | refl => rfl
    | function _ _ _ hbody =>
      rw [Statement.steps, Statement.steps, statementSteps_braced body hbody]
  | .while_ test body line, _, h => by
    cases h with
    | refl => rfl
    | while_ _ _ hbody => rw [Statement.steps, Statement.steps, body.steps_braced hbody]
  | .for_ init test update body line, _, h => by
    cases h with
    | refl => rfl
    | for_ _ _ _ _ hbody => rw [Statement.steps, Statement.steps, body.steps_braced hbody]
  | .if_ chain, _, h => by
    cases h with
    | refl => rfl
    | if_ hchain => rw [Statement.steps, Statement.steps, chain.steps_braced .ifStatement hchain]
  | .block braces, _, h => by
    cases h with
    | refl => rfl
    | block hbraces => rw [Statement.steps, Statement.steps, hbraces.line_eq]
  -- What is inside a statement without steps is not looked at.
  | .switch _ _ _, _, h | .doWhile _ _ _, _, h | .try_ _ _ _ _, _, h
  | .declaration _, _, h | .expression _ _, _, h | .return_ _ _, _, h | .break_ _ _, _, h
  | .continue_ _ _, _, h | .throw _ _, _, h | .empty _, _, h => by
    cases h <;> rfl
termination_by structural s => s

/-- Statements in a row with braces added inside them. -/
theorem statementSteps_braced : (ss : List Statement) → ∀ {ss' : List Statement},
    List.Forall₂ Statement.Braced ss ss' → statementSteps r ss' = statementSteps r ss
  | [], _, h => by
    cases h
    rfl
  | first :: rest, _, h => by
    cases h with
    | cons hfirst hrest =>
      rw [statementSteps, statementSteps, first.steps_braced hfirst,
        statementSteps_braced rest hrest]
termination_by structural ss => ss

theorem Body.steps_braced : (body : Body) → ∀ {body' : Body}, body.Braced body' →
    body'.steps r = body.steps r
  | .block (.mk body _), _, h => by
    cases h with
    | block hbraces =>
      cases hbraces with
      | mk _ hbody => exact statementSteps_braced body hbody
  | .single s, _, h => by
    cases h with
    | single hs => exact s.steps_braced hs
    | braces hs => exact (Body.steps_braces r _ s.line).trans (s.steps_braced hs)
termination_by structural body => body

theorem IfStatement.steps_braced (kind : StepKind) : (chain : IfStatement) →
    ∀ {chain' : IfStatement}, chain.Braced chain' → chain'.steps r kind = chain.steps r kind
  | .mk test consequent alternate line, _, h => by
    cases h with
    | mk _ _ hconsequent halternate =>
      rw [IfStatement.steps, IfStatement.steps, consequent.steps_braced hconsequent,
        alternateSteps_braced alternate halternate]
termination_by structural chain => chain

theorem alternateSteps_braced : (alternate : Option Alternate) →
    ∀ {alternate' : Option Alternate}, Option.Rel Alternate.Braced alternate alternate' →
    alternateSteps r alternate' = alternateSteps r alternate
  | none, _, h => by
    cases h
    rfl
  | some (.elseIf next), _, h => by
    cases h with
    | some hnext =>
      cases hnext with
      | elseIf hnext => exact next.steps_braced .elseIfStatement hnext
  | some (.else_ body), _, h => by
    cases h with
    | some hbody =>
      cases hbody with
      | else_ hbody =>
        rw [alternateSteps, alternateSteps, body.steps_braced hbody, Step.ofElse_braced hbody]
termination_by structural alternate => alternate

end

end Walk

/-- A program with braces around any of its bodies that are single statements has the same steps
under every renderer, or fails with the same error. -/
theorem flatten_braced (r : Renderer) {program program' : List Statement}
    (h : List.Forall₂ Statement.Braced program program') :
    flatten r program' = flatten r program := statementSteps_braced r program h

/-- Braces around both branches of an `if` that is itself the body of a loop, and around an
unsupported statement. -/
theorem flatten_braced_chain :
    let x : Expression := .identifier ⟨"x", 1⟩
    let update (line : ℕ) : Statement := .expression (.update .increment x false line) line
    let braces (s : Statement) : Body := .block (.mk [s] s.line)
    let loop (consequent last : Body) : Statement :=
      .while_ x (.single (.if_ (.mk x consequent (some (.else_ last)) 2))) 1
    let plain := [loop (.single (update 3)) (.single (update 4)),
      .for_ none none none (.single (.empty 5)) 5]
    let braced := [loop (braces (update 3)) (braces (update 4)),
      .for_ none none none (braces (.empty 5)) 5]
    List.Forall₂ Statement.Braced plain braced
      ∧ flatten .canonical braced = flatten .canonical plain
      ∧ flatten .canonical plain = .error (.unsupported "EmptyStatement" 5) := by
  intro x update braces loop plain braced
  have hbraces (s : Statement) : (Body.single s).Braced (braces s) := .braces (.refl s)
  have hloop : (loop (.single (update 3)) (.single (update 4))).Braced
      (loop (braces (update 3)) (braces (update 4))) :=
    .while_ x 1 (.single (.if_ (.mk x 2 (hbraces _) (.some (.else_ (hbraces _))))))
  have h : List.Forall₂ Statement.Braced plain braced :=
    .cons hloop (.cons (.for_ none none none 5 (hbraces _)) .nil)
  exact ⟨h, flatten_braced .canonical h, rfl⟩

end ScriptSteps
