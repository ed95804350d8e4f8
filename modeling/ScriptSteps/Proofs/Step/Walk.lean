import Mathlib
import ScriptSteps.Step.Visit

/-!
# The walk over a program

A walk over a program meets its statements in source order, each before those inside it, and between
them the later branches of `if` chains. What the walk gives is decided by these constructs one by
one: it fails at the first statement that is unsupported, and if there is none, its steps are those
of the constructs in a row.

## Main definitions

* `Statement.Unsupported`: the statements that have no steps, and what an error says of them
* `Construct`: a statement, or a later branch of an `if` chain
* `Construct.steps`: the steps that a construct has by itself
* `statementConstructs`: what a walk over statements meets

## Main statements

* `flatten_eq_gather`: the walk gives what its constructs give one by one
* `flatten_visited`: when the walk fails and with which error, and what its steps are otherwise
-/

namespace ScriptSteps

/-! ## Unsupported statements -/

/-- The statements without steps, with the construct that an error names and the line it gives. An
expression is named by its own kind, an assignment by its operator and with its own line. -/
inductive Statement.Unsupported : Statement → (construct : String) → (line : ℕ) → Prop where
  | block (braces : Block) : Unsupported (.block braces) "BlockStatement" braces.line
  | switch (discriminant : Expression) (cases : List SwitchCase) (line : ℕ) :
      Unsupported (.switch discriminant cases line) "SwitchStatement" line
  | doWhile (body : Body) (test : Expression) (line : ℕ) :
      Unsupported (.doWhile body test line) "DoWhileStatement" line
  | break_ (label : Option Identifier) (line : ℕ) :
      Unsupported (.break_ label line) "BreakStatement" line
  | continue_ (label : Option Identifier) (line : ℕ) :
      Unsupported (.continue_ label line) "ContinueStatement" line
  | throw (argument : Expression) (line : ℕ) :
      Unsupported (.throw argument line) "ThrowStatement" line
  | try_ (block : Block) (handler : Option CatchClause) (finalizer : Option Block) (line : ℕ) :
      Unsupported (.try_ block handler finalizer line) "TryStatement" line
  | empty (line : ℕ) : Unsupported (.empty line) "EmptyStatement" line
  | expression (e : Expression) (line : ℕ)
      (notUpdate : ∀ operator argument isPrefix l, e ≠ .update operator argument isPrefix l)
      (notAssignment : ∀ operator left right l, e ≠ .assignment operator left right l) :
      Unsupported (.expression e line) e.typeName line
  | assignment (operator : AssignmentOperator) (left right : Expression) (line outer : ℕ)
      (other : operator ∉ [.assign, .addAssign, .subtractAssign]) :
      Unsupported (.expression (.assignment operator left right line) outer) operator.text line

/-- What stops a walk at a statement is that the statement is unsupported. -/
theorem Statement.obstacle?_eq_some_iff {s : Statement} {e : Error} :
    s.obstacle? = some e ↔
      ∃ construct line, s.Unsupported construct line ∧ e = .unsupported construct line := by
  constructor
  · intro h
    cases s with
    | expression value line =>
      cases value with
      | update => cases h
      | assignment operator left right assignmentLine =>
        refine ⟨_, _, .assignment operator left right assignmentLine line ?_, ?_⟩ <;>
          cases operator <;> simp_all [obstacle?]
      | _ => exact ⟨_, _, .expression _ line (by simp) (by simp), (Option.some.inj h).symm⟩
    | block braces => exact ⟨_, _, .block braces, (Option.some.inj h).symm⟩
    | switch discriminant cases line => exact ⟨_, _, .switch .., (Option.some.inj h).symm⟩
    | doWhile body test line => exact ⟨_, _, .doWhile .., (Option.some.inj h).symm⟩
    | break_ label line => exact ⟨_, _, .break_ .., (Option.some.inj h).symm⟩
    | continue_ label line => exact ⟨_, _, .continue_ .., (Option.some.inj h).symm⟩
    | throw argument line => exact ⟨_, _, .throw .., (Option.some.inj h).symm⟩
    | try_ block handler finalizer line => exact ⟨_, _, .try_ .., (Option.some.inj h).symm⟩
    | empty line => exact ⟨_, _, .empty line, (Option.some.inj h).symm⟩
    | declaration | function | return_ | while_ | if_ | for_ => cases h
  · rintro ⟨construct, line, h, rfl⟩
    cases h with
    | expression e line notUpdate notAssignment =>
      cases e with
      | update operator argument isPrefix l =>
        exact absurd rfl (notUpdate operator argument isPrefix l)
      | assignment operator left right l => exact absurd rfl (notAssignment operator left right l)
      | _ => rfl
    | assignment operator left right line outer other =>
      cases operator <;> first | rfl | simp at other
    | _ => rfl

/-! ## Constructs -/

/-- What a walk over a program meets. -/
inductive Construct where
  | statement (s : Statement)
  /-- A later test of an `if` chain, with what follows it. -/
  | elseIf (chain : IfStatement)
  /-- The end of an `if` chain that has no test. -/
  | else_ (body : Body)

namespace Construct

/-- The statement that a construct is; the later branches of an `if` chain are none. -/
def statement? : Construct → Option Statement
  | statement s => some s
  | elseIf _ | else_ _ => none

/-- Why a construct by itself has no steps; none if it has. -/
def obstacle? (construct : Construct) : Option Error :=
  construct.statement?.bind Statement.obstacle?

end Construct

/-- The step of a test of an `if` chain. -/
def IfStatement.step (r : Renderer) (kind : StepKind) : IfStatement → Step
  | .mk test _ _ line => .ofTest r kind test line

/-- The steps that a construct has by itself: a function has one and then one for each parameter, a
declaration one for each variable, and the others one. -/
def Construct.steps (r : Renderer) : Construct → Model
  | .statement (.function id params _ line) => .ofFunction id line :: params.map .ofParameter
  | .statement (.declaration declared) => declared.declarations.map (.ofDeclarator r)
  | .statement (.expression (.update operator argument _ line) _) =>
    [.ofUpdate r operator argument line]
  | .statement (.expression (.assignment operator left right line) _) =>
    let target := r.expression left
    (Step.assignedValue? operator target (r.expression right)).toList.map fun value =>
      ⟨line, .assignmentExpression, target, "", value⟩
  | .statement (.return_ argument line) => [.ofReturn r argument line]
  | .statement (.while_ test _ line) => [.ofWhile r test line]
  | .statement (.for_ init test update _ line) => [.ofFor r init test update line]
  | .statement (.if_ chain) => [chain.step r .ifStatement]
  | .statement _ => []
  | .elseIf chain => [chain.step r .elseIfStatement]
  | .else_ body => [.ofElse body]

mutual

/-- What a walk over a statement meets, the statement first. -/
def Statement.constructs : Statement → List Construct
  | .function id params body line =>
    .statement (.function id params body line) :: statementConstructs body
  | .while_ test body line => .statement (.while_ test body line) :: body.constructs
  | .for_ init test update body line =>
    .statement (.for_ init test update body line) :: body.constructs
  | .if_ chain => .statement (.if_ chain) :: chain.constructs
  | s => [.statement s]

/-- What a walk over statements in a row meets. -/
def statementConstructs : List Statement → List Construct
  | [] => []
  | first :: rest => first.constructs ++ statementConstructs rest

/-- What a walk over a loop's or branch's body meets. -/
def Body.constructs : Body → List Construct
  | .block (.mk body _) => statementConstructs body
  | .single s => s.constructs

/-- What a walk over the branches of an `if` chain meets. -/
def IfStatement.constructs : IfStatement → List Construct
  | .mk _ consequent alternate _ => consequent.constructs ++ alternateConstructs alternate

/-- What a walk over the `else` part of an `if` meets. -/
def alternateConstructs : Option Alternate → List Construct
  | none => []
  | some (.elseIf next) => .elseIf next :: next.constructs
  | some (.else_ body) => .else_ body :: body.constructs

end

mutual

theorem Statement.filterMap_constructs :
    (s : Statement) → s.constructs.filterMap Construct.statement? = s.visits
  | .function id params body line => by
    simp [Statement.constructs, Statement.visits, Construct.statement?,
      filterMap_statementConstructs body]
  | .while_ test body line => by
    simp [Statement.constructs, Statement.visits, Construct.statement?, body.filterMap_constructs]
  | .for_ init test update body line => by
    simp [Statement.constructs, Statement.visits, Construct.statement?, body.filterMap_constructs]
  | .if_ chain => by
    simp [Statement.constructs, Statement.visits, Construct.statement?, chain.filterMap_constructs]
  | .declaration _ | .expression _ _ | .block _ | .switch _ _ _ | .doWhile _ _ _ | .return_ _ _
  | .break_ _ _ | .continue_ _ _ | .throw _ _ | .try_ _ _ _ _ | .empty _ => rfl

/-- The statements among what a walk meets are those that it visits. -/
theorem filterMap_statementConstructs : (ss : List Statement) →
    (statementConstructs ss).filterMap Construct.statement? = statementVisits ss
  | [] => rfl
  | first :: rest => by
    rw [statementConstructs, statementVisits, List.filterMap_append, first.filterMap_constructs,
      filterMap_statementConstructs rest]

theorem Body.filterMap_constructs :
    (body : Body) → body.constructs.filterMap Construct.statement? = body.visits
  | .block (.mk body _) => filterMap_statementConstructs body
  | .single s => s.filterMap_constructs

theorem IfStatement.filterMap_constructs :
    (chain : IfStatement) → chain.constructs.filterMap Construct.statement? = chain.visits
  | .mk _ consequent alternate _ => by
    rw [IfStatement.constructs, IfStatement.visits, List.filterMap_append,
      consequent.filterMap_constructs, filterMap_alternateConstructs alternate]

theorem filterMap_alternateConstructs : (alternate : Option Alternate) →
    (alternateConstructs alternate).filterMap Construct.statement? = alternateVisits alternate
  | none => rfl
  | some (.elseIf next) => next.filterMap_constructs
  | some (.else_ body) => body.filterMap_constructs

end

/-! ## What the constructs give -/

/-- What constructs give one by one: the first obstacle among them, or their steps in a row. -/
def gather (r : Renderer) (constructs : List Construct) : Except Error Model :=
  match constructs.findSome? Construct.obstacle? with
  | some e => .error e
  | none => .ok (constructs.flatMap (Construct.steps r))

section Gather

variable {r : Renderer}

theorem gather_append (first second : List Construct) :
    gather r (first ++ second) = do
      let before ← gather r first
      let after ← gather r second
      return before ++ after := by
  unfold gather
  rw [List.findSome?_append, List.flatMap_append]
  cases first.findSome? Construct.obstacle? with
  | some e => rfl
  | none => cases second.findSome? Construct.obstacle? <;> rfl

theorem gather_singleton (construct : Construct) :
    gather r [construct] = match construct.obstacle? with
      | some e => .error e
      | none => .ok (construct.steps r) := by
  unfold gather
  cases h : construct.obstacle? <;> simp [h]

/-- A construct with steps comes before what it holds. -/
theorem gather_cons {construct : Construct} (h : construct.obstacle? = none)
    (inner : List Construct) :
    gather r (construct :: inner) = do
      let m ← gather r inner
      return construct.steps r ++ m := by
  have happend := gather_append (r := r) [construct] inner
  rwa [gather_singleton, h] at happend

end Gather

theorem Expression.steps_eq_gather (r : Renderer) (line : ℕ) (e : Expression) :
    e.steps r line = gather r [.statement (.expression e line)] := by
  rw [gather_singleton]
  cases e with
  | assignment operator left right assignmentLine => cases operator <;> rfl
  | _ => rfl

mutual

theorem Statement.steps_eq_gather (r : Renderer) :
    (s : Statement) → s.steps r = gather r s.constructs
  | .function id params body line => by
    rw [Statement.steps, Statement.constructs, gather_cons rfl, statementSteps_eq_gather r body]
    rfl
  | .while_ test body line => by
    rw [Statement.steps, Statement.constructs, gather_cons rfl, body.steps_eq_gather r]
    rfl
  | .for_ init test update body line => by
    rw [Statement.steps, Statement.constructs, gather_cons rfl, body.steps_eq_gather r]
    rfl
  | .if_ chain => by
    rw [Statement.steps, Statement.constructs, gather_cons rfl, chain.steps_eq_gather r]
    rfl
  | .expression e line => e.steps_eq_gather r line
  | .declaration declared => (gather_singleton (.statement (.declaration declared))).symm
  | .block _ | .switch _ _ _ | .doWhile _ _ _ | .return_ _ _ | .break_ _ _ | .continue_ _ _
  | .throw _ _ | .try_ _ _ _ _ | .empty _ => rfl

theorem statementSteps_eq_gather (r : Renderer) :
    (ss : List Statement) → statementSteps r ss = gather r (statementConstructs ss)
  | [] => rfl
  | first :: rest => by
    rw [statementSteps, statementConstructs, gather_append, first.steps_eq_gather r,
      statementSteps_eq_gather r rest]

theorem Body.steps_eq_gather (r : Renderer) :
    (body : Body) → body.steps r = gather r body.constructs
  | .block (.mk body _) => statementSteps_eq_gather r body
  | .single s => s.steps_eq_gather r

theorem IfStatement.steps_eq_gather (r : Renderer) (kind : StepKind) :
    (chain : IfStatement) → chain.steps r kind = do
      let m ← gather r chain.constructs
      return chain.step r kind :: m
  | .mk test consequent alternate line => by
    rw [IfStatement.steps, IfStatement.constructs, gather_append, consequent.steps_eq_gather r,
      alternateSteps_eq_gather r alternate]
    cases gather r consequent.constructs with
    | error e => rfl
    | ok inner => cases gather r (alternateConstructs alternate) <;> rfl

theorem alternateSteps_eq_gather (r : Renderer) : (alternate : Option Alternate) →
    alternateSteps r alternate = gather r (alternateConstructs alternate)
  | none => rfl
  | some (.elseIf next) => by
    rw [alternateSteps, alternateConstructs, gather_cons rfl, next.steps_eq_gather r]
    rfl
  | some (.else_ body) => by
    rw [alternateSteps, alternateConstructs, gather_cons rfl, body.steps_eq_gather r]
    rfl

end

/-- A walk over a program gives what its constructs give one by one; only the visited statements
can be obstacles. -/
theorem flatten_eq_gather (r : Renderer) (program : List Statement) :
    flatten r program = match (statementVisits program).findSome? Statement.obstacle? with
      | some e => .error e
      | none => .ok ((statementConstructs program).flatMap (Construct.steps r)) := by
  rw [← filterMap_statementConstructs, ← List.head?_filterMap, List.filterMap_filterMap,
    List.head?_filterMap]
  exact statementSteps_eq_gather r program

/-! ## Success and failure -/

theorem Statement.obstacle?_eq_none_iff {s : Statement} :
    s.obstacle? = none ↔ ∀ construct line, ¬s.Unsupported construct line := by
  rw [Option.eq_none_iff_forall_ne_some]
  constructor
  · intro h construct line hs
    exact h _ (obstacle?_eq_some_iff.2 ⟨construct, line, hs, rfl⟩)
  · intro h e he
    obtain ⟨construct, line, hs, -⟩ := obstacle?_eq_some_iff.1 he
    exact h construct line hs

/-- A walk fails if and only if a visited statement is unsupported, and then the error is that of
the first such statement; otherwise its steps are those of all constructs in a row. The statements
among the constructs are the visited ones. -/
theorem flatten_visited (r : Renderer) (program : List Statement) :
    ((∃ e, flatten r program = .error e) ↔
      ∃ s ∈ statementVisits program, ∃ construct line, s.Unsupported construct line)
    ∧ (∀ before s after construct line, statementVisits program = before ++ s :: after →
      (∀ t ∈ before, ∀ construct line, ¬t.Unsupported construct line) →
      s.Unsupported construct line → flatten r program = .error (.unsupported construct line))
    ∧ ((∀ s ∈ statementVisits program, ∀ construct line, ¬s.Unsupported construct line) →
      flatten r program = .ok ((statementConstructs program).flatMap (Construct.steps r)))
    ∧ (statementConstructs program).filterMap Construct.statement? = statementVisits program := by
  have hnone : (statementVisits program).findSome? Statement.obstacle? = none ↔
      ∀ s ∈ statementVisits program, ∀ construct line, ¬s.Unsupported construct line := by
    simp only [List.findSome?_eq_none_iff, Statement.obstacle?_eq_none_iff]
  refine ⟨?_, ?_, ?_, filterMap_statementConstructs program⟩
  · rw [flatten_eq_gather]
    cases hfirst : (statementVisits program).findSome? Statement.obstacle? with
    | none =>
      simpa using hnone.1 hfirst
    | some e =>
      obtain ⟨s, hs, hobstacle⟩ := List.exists_of_findSome?_eq_some hfirst
      obtain ⟨construct, line, hunsupported, -⟩ := Statement.obstacle?_eq_some_iff.1 hobstacle
      exact ⟨fun _ => ⟨s, hs, construct, line, hunsupported⟩, fun _ => ⟨e, rfl⟩⟩
  · intro before s after construct line hvisits hbefore hs
    have hfirst : before.findSome? Statement.obstacle? = none :=
      List.findSome?_eq_none_iff.2 fun t ht => Statement.obstacle?_eq_none_iff.2 (hbefore t ht)
    have hobstacle := Statement.obstacle?_eq_some_iff.2 ⟨construct, line, hs, rfl⟩
    rw [flatten_eq_gather, hvisits, List.findSome?_append, hfirst, List.findSome?_cons, hobstacle]
    rfl
  · intro hall
    rw [flatten_eq_gather, hnone.2 hall]

/-- A chain whose `else` holds two unsupported statements, and the same chain with the first of its
branches in that place. -/
theorem flatten_visited_chain :
    let x : Expression := .identifier ⟨"x", 1⟩
    let update : Statement := .expression (.update .increment x false 2) 2
    let chain (last : List Statement) : Statement :=
      .if_ (.mk x (.single update) (some (.else_ (.block (.mk last 3)))) 1)
    flatten .canonical [chain [.empty 4, .break_ none 5]] = .error (.unsupported "EmptyStatement" 4)
      ∧ flatten .canonical [chain [update]] = .ok
        [⟨1, .ifStatement, "", "x", ""⟩, ⟨2, .updateExpression, "x", "", "x + 1"⟩,
          ⟨3, .elseStatement, "", "", ""⟩, ⟨2, .updateExpression, "x", "", "x + 1"⟩] := by
  intro x update chain
  have hsupported : ∀ last, ∀ t ∈ [chain last, update], ∀ construct line,
      ¬t.Unsupported construct line := by
    intro last
    simp only [List.forall_mem_cons, List.not_mem_nil, IsEmpty.forall_iff, implies_true, and_true]
    exact ⟨Statement.obstacle?_eq_none_iff.1 rfl, Statement.obstacle?_eq_none_iff.1 rfl⟩
  constructor
  · exact (flatten_visited .canonical _).2.1 [chain [.empty 4, .break_ none 5], update] (.empty 4)
      [.break_ none 5] _ _ rfl (hsupported _) (.empty 4)
  · refine ((flatten_visited .canonical _).2.2.1 fun s hs => ?_).trans rfl
    have hmem : s ∈ [chain [update], update] := by
      simpa [statementVisits, Statement.visits, IfStatement.visits, alternateVisits, Body.visits,
        chain, update, or_comm] using hs
    exact hsupported _ s hmem

end ScriptSteps
