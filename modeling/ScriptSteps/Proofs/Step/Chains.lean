import Mathlib
import ScriptSteps.Proofs.Grammar.Ladder
import ScriptSteps.Proofs.Step.Walk

/-!
# The steps of `if` chains

The steps of a chain are those of its branches one after another: a branch has one step of its own,
and then those of its body. The first branch is an `if`, then come the `else if`s and at most one
`else`. Chains can stand inside the branches of others; still, wherever a model has an `else if` or
an `else`, there are more `if`s before it than `else`s.

## Main definitions

* `IfStatement.branches`: the branches of a chain
* `ElsesFit`: kinds in a row in which every `else` has an `if` to go with
* `MeetsWhole`: constructs in a row in which all that a statement holds comes right after it

## Main statements

* `statementConstructs_elsesFit`, `statementConstructs_meetsWhole`: both hold of every walk
* `IfStatement.steps_eq_flatMap`: the steps of a chain are those of its branches
* `flatten_chains`: the `else`s of a model, and the steps of each chain of a program
-/

namespace ScriptSteps

/-! ## Open `if`s -/

/-- Whether steps of a kind start a branch that goes on with a chain. -/
def StepKind.isLaterBranch : StepKind → Bool
  | elseIfStatement | elseStatement => true
  | _ => false

/-- Kinds in a row in which later branches stand only where more `if`s than `else`s came before, if
the given number of `if`s is counted beforehand. -/
structure ElsesFit (opened : ℕ) (kinds : List StepKind) : Prop where
  /-- Before a later branch some `if` is open. -/
  open_before : ∀ (before : List StepKind) (kind : StepKind) (after : List StepKind),
    kinds = before ++ kind :: after → kind.isLaterBranch = true →
    before.count .elseStatement < opened + before.count .ifStatement
  /-- In the end there are no more `else`s than `if`s. -/
  total : kinds.count .elseStatement ≤ opened + kinds.count .ifStatement

namespace ElsesFit

variable {opened opened' : ℕ} {kind : StepKind} {kinds kinds' : List StepKind}

theorem nil : ElsesFit opened [] := ⟨by simp, by simp⟩

/-- What the first kind leaves open can be used by the ones after it. -/
theorem cons (hkind : kind.isLaterBranch = true → 0 < opened)
    (hopened : opened' + [kind].count .elseStatement ≤ opened + [kind].count .ifStatement)
    (h : ElsesFit opened' kinds) : ElsesFit opened (kind :: kinds) := by
  constructor
  · intro before later after hsplit hlater
    cases before with
    | nil =>
      obtain ⟨rfl, -⟩ := List.cons.inj hsplit
      simpa using hkind hlater
    | cons first before =>
      obtain ⟨rfl, hrest⟩ := List.cons.inj hsplit
      have hbefore := h.open_before before later after hrest hlater
      rw [← List.singleton_append, List.count_append, List.count_append]
      omega
  · have htotal := h.total
    rw [← List.singleton_append, List.count_append, List.count_append]
    omega

/-- What the first kinds leave open stays so if the others do without. -/
theorem append (h : ElsesFit opened kinds) (h' : ElsesFit opened' kinds') :
    ElsesFit (opened + opened') (kinds ++ kinds') := by
  have htotal := h.total
  have htotal' := h'.total
  constructor
  · intro before kind after hsplit hkind
    rcases List.append_eq_append_iff.1 hsplit with
      ⟨middle, rfl, hmiddle⟩ | ⟨_ | ⟨first, middle⟩, rfl, hmiddle⟩
    · have hbefore := h'.open_before middle kind after hmiddle hkind
      rw [List.count_append, List.count_append]
      omega
    · have hbefore := h'.open_before [] kind after hmiddle.symm hkind
      rw [List.append_nil] at htotal
      simp only [List.count_nil] at hbefore
      omega
    · obtain ⟨rfl, -⟩ := List.cons.inj hmiddle
      have hbefore := h.open_before before kind middle rfl hkind
      omega
  · rw [List.count_append, List.count_append]
    omega

theorem count_lt (h : ElsesFit opened kinds) {i : ℕ} (hi : kinds[i]? = some kind)
    (hkind : kind.isLaterBranch = true) :
    (kinds.take i).count .elseStatement < opened + (kinds.take i).count .ifStatement := by
  obtain ⟨hi, rfl⟩ := List.getElem?_eq_some_iff.1 hi
  exact h.open_before _ kinds[i] (kinds.drop (i + 1)) (by simp) hkind

/-- Kinds without later branches. -/
theorem of_forall (h : ∀ kind ∈ kinds, kind.isLaterBranch = false) : ElsesFit 0 kinds := by
  constructor
  · rintro before kind after rfl hkind
    exact absurd hkind (Bool.eq_false_iff.1 (h kind (by simp)))
  · have hnone : kinds.count .elseStatement = 0 :=
      List.count_eq_zero.2 fun hmem => Bool.noConfusion (h _ hmem)
    omega

end ElsesFit

/-- The kinds of the steps that constructs have one by one. -/
def stepKinds (r : Renderer) (constructs : List Construct) : List StepKind :=
  constructs.flatMap fun construct => (construct.steps r).map Step.kind

section Kinds

variable {r : Renderer}

theorem stepKinds_append (first second : List Construct) :
    stepKinds r (first ++ second) = stepKinds r first ++ stepKinds r second :=
  List.flatMap_append

theorem stepKinds_if (chain : IfStatement) (constructs : List Construct) :
    stepKinds r (.statement (.if_ chain) :: constructs)
      = .ifStatement :: stepKinds r constructs := by
  cases chain
  rfl

theorem stepKinds_elseIf (chain : IfStatement) (constructs : List Construct) :
    stepKinds r (.elseIf chain :: constructs) = .elseIfStatement :: stepKinds r constructs := by
  cases chain
  rfl

theorem stepKinds_else (body : Body) (constructs : List Construct) :
    stepKinds r (.else_ body :: constructs) = .elseStatement :: stepKinds r constructs :=
  rfl

/-- A statement has no steps of later branches. -/
theorem Statement.isLaterBranch_eq_false (s : Statement) :
    ∀ step ∈ (Construct.statement s).steps r, step.kind.isLaterBranch = false := by
  intro step hstep
  cases s with
  | function id params body line =>
    rcases List.mem_cons.1 hstep with rfl | hparam
    · rfl
    · obtain ⟨param, -, rfl⟩ := List.mem_map.1 hparam
      rfl
  | declaration declared =>
    obtain ⟨d, -, rfl⟩ := List.mem_map.1 hstep
    rfl
  | expression e line =>
    cases e with
    | update operator argument isPrefix updateLine =>
      obtain rfl := List.mem_singleton.1 hstep
      rfl
    | assignment operator left right assignmentLine =>
      obtain ⟨value, -, rfl⟩ := List.mem_map.1 hstep
      rfl
    | _ => cases hstep
  | if_ chain =>
    obtain rfl := List.mem_singleton.1 hstep
    cases chain
    rfl
  | return_ | while_ | for_ =>
    obtain rfl := List.mem_singleton.1 hstep
    rfl
  | _ => cases hstep

/-- The steps of a statement that is no chain use none of the open `if`s. -/
theorem elsesFit_cons (s : Statement) {constructs : List Construct}
    (h : ElsesFit 0 (stepKinds r constructs)) :
    ElsesFit 0 (stepKinds r (.statement s :: constructs)) := by
  have hown : ElsesFit 0 (((Construct.statement s).steps r).map Step.kind) :=
    .of_forall <| List.forall_mem_map.2 s.isLaterBranch_eq_false
  exact hown.append h

mutual

theorem Statement.elsesFit :
    (s : Statement) → ElsesFit 0 (stepKinds r s.constructs)
  | .function id params body line => by
    rw [Statement.constructs]
    exact elsesFit_cons _ (elsesFit_statements body)
  | .while_ test body line => by
    rw [Statement.constructs]
    exact elsesFit_cons _ body.elsesFit
  | .for_ init test update body line => by
    rw [Statement.constructs]
    exact elsesFit_cons _ body.elsesFit
  | .if_ chain => by
    rw [Statement.constructs, stepKinds_if]
    exact chain.elsesFit.cons nofun le_rfl
  | .declaration _ | .expression _ _ | .block _ | .switch _ _ _ | .doWhile _ _ _ | .return_ _ _
  | .break_ _ _ | .continue_ _ _ | .throw _ _ | .try_ _ _ _ _ | .empty _ =>
    elsesFit_cons _ .nil

theorem elsesFit_statements :
    (ss : List Statement) → ElsesFit 0 (stepKinds r (statementConstructs ss))
  | [] => .nil
  | first :: rest => by
    rw [statementConstructs, stepKinds_append]
    exact first.elsesFit.append (elsesFit_statements rest)

theorem Body.elsesFit : (body : Body) → ElsesFit 0 (stepKinds r body.constructs)
  | .block (.mk body _) => elsesFit_statements body
  | .single s => s.elsesFit

theorem IfStatement.elsesFit : (chain : IfStatement) → ElsesFit 1 (stepKinds r chain.constructs)
  | .mk _ consequent alternate _ => by
    rw [IfStatement.constructs, stepKinds_append]
    exact consequent.elsesFit.append (elsesFit_alternate alternate)

theorem elsesFit_alternate : (alternate : Option Alternate) →
    ElsesFit 1 (stepKinds r (alternateConstructs alternate))
  | none => .nil
  | some (.elseIf next) => by
    rw [alternateConstructs, stepKinds_elseIf]
    exact next.elsesFit.cons (fun _ => one_pos) le_rfl
  | some (.else_ body) => by
    rw [alternateConstructs, stepKinds_else]
    exact body.elsesFit.cons (fun _ => one_pos) le_rfl

end

end Kinds

/-! ## Branches -/

/-- A branch of a chain: the step it starts with, and what is done there. -/
structure Branch where
  step : Step
  body : Body

mutual

/-- The branches of a chain whose first step is of the given kind. -/
def IfStatement.branches (r : Renderer) (kind : StepKind) : IfStatement → List Branch
  | .mk test consequent alternate line =>
    ⟨.ofTest r kind test line, consequent⟩ :: alternateBranches r alternate

/-- The branches that an `else` leads to. -/
def alternateBranches (r : Renderer) : Option Alternate → List Branch
  | none => []
  | some (.elseIf next) => next.branches r .elseIfStatement
  | some (.else_ body) => [⟨.ofElse body, body⟩]

end

section Branches

variable (r : Renderer)

mutual

/-- The bodies of the branches are those of the tests of the chain and of its end. -/
theorem IfStatement.body_branches (kind : StepKind) : (chain : IfStatement) →
    (chain.branches r kind).map Branch.body
      = chain.rungs.map Grammar.Rung.body ++ chain.last?.toList
  | .mk _ consequent alternate _ =>
    congrArg (consequent :: ·) (body_alternateBranches alternate)

theorem body_alternateBranches : (alternate : Option Alternate) →
    (alternateBranches r alternate).map Branch.body
      = (alternateRungs alternate).map Grammar.Rung.body ++ (alternateLast? alternate).toList
  | none => rfl
  | some (.elseIf next) => next.body_branches .elseIfStatement
  | some (.else_ _) => rfl

end

mutual

/-- There is a branch for each test of the chain, the first of the given kind and the others of
another, and a last one for the end without a test. -/
theorem IfStatement.kind_branches (kind : StepKind) : (chain : IfStatement) →
    (chain.branches r kind).map (·.step.kind)
      = kind :: (List.replicate (chain.rungs.length - 1) StepKind.elseIfStatement
        ++ chain.last?.toList.map fun _ => StepKind.elseStatement)
  | .mk _ _ alternate _ => congrArg (kind :: ·) (kind_alternateBranches alternate)

theorem kind_alternateBranches : (alternate : Option Alternate) →
    (alternateBranches r alternate).map (·.step.kind)
      = List.replicate (alternateRungs alternate).length StepKind.elseIfStatement
        ++ (alternateLast? alternate).toList.map fun _ => StepKind.elseStatement
  | none => rfl
  | some (.elseIf next) => by
    have hnext := next.kind_branches .elseIfStatement
    cases next
    exact hnext
  | some (.else_ _) => rfl

end

mutual

/-- The steps of a chain are those of its branches, each with its own step first. -/
theorem IfStatement.steps_eq_flatMap (kind : StepKind) : (chain : IfStatement) →
    chain.step r kind :: chain.constructs.flatMap (Construct.steps r)
      = (chain.branches r kind).flatMap
          fun b => b.step :: b.body.constructs.flatMap (Construct.steps r)
  | .mk test consequent alternate line => by
    rw [IfStatement.branches, IfStatement.constructs, List.flatMap_cons, List.flatMap_append,
      alternateSteps_eq_flatMap alternate]
    rfl

theorem alternateSteps_eq_flatMap : (alternate : Option Alternate) →
    (alternateConstructs alternate).flatMap (Construct.steps r)
      = (alternateBranches r alternate).flatMap
          fun b => b.step :: b.body.constructs.flatMap (Construct.steps r)
  | none => rfl
  | some (.elseIf next) => next.steps_eq_flatMap .elseIfStatement
  | some (.else_ body) => by simp [alternateConstructs, alternateBranches, Construct.steps]

end

mutual

/-- A walk over a chain meets all that is in its branches. -/
theorem IfStatement.constructs_subset (kind : StepKind) : (chain : IfStatement) →
    ∀ b ∈ chain.branches r kind, b.body.constructs ⊆ chain.constructs
  | .mk _ consequent alternate _ => by
    rw [IfStatement.branches, IfStatement.constructs, List.forall_mem_cons]
    refine ⟨List.subset_append_left _ _, fun b hb => ?_⟩
    exact List.subset_append_of_subset_right _ (alternateConstructs_subset alternate b hb)

theorem alternateConstructs_subset : (alternate : Option Alternate) →
    ∀ b ∈ alternateBranches r alternate, b.body.constructs ⊆ alternateConstructs alternate
  | none => nofun
  | some (.elseIf next) => fun b hb =>
    List.subset_cons_of_subset _ (next.constructs_subset .elseIfStatement b hb)
  | some (.else_ body) => fun b hb => by
    obtain rfl := List.mem_singleton.1 hb
    exact List.subset_cons_self _ _

end

end Branches

/-! ## Whole chains -/

/-- Constructs in a row in which all that a walk over a statement meets comes right after it. -/
def MeetsWhole (constructs : List Construct) : Prop :=
  ∀ (before : List Construct) (s : Statement) (after : List Construct),
    constructs = before ++ .statement s :: after →
    ∃ later : List Construct, .statement s :: after = s.constructs ++ later

namespace MeetsWhole

variable {constructs constructs' : List Construct}

theorem nil : MeetsWhole [] := by simp [MeetsWhole]

theorem append (h : MeetsWhole constructs) (h' : MeetsWhole constructs') :
    MeetsWhole (constructs ++ constructs') := by
  intro before s after hsplit
  rcases List.append_eq_append_iff.1 hsplit with
    ⟨middle, rfl, hmiddle⟩ | ⟨_ | ⟨first, middle⟩, rfl, hmiddle⟩
  · exact h' middle s after hmiddle
  · exact h' [] s after hmiddle.symm
  · obtain ⟨rfl, rfl⟩ := List.cons.inj hmiddle
    obtain ⟨later, hlater⟩ := h before s middle rfl
    refine ⟨later ++ constructs', ?_⟩
    rw [← List.append_assoc, ← hlater]
    rfl

/-- A later branch of a chain is no statement. -/
theorem cons {construct : Construct} (hbranch : construct.statement? = none)
    (h : MeetsWhole constructs) : MeetsWhole (construct :: constructs) := by
  intro before s after hsplit
  cases before with
  | nil =>
    obtain ⟨rfl, -⟩ := List.cons.inj hsplit
    cases hbranch
  | cons first before => exact h before s after (List.cons.inj hsplit).2

/-- A statement before what it holds. -/
theorem statement {s : Statement} (hwhole : s.constructs = .statement s :: constructs)
    (h : MeetsWhole constructs) : MeetsWhole s.constructs := by
  intro before t after hsplit
  rw [hwhole] at hsplit
  cases before with
  | nil =>
    obtain ⟨hst, rfl⟩ := List.cons.inj hsplit
    cases hst
    exact ⟨[], by rw [hwhole, List.append_nil]⟩
  | cons first before => exact h before t after (List.cons.inj hsplit).2

end MeetsWhole

mutual

theorem Statement.meetsWhole : (s : Statement) → MeetsWhole s.constructs
  | .function _ _ body _ => (meetsWhole_statements body).statement rfl
  | .while_ _ body _ | .for_ _ _ _ body _ => body.meetsWhole.statement rfl
  | .if_ chain => chain.meetsWhole.statement rfl
  | .declaration _ | .expression _ _ | .block _ | .switch _ _ _ | .doWhile _ _ _ | .return_ _ _
  | .break_ _ _ | .continue_ _ _ | .throw _ _ | .try_ _ _ _ _ | .empty _ =>
    MeetsWhole.nil.statement rfl

/-- All that a walk meets of a statement comes right after it. -/
theorem meetsWhole_statements : (ss : List Statement) → MeetsWhole (statementConstructs ss)
  | [] => .nil
  | first :: rest => first.meetsWhole.append (meetsWhole_statements rest)

theorem Body.meetsWhole : (body : Body) → MeetsWhole body.constructs
  | .block (.mk body _) => meetsWhole_statements body
  | .single s => s.meetsWhole

theorem IfStatement.meetsWhole : (chain : IfStatement) → MeetsWhole chain.constructs
  | .mk _ consequent alternate _ => consequent.meetsWhole.append (meetsWhole_alternate alternate)

theorem meetsWhole_alternate : (alternate : Option Alternate) →
    MeetsWhole (alternateConstructs alternate)
  | none => .nil
  | some (.elseIf next) => next.meetsWhole.cons rfl
  | some (.else_ body) => body.meetsWhole.cons rfl

end

/-! ## Models -/

section Models

variable {r : Renderer}

theorem gather_eq_ok_iff {constructs : List Construct} {m : Model} :
    gather r constructs = .ok m ↔
      (∀ construct ∈ constructs, construct.obstacle? = none)
        ∧ m = constructs.flatMap (Construct.steps r) := by
  rw [gather, ← List.findSome?_eq_none_iff]
  cases constructs.findSome? Construct.obstacle? with
  | some e => simp
  | none => simp [eq_comm]

/-- In the model of a program each `else if` and `else` has more `if`s than `else`s before it.
Wherever in the program a chain is met, its steps come in a row: an `if`, an `else if` for each
further test, and an `else` if the chain has one, each of them followed by the steps of the body of
its branch and nothing else. -/
theorem flatten_chains {program : List Statement} {m : Model} (h : flatten r program = .ok m) :
    (∀ (i : ℕ) (s : Step), m[i]? = some s → s.kind = .elseIfStatement ∨ s.kind = .elseStatement →
      ((m.take i).map Step.kind).count .elseStatement
        < ((m.take i).map Step.kind).count .ifStatement)
      ∧ ∀ (before : List Construct) (chain : IfStatement) (after : List Construct),
        statementConstructs program = before ++ .statement (.if_ chain) :: after →
        let branches := chain.branches r .ifStatement
        ∃ (later : List Construct) (inner : Branch → Model), after = chain.constructs ++ later
          ∧ (∀ b ∈ branches, b.body.steps r = .ok (inner b))
          ∧ m = before.flatMap (Construct.steps r)
            ++ branches.flatMap (fun b => b.step :: inner b)
            ++ later.flatMap (Construct.steps r)
          ∧ branches.map (·.step.kind)
            = .ifStatement :: (List.replicate (chain.rungs.length - 1) .elseIfStatement
              ++ chain.last?.toList.map fun _ => .elseStatement)
          ∧ branches.map Branch.body = chain.rungs.map Grammar.Rung.body ++ chain.last?.toList := by
  have hgather : gather r (statementConstructs program) = .ok m :=
    (statementSteps_eq_gather r program).symm.trans h
  obtain ⟨hnone, rfl⟩ := gather_eq_ok_iff.1 hgather
  constructor
  · intro i s hs hkind
    have hfit := elsesFit_statements (r := r) program
    rw [stepKinds, ← List.map_flatMap] at hfit
    have hlater : s.kind.isLaterBranch = true := by
      rcases hkind with hkind | hkind <;> rw [hkind] <;> rfl
    have hcount := hfit.count_lt (by rw [List.getElem?_map, hs, Option.map_some]) hlater
    rwa [zero_add, ← List.map_take] at hcount
  · intro before chain after hsplit
    obtain ⟨later, hlater⟩ := meetsWhole_statements program before (.if_ chain) after hsplit
    obtain ⟨-, rfl⟩ := List.cons.inj hlater
    refine ⟨later, fun b => b.body.constructs.flatMap (Construct.steps r), rfl, ?_, ?_,
      chain.kind_branches r .ifStatement, chain.body_branches r .ifStatement⟩
    · intro b hb
      rw [b.body.steps_eq_gather]
      refine gather_eq_ok_iff.2 ⟨fun construct hconstruct => hnone construct ?_, rfl⟩
      have hchain := chain.constructs_subset r .ifStatement b hb hconstruct
      simp [hsplit, hchain]
    · rw [← chain.steps_eq_flatMap r .ifStatement, hsplit]
      simp [Construct.steps]

end Models

/-- A chain in the first branch of another one, and the `else if` after it. -/
theorem flatten_chains_nested :
    let x : Expression := .identifier ⟨"x", 1⟩
    let update (line : ℕ) : Statement := .expression (.update .increment x false line) line
    let inner : IfStatement := .mk x (.single (update 2)) (some (.else_ (.single (update 3)))) 2
    let last : IfStatement := .mk x (.single (update 4)) none 4
    let outer : IfStatement := .mk x (.block (.mk [.if_ inner] 1)) (some (.elseIf last)) 1
    let m : Model := [⟨1, .ifStatement, "", "x", ""⟩, ⟨2, .ifStatement, "", "x", ""⟩,
      ⟨2, .updateExpression, "x", "", "x + 1"⟩, ⟨3, .elseStatement, "", "", ""⟩,
      ⟨3, .updateExpression, "x", "", "x + 1"⟩, ⟨4, .elseIfStatement, "", "x", ""⟩,
      ⟨4, .updateExpression, "x", "", "x + 1"⟩]
    let opened := [.ifStatement, .ifStatement, .updateExpression, .elseStatement, .updateExpression]
    flatten .canonical [.if_ outer] = .ok m
      ∧ opened.count StepKind.elseStatement < opened.count .ifStatement
      ∧ (inner.branches .canonical .ifStatement).map (·.step.kind) = [.ifStatement, .elseStatement]
      ∧ (outer.branches .canonical .ifStatement).map (·.step.kind)
        = [.ifStatement, .elseIfStatement] := by
  intro x update inner last outer m opened
  have hflatten : flatten .canonical [.if_ outer] = .ok m := rfl
  obtain ⟨hopen, hchain⟩ := flatten_chains hflatten
  obtain ⟨-, -, -, -, -, hinner, -⟩ := hchain [.statement (.if_ outer)] inner _ rfl
  obtain ⟨-, -, -, -, -, houter, -⟩ := hchain [] outer _ rfl
  exact ⟨hflatten, hopen 5 _ rfl (.inl rfl), hinner, houter⟩

end ScriptSteps
