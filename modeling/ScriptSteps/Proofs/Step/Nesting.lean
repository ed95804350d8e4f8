import Mathlib
import ScriptSteps.Proofs.Step.Outline

/-!
# How steps are nested

A step belongs to the functions, loops and branches around it. These have steps of their own, which
come before it, so the steps that enclose it can be named by their places in the model. How deep
each step lies is enough to find them again. The steps alone are not: a model does not say where a
body ends.

## Main definitions

* `statementEnclosures`: for each step of a program, the places of the steps around it
* `nesting`, `depths`: the innermost of them, and how many they are
* `Nests`: a model with the enclosures of its steps, as a walk gives them
* `readBack`: the enclosures that depths stand for

## Main statements

* `nests_statements`: a walk gives each step its enclosures
* `nesting_of_depths`: what encloses a step, and that depths settle it
* `nesting_not_of_steps`: two programs with one model whose steps are nested differently
-/

namespace ScriptSteps

/-! ## Enclosing steps -/

mutual

/-- The steps around each step of a statement, the innermost first, when the statement's first step
has the given place and stands in the given steps. -/
def Statement.enclosures (around : List ℕ) (place : ℕ) : Statement → List (List ℕ)
  | .function _ params body _ =>
    around :: params.map (fun _ => place :: around)
      ++ statementEnclosures (place :: around) (place + 1 + params.length) body
  | .while_ _ body _ => around :: body.enclosures (place :: around) (place + 1)
  | .for_ _ _ _ body _ => around :: body.enclosures (place :: around) (place + 1)
  | .if_ chain => chain.enclosures around place
  | s => (Construct.statement s).outlines.map fun _ => around

/-- The steps around those of statements in a row. -/
def statementEnclosures (around : List ℕ) (place : ℕ) : List Statement → List (List ℕ)
  | [] => []
  | first :: rest =>
    let enclosures := first.enclosures around place
    enclosures ++ statementEnclosures around (place + enclosures.length) rest

/-- The steps around those of a loop's or branch's body. -/
def Body.enclosures (around : List ℕ) (place : ℕ) : Body → List (List ℕ)
  | .block (.mk body _) => statementEnclosures around place body
  | .single s => s.enclosures around place

/-- The steps around those of an `if` chain. The tests of a chain do not enclose each other. -/
def IfStatement.enclosures (around : List ℕ) (place : ℕ) : IfStatement → List (List ℕ)
  | .mk _ consequent alternate _ =>
    let inner := consequent.enclosures (place :: around) (place + 1)
    around :: inner ++ alternateEnclosures around (place + 1 + inner.length) alternate

/-- The steps around those of what an `else` leads to. -/
def alternateEnclosures (around : List ℕ) (place : ℕ) : Option Alternate → List (List ℕ)
  | none => []
  | some (.elseIf next) => next.enclosures around place
  | some (.else_ body) => around :: body.enclosures (place :: around) (place + 1)

end

/-- The place of the innermost step around each step of a program; none at the top. -/
def nesting (program : List Statement) : List (Option ℕ) :=
  (statementEnclosures [] 0 program).map List.head?

/-- How many steps there are around each step of a program. -/
def depths (program : List Statement) : List ℕ :=
  (statementEnclosures [] 0 program).map List.length

/-! ## Models with enclosures -/

/-- Whether steps of a kind enclose those of their body. -/
def StepKind.encloses : StepKind → Bool
  | functionDeclaration | whileStatement | ifStatement | elseIfStatement | elseStatement
  | forStatement => true
  | _ => false

/-- The step at a place of a model is one with a body. -/
def HasBody (m : Model) (place : ℕ) : Prop := ∃ s, m[place]? = some s ∧ s.kind.encloses = true

theorem HasBody.append {m : Model} {place : ℕ} (h : HasBody m place) (m' : Model) :
    HasBody (m ++ m') place := by
  obtain ⟨s, hs, hkind⟩ := h
  exact ⟨s, List.getElem?_append_left (List.getElem?_eq_some_iff.1 hs).1 ▸ hs, hkind⟩

theorem HasBody.after {m' : Model} {place : ℕ} (h : HasBody m' place) (m : Model) :
    HasBody (m ++ m') (m.length + place) := by
  obtain ⟨s, hs, hkind⟩ := h
  refine ⟨s, ?_, hkind⟩
  rwa [List.getElem?_append_right (Nat.le_add_right _ _), Nat.add_sub_cancel_left]

/-- A model that starts at a place inside given steps, with the enclosures of its steps. -/
inductive Nests : (around : List ℕ) → (place : ℕ) → List (List ℕ) → Model → Prop where
  | nil {around : List ℕ} {place : ℕ} : Nests around place [] []
  | step {around : List ℕ} {place : ℕ} {enclosures : List (List ℕ)} {m : Model} (s : Step)
      (rest : Nests around (place + 1) enclosures m) :
      Nests around place (around :: enclosures) (s :: m)
  /-- A step with a body, and what comes after the body. -/
  | body {around : List ℕ} {place : ℕ} {inner enclosures : List (List ℕ)} {m m' : Model} {s : Step}
      (encloses : s.kind.encloses = true) (body : Nests (place :: around) (place + 1) inner m)
      (rest : Nests around (place + 1 + inner.length) enclosures m') :
      Nests around place (around :: (inner ++ enclosures)) (s :: (m ++ m'))

namespace Nests

variable {around : List ℕ} {place : ℕ} {es es' : List (List ℕ)} {m m' : Model}

theorem length_eq (h : Nests around place es m) : es.length = m.length := by
  induction h with
  | nil => rfl
  | step s rest ih => simp [ih]
  | body encloses body rest ihbody ihrest => simp [ihbody, ihrest]

theorem append (h : Nests around place es m) (h' : Nests around (place + es.length) es' m') :
    Nests around place (es ++ es') (m ++ m') := by
  induction h with
  | nil => simpa using h'
  | step s rest ih =>
    exact .step s (ih (by simpa [Nat.add_assoc, Nat.add_comm 1] using h'))
  | @body around place inner es m m' s encloses body rest ihbody ihrest =>
    have hlater := ihrest (by simpa [Nat.add_assoc, Nat.add_comm, Nat.add_left_comm] using h')
    simpa using Nests.body encloses body hlater

/-- Steps without bodies. -/
theorem flat (around : List ℕ) (place : ℕ) (steps : Model) :
    Nests around place (steps.map fun _ => around) steps := by
  induction steps generalizing place with
  | nil => exact .nil
  | cons s steps ih => exact .step s (ih (place + 1))

/-- A step with a body and nothing after it. -/
theorem single {s : Step} (hs : s.kind.encloses = true)
    (body : Nests (place :: around) (place + 1) es m) :
    Nests around place (around :: es) (s :: m) := by
  simpa using Nests.body hs body .nil

end Nests

section Walk

variable (r : Renderer)

/-- Statements without a body. -/
theorem Construct.nests (construct : Construct) (around : List ℕ) (place : ℕ) :
    Nests around place (construct.outlines.map fun _ => around) (construct.steps r) := by
  rw [construct.steps_eq_fill r]
  simpa [Function.comp_def] using Nests.flat around place (construct.outlines.map fun o => o.fill r)

mutual

theorem Statement.nests (around : List ℕ) (place : ℕ) : (s : Statement) →
    Nests around place (s.enclosures around place) (s.constructs.flatMap (Construct.steps r))
  | .function id params body line => by
    have hparams := Nests.flat (place :: around) (place + 1) (params.map Step.ofParameter)
    rw [List.map_map] at hparams
    have hbody := nests_statements (place :: around) (place + 1 + params.length) body
    rw [Statement.enclosures, Statement.constructs, List.flatMap_cons]
    exact .single rfl (hparams.append (by simpa using hbody))
  | .while_ test body line => by
    rw [Statement.enclosures, Statement.constructs, List.flatMap_cons]
    exact .single rfl (body.nests (place :: around) (place + 1))
  | .for_ init test update body line => by
    rw [Statement.enclosures, Statement.constructs, List.flatMap_cons]
    exact .single rfl (body.nests (place :: around) (place + 1))
  | .if_ chain => by
    rw [Statement.enclosures, Statement.constructs, List.flatMap_cons]
    exact chain.nests around place rfl
  | .declaration _ | .expression _ _ | .block _ | .switch _ _ _ | .doWhile _ _ _ | .return_ _ _
  | .break_ _ _ | .continue_ _ _ | .throw _ _ | .try_ _ _ _ _ | .empty _ => by
    rw [Statement.enclosures, Statement.constructs, List.flatMap_singleton]
    · exact Construct.nests r _ around place
    all_goals simp

/-- The steps of a walk are nested as its statements are. -/
theorem nests_statements (around : List ℕ) (place : ℕ) : (ss : List Statement) →
    Nests around place (statementEnclosures around place ss)
      ((statementConstructs ss).flatMap (Construct.steps r))
  | [] => .nil
  | first :: rest => by
    rw [statementEnclosures, statementConstructs, List.flatMap_append]
    exact (first.nests around place).append (nests_statements around _ rest)

theorem Body.nests (around : List ℕ) (place : ℕ) : (body : Body) →
    Nests around place (body.enclosures around place)
      (body.constructs.flatMap (Construct.steps r))
  | .block (.mk body _) => nests_statements around place body
  | .single s => s.nests around place

theorem IfStatement.nests (around : List ℕ) (place : ℕ) {kind : StepKind}
    (hkind : kind.encloses = true) : (chain : IfStatement) →
    Nests around place (chain.enclosures around place)
      (chain.step r kind :: chain.constructs.flatMap (Construct.steps r))
  | .mk test consequent alternate line => by
    rw [IfStatement.enclosures, IfStatement.constructs, List.flatMap_append]
    exact .body hkind (consequent.nests (place :: around) (place + 1))
      (nests_alternate around _ alternate)

theorem nests_alternate (around : List ℕ) (place : ℕ) : (alternate : Option Alternate) →
    Nests around place (alternateEnclosures around place alternate)
      ((alternateConstructs alternate).flatMap (Construct.steps r))
  | none => .nil
  | some (.elseIf next) => by
    rw [alternateEnclosures, alternateConstructs, List.flatMap_cons]
    exact next.nests around place rfl
  | some (.else_ body) => by
    rw [alternateEnclosures, alternateConstructs, List.flatMap_cons]
    exact .single rfl (body.nests (place :: around) (place + 1))

end

end Walk

/-! ## Reading enclosures back -/

/-- The enclosures that depths stand for: of the steps around the step before, and that step itself,
as many as the depth says, from the outermost on. -/
def readBack : (previous : List ℕ) → (place : ℕ) → (depths : List ℕ) → List (List ℕ)
  | _, _, [] => []
  | previous, place, depth :: depths =>
    let around := previous.drop (previous.length - depth)
    around :: readBack (place :: around) (place + 1) depths

theorem readBack_cons {previous around : List ℕ} (h : around <:+ previous) (place : ℕ)
    (depths : List ℕ) :
    readBack previous place (around.length :: depths)
      = around :: readBack (place :: around) (place + 1) depths := by
  obtain ⟨extra, rfl⟩ := h
  have hdrop : (extra ++ around).drop ((extra ++ around).length - around.length) = around :=
    List.drop_left' (by simp)
  rw [readBack, hdrop]

namespace Nests

variable {around : List ℕ} {place : ℕ} {es : List (List ℕ)} {m : Model}

/-- Steps are read back from their depths after any step inside the same steps, and leave off at
such a step. -/
theorem readBack_eq (h : Nests around place es m) {previous : List ℕ} (hp : around <:+ previous) :
    ∃ last, around <:+ last ∧ ∀ depths,
      readBack previous place (es.map List.length ++ depths)
        = es ++ readBack last (place + es.length) depths := by
  induction h generalizing previous with
  | nil => exact ⟨previous, hp, fun depths => rfl⟩
  | @step around place es m s rest ih =>
    obtain ⟨last, hlast, hrest⟩ := ih (List.suffix_cons place around)
    refine ⟨last, hlast, fun depths => ?_⟩
    rw [List.map_cons, List.cons_append, readBack_cons hp, hrest, List.length_cons,
      List.cons_append]
    simp only [Nat.add_assoc, Nat.add_comm 1]
  | @body around place inner es m m' s encloses body rest ihbody ihrest =>
    obtain ⟨afterBody, hafter, hinner⟩ := ihbody List.suffix_rfl
    obtain ⟨last, hlast, hrest⟩ := ihrest ((List.suffix_cons place around).trans hafter)
    refine ⟨last, hlast, fun depths => ?_⟩
    rw [List.map_cons, List.map_append, List.cons_append, List.append_assoc, readBack_cons hp,
      hinner, hrest]
    simp [Nat.add_assoc, Nat.add_comm, Nat.add_left_comm]

/-- What encloses a step is around the whole, or is an earlier step that has a body. -/
theorem enclosing (h : Nests around place es m) {i : ℕ} {e : List ℕ} (he : es[i]? = some e) :
    ∀ j ∈ e, j ∈ around ∨ ∃ k < i, j = place + k ∧ HasBody m k := by
  induction h generalizing i with
  | nil => cases he
  | @step around place es m s rest ih =>
    intro j hj
    cases i with
    | zero => exact .inl (Option.some.inj he ▸ hj)
    | succ i =>
      obtain hin | ⟨k, hk, rfl, hbody⟩ := ih he j hj
      · exact .inl hin
      · exact .inr ⟨k + 1, by omega, by omega, hbody⟩
  | @body around place inner es m m' s encloses body rest ihbody ihrest =>
    intro j hj
    cases i with
    | zero => exact .inl (Option.some.inj he ▸ hj)
    | succ i =>
      rw [List.getElem?_cons_succ] at he
      by_cases hi : i < inner.length
      · rw [List.getElem?_append_left hi] at he
        obtain hin | ⟨k, hk, rfl, hbody⟩ := ihbody he j hj
        · rcases List.mem_cons.1 hin with rfl | hin
          · exact .inr ⟨0, by omega, rfl, s, rfl, encloses⟩
          · exact .inl hin
        · exact .inr ⟨k + 1, by omega, by omega, hbody.append m'⟩
      · rw [List.getElem?_append_right (by omega)] at he
        obtain hin | ⟨k, hk, rfl, hbody⟩ := ihrest he j hj
        · exact .inl hin
        · have hlength := body.length_eq
          refine .inr ⟨inner.length + k + 1, by omega, by omega, ?_⟩
          rw [hlength]
          exact hbody.after m

end Nests

/-! ## Nesting of programs -/

theorem readBack_depths (program : List Statement) :
    readBack [] 0 (depths program) = statementEnclosures [] 0 program := by
  obtain ⟨last, -, hread⟩ := (nests_statements .canonical [] 0 program).readBack_eq List.suffix_rfl
  simpa [depths, readBack] using hread []

theorem nesting_eq_readBack (program : List Statement) :
    nesting program = (readBack [] 0 (depths program)).map List.head? := by
  rw [readBack_depths, nesting]

/-- A step is at the top, or its place in the nesting is that of an earlier step with a body. How
deep the steps lie settles which one. -/
theorem nesting_of_depths (r : Renderer) {program : List Statement} {m : Model}
    (h : flatten r program = .ok m) :
    (nesting program).length = m.length
      ∧ (∀ i j, (nesting program)[i]? = some (some j) → j < i ∧ HasBody m j)
      ∧ ∀ other, depths other = depths program → nesting other = nesting program := by
  rw [flatten_eq_gather] at h
  split at h
  · cases h
  · obtain rfl := Except.ok.inj h
    have hnests := nests_statements r [] 0 program
    refine ⟨by simpa [nesting] using hnests.length_eq, fun i j hij => ?_, fun other hdepths => ?_⟩
    · rw [nesting, List.getElem?_map, Option.map_eq_some_iff] at hij
      obtain ⟨e, he, hhead⟩ := hij
      obtain hin | ⟨k, hk, rfl, hbody⟩ := hnests.enclosing he j (List.mem_of_head? hhead)
      · cases hin
      · rw [Nat.zero_add]
        exact ⟨hk, hbody⟩
    · rw [nesting_eq_readBack, nesting_eq_readBack, hdepths]

/-- A function with a parameter, an empty loop and a `return`: the loop encloses nothing. -/
theorem nesting_of_depths_function :
    let program : List Statement :=
      [.function ⟨"f", 1⟩ [⟨"a", 1⟩]
        [.while_ (.identifier ⟨"a", 2⟩) (.block (.mk [] 2)) 2, .return_ none 3] 1]
    let m : Model :=
      [⟨1, .functionDeclaration, "f", "", ""⟩, ⟨1, .variableDeclaration, "a", "", ""⟩,
        ⟨2, .whileStatement, "", "a", ""⟩, ⟨3, .returnStatement, "", "", ""⟩]
    flatten .canonical program = .ok m ∧ nesting program = [none, some 0, some 0, some 0]
      ∧ (0 < 3 ∧ HasBody m 0)
      ∧ ∀ other, depths other = [0, 1, 1, 1] → nesting other = nesting program := by
  intro program m
  have hsteps : flatten .canonical program = .ok m := rfl
  obtain ⟨-, henclosing, hdepths⟩ := nesting_of_depths .canonical hsteps
  exact ⟨hsteps, rfl, henclosing 3 0 rfl, fun other hother => hdepths other hother⟩

/-- The steps alone do not settle it: a step after an empty loop and the same step inside the loop
give one model. -/
theorem nesting_not_of_steps : ∃ (inside after : List Statement) (m : Model),
    parseProgram "while(x){y++}" = .ok inside ∧ parseProgram "while(x){}y++" = .ok after
      ∧ flatten .canonical inside = .ok m ∧ flatten .canonical after = .ok m
      ∧ nesting inside = [none, some 0] ∧ nesting after = [none, none] := by
  let loop (body : List Statement) : Statement :=
    .while_ (.identifier ⟨"x", 1⟩) (.block (.mk body 1)) 1
  let update : Statement := .expression (.update .increment (.identifier ⟨"y", 1⟩) false 1) 1
  have hinside : Cursor.ofSource "while(x){y++}" = ⟨1,
      [⟨.keyword .while_, 1⟩, ⟨.punctuator .leftParen, 1⟩, ⟨.identifier "x", 1⟩,
        ⟨.punctuator .rightParen, 1⟩, ⟨.punctuator .leftBrace, 1⟩, ⟨.identifier "y", 1⟩,
        ⟨.punctuator .plusPlus, 1⟩, ⟨.punctuator .rightBrace, 1⟩], 1⟩ := by
    decide +kernel
  have hafter : Cursor.ofSource "while(x){}y++" = ⟨1,
      [⟨.keyword .while_, 1⟩, ⟨.punctuator .leftParen, 1⟩, ⟨.identifier "x", 1⟩,
        ⟨.punctuator .rightParen, 1⟩, ⟨.punctuator .leftBrace, 1⟩, ⟨.punctuator .rightBrace, 1⟩,
        ⟨.identifier "y", 1⟩, ⟨.punctuator .plusPlus, 1⟩], 1⟩ := by
    decide +kernel
  refine ⟨[loop [update]], [loop [], update],
    [⟨1, .whileStatement, "", "x", ""⟩, ⟨1, .updateExpression, "y", "", "y + 1"⟩],
    ?_, ?_, rfl, rfl, rfl, rfl⟩
  · rw [parseProgram, hinside]
    cbv
  · rw [parseProgram, hafter]
    cbv

end ScriptSteps
