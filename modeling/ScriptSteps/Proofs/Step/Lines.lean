import Mathlib
import ScriptSteps.Proofs.Grammar.WellShaped
import ScriptSteps.Step.Flatten

/-!
# Lines of steps

The steps of a text come in the order of its lines, and neither they nor an error point outside of
it, if its lines can be counted in 32 bits. The walk over a program has one step on each of the lines
of its statements, or fails on one of them, and these are the lines of tokens, in the order of the
tokens.

## Main definitions

* `Tells`: steps on given lines, or an error at one of them

## Main statements

* `Statement.tells_steps`: the walk tells of the lines of a statement
* `analyze_lines`: the lines of a model are in order, and within the text as those of errors are
-/

namespace ScriptSteps

/-! ## Steps and the lines they are on -/

/-- The steps are on the lines, one each and in their order, or there is an error at one of them. -/
def Tells (result : Except Error Model) (lines : List ℕ) : Prop :=
  match result with
  | .ok m => m.map Step.line = lines
  | .error e => ∃ line ∈ lines, e.line? = some line

namespace Tells

variable {lines inner further : List ℕ} {line : ℕ}

theorem ok {m : Model} (h : m.map Step.line = lines) : Tells (.ok m) lines := h

theorem error {e : Error} (h : e.line? = some line) (hmem : line ∈ lines) :
    Tells (.error e) lines := ⟨line, hmem, h⟩

theorem bind {result : Except Error Model} {next : Model → Except Error Model}
    (h : Tells result inner) (hsub : inner ⊆ lines)
    (hnext : ∀ m, m.map Step.line = inner → Tells (next m) lines) :
    Tells (result >>= next) lines := by
  cases result with
  | ok m => exact hnext m h
  | error e =>
    obtain ⟨line, hmem, hline⟩ := h
    exact ⟨line, hsub hmem, hline⟩

/-- Steps of their own before those of a walk. -/
theorem after {result : Except Error Model} (h : Tells result inner) (before : Model) :
    Tells (result >>= fun m => pure (before ++ m)) (before.map Step.line ++ inner) := by
  refine h.bind (List.subset_append_right _ _) fun m hm => ok ?_
  rw [List.map_append, hm]

/-- Steps of their own before those of one walk and then another. -/
theorem afterBoth {result result' : Except Error Model} (h : Tells result inner)
    (h' : Tells result' further) (before : Model) :
    Tells (result >>= fun m => result' >>= fun m' => pure (before ++ m ++ m'))
      (before.map Step.line ++ (inner ++ further)) := by
  have hinner : inner ⊆ before.map Step.line ++ (inner ++ further) :=
    fun _ hl => List.mem_append_right _ (List.mem_append_left _ hl)
  have hfurther : further ⊆ before.map Step.line ++ (inner ++ further) :=
    fun _ hl => List.mem_append_right _ (List.mem_append_right _ hl)
  refine h.bind hinner fun m hm => h'.bind hfurther fun m' hm' => ok ?_
  rw [List.map_append, List.map_append, hm, hm', List.append_assoc]

end Tells

theorem Expression.tells_steps (r : Renderer) (line : ℕ) (e : Expression) :
    Tells (e.steps r line) [e.stepLine line] := by
  cases e with
  | assignment operator left right assignmentLine =>
    unfold Expression.steps
    dsimp only
    split
    · exact .ok rfl
    · exact .error rfl (List.mem_singleton_self _)
  | update operator argument isPrefix updateLine => exact .ok rfl
  | _ => exact .error rfl (List.mem_singleton_self _)

mutual

/-- The walk over a statement tells of its lines. -/
theorem Statement.tells_steps (r : Renderer) : (s : Statement) → Tells (s.steps r) s.lines
  | .declaration declared => by
    rw [Statement.steps, Statement.lines]
    exact .ok (List.map_map ..)
  | .function id params body line => by
    have hhead : (Step.ofFunction id line :: params.map .ofParameter).map Step.line
        = line :: params.map Identifier.line := by
      rw [List.map_cons, List.map_map]
      rfl
    have h := (tells_statementSteps r body).after (.ofFunction id line :: params.map .ofParameter)
    rw [hhead] at h
    rw [Statement.steps, Statement.lines]
    exact h
  | .expression e line => by
    rw [Statement.steps, Statement.lines]
    exact e.tells_steps r line
  | .while_ test body line => by
    rw [Statement.steps, Statement.lines]
    exact (body.tells_steps r).after [.ofWhile r test line]
  | .if_ chain => by
    rw [Statement.steps, Statement.lines]
    exact chain.tells_steps r .ifStatement
  | .for_ init test update body line => by
    rw [Statement.steps, Statement.lines]
    exact (body.tells_steps r).after [.ofFor r init test update line]
  | .block (.mk body line) => by
    rw [Statement.steps, Statement.lines]
    exact .error rfl List.mem_cons_self
  | .return_ argument line => .ok rfl
  | .switch _ _ line
  | .doWhile _ _ line
  | .break_ _ line
  | .continue_ _ line
  | .throw _ line
  | .try_ _ _ _ line
  | .empty line => .error rfl (List.mem_singleton_self line)

theorem tells_statementSteps (r : Renderer) :
    (ss : List Statement) → Tells (statementSteps r ss) (statementLines ss)
  | [] => .ok rfl
  | first :: rest => by
    rw [statementSteps, statementLines]
    exact (first.tells_steps r).afterBoth (tells_statementSteps r rest) []

theorem Body.tells_steps (r : Renderer) : (body : Body) → Tells (body.steps r) body.lines
  | .block (.mk body _) => tells_statementSteps r body
  | .single s => s.tells_steps r

theorem IfStatement.tells_steps (r : Renderer) (kind : StepKind) :
    (chain : IfStatement) → Tells (chain.steps r kind) chain.lines
  | .mk test consequent alternate line => by
    rw [IfStatement.steps, IfStatement.lines]
    exact (consequent.tells_steps r).afterBoth (tells_alternateSteps r alternate)
      [.ofTest r kind test line]

theorem tells_alternateSteps (r : Renderer) :
    (alternate : Option Alternate) → Tells (alternateSteps r alternate) (alternateLines alternate)
  | none => .ok rfl
  | some (.elseIf next) => next.tells_steps r .elseIfStatement
  | some (.else_ body) => by
    rw [alternateSteps, alternateLines]
    exact (body.tells_steps r).after [.ofElse body]

end

/-! ## Lines of a text -/

/-- The lines of a program are in order, from the first of the text to the last. -/
theorem ascends_parseProgram {source : String} {program : List Statement}
    (hfits : LinesFit source) (h : parseProgram source = .ok program) :
    Ascends 1 (statementLines program) (scan source).2.line := by
  have hordered := Cursor.ordered_ofSource hfits
  obtain ⟨rest, hread⟩ := (Grammar.program_from _).of_ok h
  obtain ⟨used, hpasses, -⟩ := hread.fits
  have hend : rest.previousLine ≤ (scan source).2.line := by
    have hle := (hpasses.ascends hordered).2.le
    rwa [hpasses.endLine] at hle
  exact (hread.lines hordered).le_of_le hend

/-- The lines of the steps of a text with fewer line breaks than can be counted in 32 bits are in
order, and each of them is in the text; so is the line of an error. -/
theorem analyze_lines {source : String} (hfits : LinesFit source) :
    (∀ m, analyze source = .ok m → (m.map Step.line).Pairwise (· ≤ ·) ∧
      ∀ step ∈ m, 1 ≤ step.line ∧ step.line ≤ (scan source).2.line) ∧
    ∀ e, analyze source = .error e →
      ∃ line, e.line? = some line ∧ 1 ≤ line ∧ line ≤ (scan source).2.line := by
  unfold analyze
  cases hparse : parseProgram source with
  | error cause =>
    constructor
    · intro m h
      cases h
    · intro e h
      obtain rfl : cause = e := Except.error.inj h
      obtain ⟨line, hmem, hline⟩ := (Grammar.program_from _).of_error hparse
      exact ⟨line, hline, (Cursor.ordered_ofSource hfits).between hmem⟩
  | ok program =>
    have hlines := (ascends_parseProgram hfits hparse).pairwise
    have htells := tells_statementSteps .canonical program
    constructor
    · intro m h
      have hm : m.map Step.line = statementLines program := by
        rwa [show statementSteps .canonical program = .ok m from h] at htells
      rw [hm]
      refine ⟨hlines.1, fun step hstep => hlines.2 step.line ?_⟩
      rw [← hm]
      exact List.mem_map_of_mem hstep
    · intro e h
      rw [show statementSteps .canonical program = .error e from h] at htells
      obtain ⟨line, hmem, hline⟩ := htells
      exact ⟨line, hline, hlines.2 line hmem⟩

/-- Steps on two lines, and an error on the second. -/
theorem analyze_lines_while_break :
    let m : Model := [⟨1, .whileStatement, "", "x", ""⟩, ⟨2, .updateExpression, "x", "", "x - 1"⟩]
    (LinesFit "while (x)\nx--" ∧ analyze "while (x)\nx--" = .ok m
        ∧ (m.map Step.line).Pairwise (· ≤ ·)
        ∧ ∀ step ∈ m, 1 ≤ step.line ∧ step.line ≤ (scan "while (x)\nx--").2.line)
      ∧ LinesFit "x--\nbreak" ∧ analyze "x--\nbreak" = .error (.unsupported "BreakStatement" 2)
        ∧ ∃ line, (Error.unsupported "BreakStatement" 2).line? = some line ∧
          1 ≤ line ∧ line ≤ (scan "x--\nbreak").2.line := by
  intro m
  have hfits : LinesFit "while (x)\nx--" := by decide +kernel
  have hfits' : LinesFit "x--\nbreak" := by decide +kernel
  have hsteps : analyze "while (x)\nx--" = .ok m := by decide +kernel
  have herror : analyze "x--\nbreak" = .error (.unsupported "BreakStatement" 2) := by
    decide +kernel
  exact ⟨⟨hfits, hsteps, (analyze_lines hfits).1 m hsteps⟩, hfits', herror,
    (analyze_lines hfits').2 _ herror⟩

end ScriptSteps
