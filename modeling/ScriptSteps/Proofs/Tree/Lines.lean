import Mathlib
import ScriptSteps.Tree.Statement

/-!
# Lines of statements

The lines that a walk over a program meets, a statement before those inside it: one for each step
that the statements have, and one for each statement that has none.

## Main definitions

* `Ascends`: lines in order between two bounds
* `Statement.lines`: the lines of a statement and of those inside it
-/

namespace ScriptSteps

/-! ## Lines in order -/

/-- The lines are in order, the first not before `low` and the last not after `high`. -/
def Ascends (low : ℕ) : List ℕ → (high : ℕ) → Prop
  | [], high => low ≤ high
  | line :: lines, high => low ≤ line ∧ Ascends line lines high

namespace Ascends

variable {low mid high : ℕ} {lines more : List ℕ}

theorem le (h : Ascends low lines high) : low ≤ high := by
  induction lines generalizing low with
  | nil => exact h
  | cons line lines ih => exact h.1.trans (ih h.2)

theorem of_le (h : Ascends mid lines high) (hle : low ≤ mid) : Ascends low lines high := by
  cases lines with
  | nil => exact hle.trans h
  | cons line lines => exact ⟨hle.trans h.1, h.2⟩

theorem append (h : Ascends low lines mid) (hmore : Ascends mid more high) :
    Ascends low (lines ++ more) high := by
  induction lines generalizing low with
  | nil => exact hmore.of_le h
  | cons line lines ih => exact ⟨h.1, ih h.2⟩

theorem le_of_le (h : Ascends low lines mid) (hle : mid ≤ high) : Ascends low lines high := by
  simpa using h.append (show Ascends mid [] high from hle)

/-- Lines in order can be cut after any of them. -/
theorem of_append (h : Ascends low (lines ++ more) high) :
    Ascends low lines (lines.getLast?.getD low) ∧ Ascends (lines.getLast?.getD low) more high := by
  induction lines generalizing low with
  | nil => exact ⟨le_rfl, h⟩
  | cons line lines ih =>
    obtain ⟨hlines, hmore⟩ := ih h.2
    rw [List.getLast?_cons, Option.getD_some]
    exact ⟨⟨h.1, hlines⟩, hmore⟩

theorem iff_isChain : Ascends low lines high ↔ (low :: lines ++ [high]).IsChain (· ≤ ·) := by
  induction lines generalizing low with
  | nil => simp [Ascends]
  | cons line lines ih => simp [Ascends, ih]

/-- The lines are in order as a whole, and each is between the bounds. -/
theorem pairwise (h : Ascends low lines high) :
    lines.Pairwise (· ≤ ·) ∧ ∀ line ∈ lines, low ≤ line ∧ line ≤ high := by
  rw [iff_isChain, List.isChain_iff_pairwise, List.cons_append, List.pairwise_cons,
    List.pairwise_append] at h
  obtain ⟨hlow, hlines, -, hhigh⟩ := h
  refine ⟨hlines, fun line hline => ⟨hlow line (List.mem_append_left _ hline), ?_⟩⟩
  exact hhigh line hline high (by simp)

end Ascends

/-! ## Lines of statements -/

/-- The line of an expression that stands as a statement: updates and assignments have their own,
others that of the statement. -/
def Expression.stepLine (line : ℕ) : Expression → ℕ
  | .update _ _ _ updateLine => updateLine
  | .assignment _ _ _ assignmentLine => assignmentLine
  | _ => line

mutual

/-- The lines of a statement and of those inside it. -/
def Statement.lines : Statement → List ℕ
  | .declaration declared => declared.declarations.map fun d => d.id.line
  | .function _ params body line => line :: (params.map Identifier.line ++ statementLines body)
  | .expression expression line => [expression.stepLine line]
  | .while_ _ body line => line :: body.lines
  | .if_ chain => chain.lines
  | .for_ _ _ _ body line => line :: body.lines
  | .block (.mk body line) => line :: statementLines body
  | statement => [statement.line]

/-- The lines of statements in a row. -/
def statementLines : List Statement → List ℕ
  | [] => []
  | first :: rest => first.lines ++ statementLines rest

/-- The lines of a loop's or branch's body. -/
def Body.lines : Body → List ℕ
  | .block (.mk body _) => statementLines body
  | .single statement => statement.lines

/-- The lines of an `if` chain. -/
def IfStatement.lines : IfStatement → List ℕ
  | .mk _ consequent alternate line => line :: (consequent.lines ++ alternateLines alternate)

/-- The lines of what an `else` leads to. -/
def alternateLines : Option Alternate → List ℕ
  | none => []
  | some (.elseIf next) => next.lines
  | some (.else_ body) => body.line :: body.lines

end

end ScriptSteps
