import ScriptSteps.Log
import ScriptSteps.Step.Visit

/-!
# Events of an analysis

An analysis tells of every statement that it visits and, if it succeeds, how many steps it found.
A text that does not parse is not visited at all.

## Main definitions

* `analysisEvents`: what the analysis of a text tells
-/

namespace ScriptSteps

/-- The part of the program that turns statements into steps. -/
def flattenTarget : String := "spacey_analyzer::flatten"

/-- The visit of a statement. -/
def Event.visit (s : Statement) : Event :=
  ⟨.trace, flattenTarget, "dispatch",
   [("line", toString s.line), ("kind", "\"" ++ s.typeName ++ "\"")]⟩

/-- The end of an analysis that succeeded. -/
def Event.flattened (program : List Statement) (m : Model) : Event :=
  ⟨.debug, flattenTarget, "flattened program",
   [("statements", toString program.length), ("records", toString m.length)]⟩

/-- What the analysis of a program tells. -/
def programEvents (program : List Statement) : List Event :=
  (visitedUntilFailure program).map .visit
    ++ match flatten .canonical program with
      | .ok m => [.flattened program m]
      | .error _ => []

/-- What the analysis of a text tells. -/
def analysisEvents (source : String) : List Event :=
  match parseProgram source with
  | .ok program => programEvents program
  | .error _ => []

end ScriptSteps
