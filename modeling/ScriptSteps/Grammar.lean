import ScriptSteps.Grammar.Statement

/-!
# Parsing a text

## Main definitions

* `parseProgram`: the statements of a text
* `parseStatement`, `parseExpression`: the statement or expression at the front of a text
-/

namespace ScriptSteps

/-- The statements of a text. -/
def parseProgram (source : String) : Except Error (List Statement) :=
  (Grammar.program (.ofSource source)).toExcept

/-- The statement at the front of a text. -/
def parseStatement (source : String) : Except Error Statement :=
  (Grammar.statement (.ofSource source)).toExcept

/-- The expression at the front of a text. -/
def parseExpression (source : String) : Except Error Expression :=
  (Grammar.expression (.ofSource source)).toExcept

end ScriptSteps
