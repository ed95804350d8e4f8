import ScriptSteps.Token.Kind

/-!
# Errors of an analysis

Why a text could not be turned into steps, and how that is said.

## Main definitions

* `Problem`: what is wrong with a text that does not parse
* `Error`: why an analysis failed
* `Error.message`: the wording
-/

namespace ScriptSteps

/-- What is wrong with a text that does not parse. -/
inductive Problem where
  | unexpected (found : TokenKind)
  | expected (wanted found : TokenKind)
  | expectedIdentifier (found : TokenKind)
  | missingInitializer
  | newlineAfterThrow
  | missingHandler
  | assignmentTarget
  | updateTarget
  | unaryBeforeExponent
deriving DecidableEq, Repr

namespace Problem

/-- The wording of a problem. -/
def message : Problem → String
  | unexpected found => "Unexpected " ++ found.describe
  | expected wanted found => "Expected " ++ wanted.describe ++ ", found " ++ found.describe
  | expectedIdentifier found => "Expected identifier, found " ++ found.describe
  | missingInitializer => "Missing initializer in const declaration"
  | newlineAfterThrow => "Illegal newline after throw"
  | missingHandler => "Missing catch or finally after try"
  | assignmentTarget => "Invalid left-hand side in assignment"
  | updateTarget => "Invalid left-hand side expression in update operation"
  | unaryBeforeExponent => "Unary operator used immediately before exponentiation expression"

end Problem

/-- Why an analysis failed. -/
inductive Error where
  /-- The text does not parse. -/
  | malformed (problem : Problem) (line : Nat)
  /-- The text parses, or starts to, but a construct in it has no steps. -/
  | unsupported (construct : String) (line : Nat)
  /-- A file cannot be read. -/
  | unreadable (path reason : String)
deriving DecidableEq, Repr

namespace Error

/-- The line an error points at. -/
def line? : Error → Option Nat
  | malformed _ line | unsupported _ line => some line
  | unreadable _ _ => none

/-- The wording of an error. -/
def message : Error → String
  | malformed problem line =>
    "SyntaxError: " ++ problem.message ++ " (line " ++ toString line ++ ")"
  | unsupported construct line =>
    "UnsupportedError: " ++ construct ++ " is not supported (line " ++ toString line ++ ")"
  | unreadable path reason => "IOError: Failed to read " ++ path ++ ": " ++ reason

end Error

end ScriptSteps
