import ScriptSteps.Token.Scan

/-!
# Unfinished input

A text goes on in the next line if a bracket in it is still open or if it ends with an operator
that needs something after it.

## Main definitions

* `openAfter?`: the brackets that tokens leave open
* `needsMoreInput`: whether a text goes on in the next line
-/

namespace ScriptSteps

/-- The sign that closes what an opening bracket opens. -/
def Punctuator.closer? : Punctuator → Option Punctuator
  | leftParen => some rightParen
  | leftBracket => some rightBracket
  | leftBrace => some rightBrace
  | _ => none

/-- Whether a sign is a closing bracket. -/
def Punctuator.isCloser : Punctuator → Bool
  | rightParen | rightBracket | rightBrace => true
  | _ => false

/-- Whether a text that ends with a sign waits for what comes after it. -/
def Punctuator.awaitsOperand : Punctuator → Bool
  | comma | equal | plus | minus | star | slash | percent | lessThan | greaterThan
  | ampersandAmpersand | pipePipe | questionQuestion | question | plusEqual | minusEqual => true
  | _ => false

/-- Whether a text that ends with a token waits for what comes after it. -/
def TokenKind.awaitsOperand : TokenKind → Bool
  | punctuator sign => sign.awaitsOperand
  | _ => false

/-- The brackets that would close what is open after one more token, the innermost first; none if
the token closes something else. -/
def openAfterToken? (closers : List Punctuator) : TokenKind → Option (List Punctuator)
  | .punctuator sign =>
    match sign.closer? with
    | some closer => some (closer :: closers)
    | none =>
      if sign.isCloser then
        match closers with
        | innermost :: outer => if innermost = sign then some outer else none
        | [] => none
      else some closers
  | _ => some closers

/-- The same after tokens in a row. -/
def openAfter? (closers : List Punctuator) (kinds : List TokenKind) : Option (List Punctuator) :=
  kinds.foldlM openAfterToken? closers

/-- Whether tokens go on in the next line. A bracket that closes the wrong thing ends the wait:
nothing that follows could mend it. -/
def awaitsTokens (kinds : List TokenKind) : Bool :=
  match openAfter? [] kinds with
  | none => false
  | some closers => !closers.isEmpty || kinds.getLast?.any (·.awaitsOperand)

/-- Whether a text goes on in the next line. -/
def needsMoreInput (text : String) : Bool := awaitsTokens ((scan text).1.map (·.kind))

end ScriptSteps
