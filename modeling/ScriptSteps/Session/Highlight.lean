import ScriptSteps.Report.Style
import ScriptSteps.Text.Bytes
import ScriptSteps.Token.Scan

/-!
# Highlighted lines

A line is shown with its tokens in colors and its comments dimmed. Colors are escape sequences
around pieces of the line, so without them the line is unchanged.

## Main definitions

* `TokenKind.paint`: the text of a token in the colors of its kind
* `highlightTokens?`: the text around tokens, piece by piece
* `highlight?`: a line as it is shown
-/

namespace ScriptSteps

/-- Whether a sign is one half of a pair. -/
def Punctuator.isBracket : Punctuator → Bool
  | leftBrace | rightBrace | leftParen | rightParen | leftBracket | rightBracket => true
  | _ => false

/-- Whether a sign stands between things without doing anything to them. -/
def Punctuator.isSeparator : Punctuator → Bool
  | semicolon | comma | dot => true
  | _ => false

/-- Whether a reserved word stands for a value. -/
def Keyword.isValue : Keyword → Bool
  | true_ | false_ | null | this => true
  | _ => false

/-- The text of a token in the colors of its kind. -/
def TokenKind.paint (kind : TokenKind) (text : String) : String :=
  match kind with
  | identifier _ => text
  | number _ => colored .yellow text
  | string _ => colored .green text
  | keyword word =>
    if word.isValue then colored .blue text else Style.bold.paint (colored .magenta text)
  | punctuator sign =>
    if sign.isSeparator then text
    else if sign.isBracket then colored .yellow text
    else colored .cyan text
  | endOfInput => colored .cyan text
  | invalid => Style.underlined.paint (colored .red text)

/-- What stands between tokens: blanks as they are, comments dimmed. -/
def paintGap (gap : List Char) : String :=
  if gap.all Text.isBlank then String.ofList gap else Style.dimmed.paint (String.ofList gap)

/-- The text `cs`, which starts at a byte offset, with the given tokens painted; none if the tokens
are out of order or do not start and stop between characters. -/
def highlightTokens? (offset : Nat) (cs : List Char) : List Token → Option String
  | [] => some (paintGap cs)
  | token :: tokens =>
    if token.start < offset ∨ token.stop < token.start then none
    else do
      let (gap, rest) ← Text.splitAtByte? (token.start - offset) cs
      let (text, rest) ← Text.splitAtByte? (token.stop - token.start) rest
      let painted ← highlightTokens? token.stop rest tokens
      return paintGap gap ++ token.kind.paint (String.ofList text) ++ painted

/-- A line as it is shown. A command has one color. -/
def highlight? (color : Bool) (line : String) : Option String :=
  if !color then some line
  else
    match Text.dropBlanks line.toList with
    | '.' :: _ => some (colored .magenta line)
    | _ => highlightTokens? 0 line.toList (scan line).1

end ScriptSteps
