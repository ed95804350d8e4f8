import ScriptSteps.Number.Layout
import ScriptSteps.Text.Quoted

/-!
# Kinds of tokens

A token is a literal, a name, one of the reserved words, one of the punctuators, the end of the
text, or something that is none of these.

## Main definitions

* `Keyword`, `Punctuator`: the fixed words and signs, each with its text
* `TokenKind`: what a token is
* `TokenKind.describe`: how messages name it
-/

namespace ScriptSteps

/-! ## Reserved words -/

/-- The reserved words. -/
inductive Keyword where
  | break_ | case | catch_ | class_ | const | continue_ | default | delete | do_ | else_ | false_
  | finally_ | for_ | function | if_ | in_ | instanceof | let_ | new | null | return_ | switch
  | this | throw | true_ | try_ | typeof | var | void | while_
deriving DecidableEq, Repr

namespace Keyword

/-- The word itself. -/
def text : Keyword → String
  | break_ => "break"
  | case => "case"
  | catch_ => "catch"
  | class_ => "class"
  | const => "const"
  | continue_ => "continue"
  | default => "default"
  | delete => "delete"
  | do_ => "do"
  | else_ => "else"
  | false_ => "false"
  | finally_ => "finally"
  | for_ => "for"
  | function => "function"
  | if_ => "if"
  | in_ => "in"
  | instanceof => "instanceof"
  | let_ => "let"
  | new => "new"
  | null => "null"
  | return_ => "return"
  | switch => "switch"
  | this => "this"
  | throw => "throw"
  | true_ => "true"
  | try_ => "try"
  | typeof => "typeof"
  | var => "var"
  | void => "void"
  | while_ => "while"

/-- Every reserved word. -/
def all : List Keyword :=
  [break_, case, catch_, class_, const, continue_, default, delete, do_, else_, false_, finally_,
   for_, function, if_, in_, instanceof, let_, new, null, return_, switch, this, throw, true_,
   try_, typeof, var, void, while_]

theorem mem_all (k : Keyword) : k ∈ all := by cases k <;> decide

/-- The reserved word with the given text. -/
def ofText? (word : String) : Option Keyword := all.find? (·.text == word)

@[simp] theorem ofText?_text (k : Keyword) : ofText? k.text = some k := by
  have each : ∀ l ∈ all, ofText? l.text = some l := by decide +kernel
  exact each k k.mem_all

end Keyword

/-! ## Punctuators -/

/-- Brackets, separators and operators. -/
inductive Punctuator where
  | leftBrace | rightBrace | leftParen | rightParen | leftBracket | rightBracket
  | dot | semicolon | comma | question | colon
  | lessThan | greaterThan | lessThanEqual | greaterThanEqual
  | equalEqual | notEqual | strictEqual | strictNotEqual
  | plus | minus | star | slash | percent | starStar | plusPlus | minusMinus
  | leftShift | rightShift | unsignedRightShift | ampersand | pipe | caret | bang | tilde
  | ampersandAmpersand | pipePipe | questionQuestion
  | equal | plusEqual | minusEqual | starEqual | slashEqual | percentEqual | starStarEqual
  | leftShiftEqual | rightShiftEqual | unsignedRightShiftEqual
  | ampersandEqual | pipeEqual | caretEqual
  | ampersandAmpersandEqual | pipePipeEqual | questionQuestionEqual
deriving DecidableEq, Repr

namespace Punctuator

/-- The sign itself. -/
def text : Punctuator → String
  | leftBrace => "\x7b"
  | rightBrace => "\x7d"
  | leftParen => "("
  | rightParen => ")"
  | leftBracket => "["
  | rightBracket => "]"
  | dot => "."
  | semicolon => ";"
  | comma => ","
  | question => "?"
  | colon => ":"
  | lessThan => "<"
  | greaterThan => ">"
  | lessThanEqual => "<="
  | greaterThanEqual => ">="
  | equalEqual => "=="
  | notEqual => "!="
  | strictEqual => "==="
  | strictNotEqual => "!=="
  | plus => "+"
  | minus => "-"
  | star => "*"
  | slash => "/"
  | percent => "%"
  | starStar => "**"
  | plusPlus => "++"
  | minusMinus => "--"
  | leftShift => "<<"
  | rightShift => ">>"
  | unsignedRightShift => ">>>"
  | ampersand => "&"
  | pipe => "|"
  | caret => "^"
  | bang => "!"
  | tilde => "~"
  | ampersandAmpersand => "&&"
  | pipePipe => "||"
  | questionQuestion => "??"
  | equal => "="
  | plusEqual => "+="
  | minusEqual => "-="
  | starEqual => "*="
  | slashEqual => "/="
  | percentEqual => "%="
  | starStarEqual => "**="
  | leftShiftEqual => "<<="
  | rightShiftEqual => ">>="
  | unsignedRightShiftEqual => ">>>="
  | ampersandEqual => "&="
  | pipeEqual => "|="
  | caretEqual => "^="
  | ampersandAmpersandEqual => "&&="
  | pipePipeEqual => "||="
  | questionQuestionEqual => "??="

/-- Every punctuator. -/
def all : List Punctuator :=
  [leftBrace, rightBrace, leftParen, rightParen, leftBracket, rightBracket, dot, semicolon, comma,
   question, colon, lessThan, greaterThan, lessThanEqual, greaterThanEqual, equalEqual, notEqual,
   strictEqual, strictNotEqual, plus, minus, star, slash, percent, starStar, plusPlus, minusMinus,
   leftShift, rightShift, unsignedRightShift, ampersand, pipe, caret, bang, tilde,
   ampersandAmpersand, pipePipe, questionQuestion, equal, plusEqual, minusEqual, starEqual,
   slashEqual, percentEqual, starStarEqual, leftShiftEqual, rightShiftEqual,
   unsignedRightShiftEqual, ampersandEqual, pipeEqual, caretEqual, ampersandAmpersandEqual,
   pipePipeEqual, questionQuestionEqual]

theorem mem_all (p : Punctuator) : p ∈ all := by cases p <;> decide

/-- The punctuator with the given text. -/
def ofText? (text : String) : Option Punctuator := all.find? (·.text == text)

@[simp] theorem ofText?_text (p : Punctuator) : ofText? p.text = some p := by
  have each : ∀ q ∈ all, ofText? q.text = some q := by decide +kernel
  exact each p p.mem_all

/-- No punctuator has more characters. -/
def maxLength : Nat := 4

end Punctuator

/-! ## Kinds -/

/-- What a token is. -/
inductive TokenKind where
  | number (value : Binary64)
  | string (value : String)
  | identifier (name : String)
  | keyword (word : Keyword)
  | punctuator (sign : Punctuator)
  /-- The end of the text. -/
  | endOfInput
  /-- An unterminated string, a malformed number or a stray character. -/
  | invalid
deriving DecidableEq, Repr

namespace TokenKind

/-- The text of a token that is always written the same. -/
def text? : TokenKind → Option String
  | keyword word => some word.text
  | punctuator sign => some sign.text
  | number _ | string _ | identifier _ | endOfInput | invalid => none

/-- Messages write numbers without exponents, however long they get. -/
def messageNumbers : NumberLayout where
  isPositional _ := true
  infinity := "inf"
  notANumber := "NaN"
  signsZero := true

/-- How messages name a token. -/
def describe : TokenKind → String
  | number value => "number " ++ messageNumbers.write value
  | string value => "string " ++ Text.quoted value
  | identifier name => "identifier '" ++ name ++ "'"
  | keyword word => "token '" ++ word.text ++ "'"
  | punctuator sign => "token '" ++ sign.text ++ "'"
  | endOfInput => "end of input"
  | invalid => "invalid or unexpected token"

end TokenKind

end ScriptSteps
