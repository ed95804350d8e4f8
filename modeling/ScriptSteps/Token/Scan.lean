import ScriptSteps.Text.Blank
import ScriptSteps.Text.Name
import ScriptSteps.Token.Kind

/-!
# Cutting a text into tokens

Blanks and comments separate tokens. What follows them is cut off by the rule that its first
character selects: a string, a number, a word, or the longest punctuator that the text starts
with. Every rule takes at least that first character, so the text runs out; nothing is ever
refused, since what fits no rule becomes an `invalid` token.

## Main definitions

* `Token`: a kind with its place in the text
* `triviaLength`: the characters of the blanks and comments at the front of a text
* `lexeme`: the kind of the token at the front and the characters it takes
* `scan`: all tokens of a text, and where the text ends
-/

namespace ScriptSteps

/-- A token with the bytes it occupies and the line it starts on. -/
structure Token where
  kind : TokenKind
  start : Nat
  stop : Nat
  line : Nat
deriving DecidableEq, Repr

/-! ## Places in a text -/

/-- A place in a text: bytes before it in UTF-8, and the line it is on, counted from 1. -/
structure Position where
  offset : Nat
  line : Nat
deriving DecidableEq, Repr

namespace Position

/-- The start of a text. -/
def start : Position := ⟨0, 1⟩

/-- Whether a line ends after a character, given the one that follows. A carriage return leaves
that to the line feed after it. -/
def endsLine (c : Char) (next : Option Char) : Bool :=
  if c = '\r' then next != some '\n' else Text.isLineEnd c

/-- The place after one more character. Lines are counted in 32 bits, so that 0 comes after the last
number. -/
def step (p : Position) (c : Char) (next : Option Char) : Position :=
  ⟨p.offset + c.utf8Size, if endsLine c next then (p.line + 1) % UInt32.size else p.line⟩

/-- The place after the characters `passed`, when `rest` follows them. -/
def past (p : Position) : (passed rest : List Char) → Position
  | [], _ => p
  | c :: cs, rest => (p.step c (cs.head?.or rest.head?)).past cs rest

end Position

/-! ## Blanks and comments -/

mutual
/-- The number of characters of the blanks and comments at the front of a text. -/
def triviaLength : List Char → Nat
  | [] => 0
  | '/' :: '/' :: cs => 2 + lineCommentLength cs
  | '/' :: '*' :: cs => 2 + blockCommentLength cs
  | c :: cs => if Text.isBlank c then 1 + triviaLength cs else 0

/-- The same inside a comment that lasts to the end of its line. -/
def lineCommentLength : List Char → Nat
  | [] => 0
  | c :: cs => 1 + if Text.isLineEnd c then triviaLength cs else lineCommentLength cs

/-- The same inside a comment that lasts to `*/`, or to the end of the text. -/
def blockCommentLength : List Char → Nat
  | [] => 0
  | '*' :: '/' :: cs => 2 + triviaLength cs
  | _ :: cs => 1 + blockCommentLength cs
end

/-! ## Strings -/

/-- The character that an escape stands for; none for a line end, which continues the string on
the next line. -/
def unescape (c : Char) : Option Char :=
  match c with
  | 'n' => some '\n'
  | 'r' => some '\r'
  | 't' => some '\t'
  | 'b' => some '\x08'
  | 'f' => some '\x0c'
  | 'v' => some '\x0b'
  | '0' => some '\x00'
  | _ => if Text.isLineEnd c then none else some c

/-- What follows an opening quote: the characters of the string, none if it is not closed on its
line, and how many characters of the text it takes, with the closing quote. -/
def stringBody (quote : Char) : List Char → Option (List Char) × Nat
  | [] => (none, 0)
  | ['\\'] => (none, 1)
  | '\\' :: '\r' :: '\n' :: cs => extend [] 3 (stringBody quote cs)
  | '\\' :: c :: cs => extend (unescape c).toList 2 (stringBody quote cs)
  | c :: cs =>
    if c = '\n' ∨ c = '\r' then (none, 1)
    else if c = quote then (some [], 1)
    else extend [c] 1 (stringBody quote cs)
where
  /-- The same body with more characters before it. -/
  extend (value : List Char) (length : Nat) (body : Option (List Char) × Nat) :
      Option (List Char) × Nat :=
    (body.1.map (value ++ ·), length + body.2)

/-! ## Numbers -/

/-- The value of a digit in a base of up to 36. -/
def digitValue (c : Char) : Nat :=
  if c.isDigit then c.toNat - '0'.toNat
  else if c.isLower then c.toNat - 'a'.toNat + 10
  else c.toNat - 'A'.toNat + 10

/-- The natural number written in a base, if it has digits, all below the base, and fits 64 bits. -/
def radixValue? (radix : Nat) (digits : List Char) : Option Nat :=
  let value := digits.foldl (fun n c => radix * n + digitValue c) 0
  if digits ≠ [] ∧ digits.all (fun c => digitValue c < radix) ∧ value < UInt64.size then some value
  else none

/-- The base that a letter after a leading zero selects. -/
def radixOf? (c : Char) : Option Nat :=
  match c with
  | 'x' | 'X' => some 16
  | 'o' | 'O' => some 8
  | 'b' | 'B' => some 2
  | _ => none

/-- Digits may be set apart by `_`. -/
def isDigitOrGap (c : Char) : Bool := c.isDigit || c == '_'

/-- Digits without the `_` between them. -/
def withoutGaps (cs : List Char) : List Char := cs.filter (· != '_')

/-- A decimal literal cut into its parts. -/
structure DecimalLiteral where
  /-- What stands before the point. -/
  whole : List Char
  /-- What stands after the point, if there is one. -/
  fraction? : Option (List Char)
  /-- The sign and the digits of the exponent, if there is one. -/
  exponent? : Option (List Char × List Char)
deriving DecidableEq, Repr

namespace DecimalLiteral

/-- The point of `1.toFixed` is a member access; that of `1.5`, `1.` and `1.e3` is not. -/
def splitFraction : List Char → Option (List Char) × List Char
  | '.' :: cs =>
    let isMember := match cs with
      | c :: _ => Text.isNameStart c && c != 'e' && c != 'E'
      | [] => false
    if isMember then (none, '.' :: cs)
    else (some (cs.takeWhile isDigitOrGap), cs.dropWhile isDigitOrGap)
  | cs => (none, cs)

/-- The exponent at the front of a text. -/
def exponentAt? : List Char → Option (List Char × List Char)
  | 'e' :: cs | 'E' :: cs =>
    match cs with
    | '+' :: ds => some (['+'], ds.takeWhile isDigitOrGap)
    | '-' :: ds => some (['-'], ds.takeWhile isDigitOrGap)
    | ds => some ([], ds.takeWhile isDigitOrGap)
  | _ => none

/-- The decimal literal at the front of a text. -/
def ofChars (cs : List Char) : DecimalLiteral :=
  let (fraction?, rest) := splitFraction (cs.dropWhile isDigitOrGap)
  ⟨cs.takeWhile isDigitOrGap, fraction?, exponentAt? rest⟩

/-- How many characters the literal takes. -/
def length (n : DecimalLiteral) : Nat :=
  n.whole.length + (n.fraction?.map (·.length + 1)).getD 0
    + (n.exponent?.map fun (sign, digits) => sign.length + digits.length + 1).getD 0

/-- The value of the literal; an exponent without digits has none. -/
def value? (n : DecimalLiteral) : Option Decimal :=
  let fraction := withoutGaps (n.fraction?.getD [])
  let coefficient := Nat.ofDigitChars 10 (withoutGaps n.whole ++ fraction) 0
  let places : Int := fraction.length
  match n.exponent? with
  | none => some ⟨coefficient, -places⟩
  | some (sign, digits) =>
    let digits := withoutGaps digits
    let power : Int := Nat.ofDigitChars 10 digits 0
    if digits = [] then none
    else some ⟨coefficient, (if sign = ['-'] then -power else power) - places⟩

end DecimalLiteral

/-! ## Tokens -/

/-- The rest of a string literal after its opening quote. -/
def stringLexeme (quote : Char) (cs : List Char) : TokenKind × Nat :=
  match stringBody quote cs with
  | (some value, length) => (.string (String.ofList value), length)
  | (none, length) => (.invalid, length)

/-- A number literal in base `radix`; `cs` follows its base letter. -/
def radixLexeme (radix : Nat) (cs : List Char) : TokenKind × Nat :=
  let digits := cs.takeWhile fun c => c.isAlphanum || c == '_'
  match radixValue? radix (withoutGaps digits) with
  | some value => (.number (.ofNat value), digits.length + 1)
  | none => (.invalid, digits.length + 1)

/-- A decimal number literal. -/
def decimalLexeme (first : Char) (cs : List Char) : TokenKind × Nat :=
  let literal := DecimalLiteral.ofChars (first :: cs)
  match literal.value? with
  | some value => (.number (.ofDecimal value), literal.length - 1)
  | none => (.invalid, literal.length - 1)

/-- A number literal. -/
def numberLexeme (first : Char) (cs : List Char) : TokenKind × Nat :=
  match first, cs with
  | '0', c :: ds =>
    match radixOf? c with
    | some radix => radixLexeme radix ds
    | none => decimalLexeme first cs
  | _, _ => decimalLexeme first cs

/-- A reserved word or a name. -/
def wordLexeme (first : Char) (cs : List Char) : TokenKind × Nat :=
  let tail := cs.takeWhile Text.isNamePart
  let word := String.ofList (first :: tail)
  match Keyword.ofText? word with
  | some keyword => (.keyword keyword, tail.length)
  | none => (.identifier word, tail.length)

/-- The longest punctuator that a text starts with. -/
def punctuatorAt? (cs : List Char) : Option Punctuator :=
  ((List.range Punctuator.maxLength).reverse.map (· + 1)).findSome? fun length =>
    Punctuator.all.find? fun p =>
      p.text.toList.length == length && p.text.toList.isPrefixOf cs

/-- A punctuator, or a stray character. -/
def signLexeme (first : Char) (cs : List Char) : TokenKind × Nat :=
  match punctuatorAt? (first :: cs) with
  | some p => (.punctuator p, p.text.toList.length - 1)
  | none => (.invalid, 0)

/-- The kind of the token that starts with `first`, and how many characters of `cs` belong to it. -/
def lexeme (first : Char) (cs : List Char) : TokenKind × Nat :=
  if first = '"' ∨ first = '\'' then stringLexeme first cs
  else if first.isDigit then numberLexeme first cs
  else if Text.isNameStart first then wordLexeme first cs
  else signLexeme first cs

/-- The tokens of a text whose first character is at `position`, and the place of its end. -/
def scanFrom (position : Position) (cs : List Char) : List Token × Position :=
  let gap := triviaLength cs
  let start := position.past (cs.take gap) (cs.drop gap)
  match _h : cs.drop gap with
  | [] => ([], start)
  | first :: rest =>
    let (kind, length) := lexeme first rest
    let stop := start.past (first :: rest.take length) (rest.drop length)
    let (tokens, finish) := scanFrom stop (rest.drop length)
    (⟨kind, start.offset, stop.offset, start.line⟩ :: tokens, finish)
termination_by cs.length
decreasing_by
  have := congrArg List.length _h
  simp only [List.length_drop, List.length_cons] at this ⊢
  omega

/-- The tokens of a text, and the place of its end. -/
def scan (source : String) : List Token × Position := scanFrom .start source.toList

end ScriptSteps
