import ScriptSteps.Text.Hex
import ScriptSteps.Toml.Value

/-!
# Reading TOML

Reads settings files: comments, table headers, and keys with strings, booleans and numbers, one to
a line.

## Main definitions

* `Toml.parse?`: the table that a text stands for
-/

namespace ScriptSteps.Toml

/-- A space or a tab. -/
def isBlank (c : Char) : Bool := c == ' ' || c == '\t'

/-- The characters after the leading spaces and tabs. -/
def skipBlanks (cs : List Char) : List Char := cs.dropWhile isBlank

/-- The characters that may stand as themselves in strings and comments. -/
def isTextChar (c : Char) : Bool := c == '\t' || (0x20 ≤ c.toNat && c.toNat != 0x7f)

/-! ## Strings -/

/-- The character with a code point in hexadecimal. -/
def charOfHex? (digits : List Char) : Option Char := do
  let n ← Text.hexNumber? digits
  if n.isValidChar then some (Char.ofNat n) else none

/-- The character of a short escape. -/
def shortEscape? (c : Char) : Option Char :=
  match c with
  | 'b' => some '\x08'
  | 't' => some '\t'
  | 'n' => some '\n'
  | 'f' => some '\x0c'
  | 'r' => some '\r'
  | '"' => some '"'
  | '\\' => some '\\'
  | _ => none

/-- The characters of a string with escapes after its opening quote, and the text after the closing
one. -/
def basicString? : List Char → Option (List Char × List Char)
  | [] => none
  | '"' :: rest => some ([], rest)
  | '\\' :: 'u' :: a :: b :: c :: d :: rest => do
    let first ← charOfHex? [a, b, c, d]
    let (cs, rest) ← basicString? rest
    return (first :: cs, rest)
  | '\\' :: 'U' :: a :: b :: c :: d :: e :: f :: g :: h :: rest => do
    let first ← charOfHex? [a, b, c, d, e, f, g, h]
    let (cs, rest) ← basicString? rest
    return (first :: cs, rest)
  | '\\' :: e :: rest => do
    let first ← shortEscape? e
    let (cs, rest) ← basicString? rest
    return (first :: cs, rest)
  | c :: rest =>
    if isTextChar c && c != '\\' then do
      let (cs, rest) ← basicString? rest
      return (c :: cs, rest)
    else none

/-- The characters of a string without escapes after its opening quote, and the text after the
closing one. -/
def literalString? : List Char → Option (List Char × List Char)
  | [] => none
  | c :: rest =>
    if c = '\'' then some ([], rest)
    else if isTextChar c then do
      let (cs, rest) ← literalString? rest
      return (c :: cs, rest)
    else none

/-! ## Keys -/

/-- The characters of a key without quotes. -/
def isBareKeyChar (c : Char) : Bool := c.isAlphanum || c == '_' || c == '-'

/-- One part of a key, and the text after it. -/
def keyPart? : List Char → Option (String × List Char)
  | '"' :: cs => do
    let (part, rest) ← basicString? cs
    return (String.ofList part, rest)
  | '\'' :: cs => do
    let (part, rest) ← literalString? cs
    return (String.ofList part, rest)
  | cs =>
    let part := cs.takeWhile isBareKeyChar
    if part = [] then none else some (String.ofList part, cs.dropWhile isBareKeyChar)

/-- A key of at most `limit` parts with dots between them, and the text after it and its blanks. -/
def key? : (limit : Nat) → List Char → Option (List String × List Char)
  | 0, _ => none
  | limit + 1, cs => do
    let (part, rest) ← keyPart? (skipBlanks cs)
    match skipBlanks rest with
    | '.' :: rest =>
      let (parts, rest) ← key? limit rest
      return (part :: parts, rest)
    | rest => return ([part], rest)

/-! ## Numbers -/

/-- Whether digits may have single `_` between them: each `_` stands between two digits. -/
def wellSpaced (isDigit : Char → Bool) : List Char → Bool
  | [] => false
  | [c] => isDigit c
  | c :: '_' :: cs => isDigit c && wellSpaced isDigit cs
  | c :: cs => isDigit c && wellSpaced isDigit cs

/-- Whether a text is a decimal integer without sign: no zero before other digits. -/
def isWhole (cs : List Char) : Bool :=
  wellSpaced Char.isDigit cs && (cs.head? != some '0' || cs.length == 1)

/-- The sign at the front of a text, and the text after it. -/
def splitSign : List Char → Bool × List Char
  | '-' :: cs => (true, cs)
  | '+' :: cs => (false, cs)
  | cs => (false, cs)

/-- The integer of digits in a base, if it has 64 bits with sign. -/
def integerOf? (radix : Nat) (negative : Bool) (digits : List Char) : Option Toml := do
  let n ← (digits.filter (· != '_')).foldlM (fun n c => do return n * radix + (← Text.hexValue? c)) 0
  let value : Int := if negative then -n else n
  if -9223372036854775808 ≤ value ∧ value ≤ 9223372036854775807 then some (.integer value)
  else none

/-- Whether a text is an exponent after its letter. -/
def isExponent (cs : List Char) : Bool := wellSpaced Char.isDigit (splitSign cs).2

/-- Whether a text without sign is a float: an integer, then a fraction, an exponent or both. -/
def isFloat (cs : List Char) : Bool :=
  let isDigitOrGap (c : Char) : Bool := c.isDigit || c == '_'
  let isPower (c : Char) : Bool := c == 'e' || c == 'E'
  isWhole (cs.takeWhile isDigitOrGap) &&
    match cs.dropWhile isDigitOrGap with
    | '.' :: rest =>
      wellSpaced Char.isDigit (rest.takeWhile isDigitOrGap) &&
        match rest.dropWhile isDigitOrGap with
        | [] => true
        | c :: power => isPower c && isExponent power
    | c :: power => isPower c && isExponent power
    | [] => false

/-- A number or a boolean, from all its characters. -/
def scalar? (cs : List Char) : Option Toml :=
  match cs with
  | ['t', 'r', 'u', 'e'] => some (.boolean true)
  | ['f', 'a', 'l', 's', 'e'] => some (.boolean false)
  | '0' :: 'x' :: digits =>
    if wellSpaced (fun c => (Text.hexValue? c).isSome) digits then integerOf? 16 false digits else none
  | '0' :: 'o' :: digits =>
    if wellSpaced (fun c => '0' ≤ c ∧ c ≤ '7') digits then integerOf? 8 false digits else none
  | '0' :: 'b' :: digits =>
    if wellSpaced (fun c => c == '0' || c == '1') digits then integerOf? 2 false digits else none
  | _ =>
    let (negative, digits) := splitSign cs
    if isWhole digits then integerOf? 10 negative digits
    else if isFloat digits || digits == ['i', 'n', 'f'] || digits == ['n', 'a', 'n'] then
      some .float
    else none

/-- The characters of numbers and booleans. -/
def isScalarChar (c : Char) : Bool := c.isAlphanum || c == '_' || c == '+' || c == '-' || c == '.'

/-- The value at the front of a text, and the text after it. -/
def value? : List Char → Option (Toml × List Char)
  | '"' :: cs => do
    let (text, rest) ← basicString? cs
    return (.string (String.ofList text), rest)
  | '\'' :: cs => do
    let (text, rest) ← literalString? cs
    return (.string (String.ofList text), rest)
  | cs => do return (← scalar? (cs.takeWhile isScalarChar), cs.dropWhile isScalarChar)

/-! ## Lines -/

/-- Whether nothing but blanks and a comment is left of a line. -/
def isLineDone (cs : List Char) : Bool :=
  match skipBlanks cs with
  | [] => true
  | '#' :: comment => comment.all isTextChar
  | _ => false

/-- What a line says. -/
inductive Line where
  | nothing
  | header (path : List String)
  | entry (path : List String) (value : Toml)

/-- The meaning of a line. -/
def line? (cs : List Char) : Option Line :=
  if isLineDone cs then some .nothing
  else
    match skipBlanks cs with
    | '[' :: rest => do
      let (path, rest) ← key? rest.length rest
      match rest with
      | ']' :: rest => if isLineDone rest then return .header path else none
      | _ => none
    | rest => do
      let (path, rest) ← key? rest.length rest
      match rest with
      | '=' :: rest =>
        let (value, rest) ← value? (skipBlanks rest)
        if isLineDone rest then return .entry path value else none
      | _ => none

/-- Adds the meaning of a line to a table; entries after a header go under its path. -/
def addLine? : Table × List String → Line → Option (Table × List String)
  | (root, under), .nothing => some (root, under)
  | (root, _), .header path => do return (← Table.insert? (.table []) path root, path)
  | (root, under), .entry path value => do
    return (← Table.insert? value (under ++ path) root, under)

/-- The lines of a text, each without the line feed, or carriage return and line feed, at its
end. -/
def linesOf (source : List Char) : List (List Char) :=
  let lines := source.splitOn '\n'
  let ended := lines.dropLast.map fun cs =>
    if cs.getLast? = some '\r' then cs.dropLast else cs
  ended ++ lines.getLast?.toList

/-- The table that a text stands for. -/
def parse? (source : String) : Option Table := do
  let cs := match source.toList with
    | '\ufeff' :: cs => cs
    | cs => cs
  let lines ← (linesOf cs).mapM line?
  let (root, _) ← lines.foldlM addLine? ([], [])
  return root

end ScriptSteps.Toml
