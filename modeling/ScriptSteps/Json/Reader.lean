import ScriptSteps.Json.Value
import ScriptSteps.Text.Hex

/-!
# Reading JSON

Reads a JSON text, with nothing but blanks around its value. Each function gives what it read and
the characters after it, which are fewer than those it was given.

## Main definitions

* `Json.value?`: the value at the front of a text
* `Json.parse?`: the value of a whole text
-/

namespace ScriptSteps.Json

/-- The blanks of JSON. -/
def isBlank (c : Char) : Bool := c == ' ' || c == '\n' || c == '\t' || c == '\r'

/-- The characters after the leading blanks. -/
def skipBlanks (cs : List Char) : List Char := cs.dropWhile isBlank

/-! ## Strings -/

/-- The character of a short escape. -/
def shortEscape? (c : Char) : Option Char :=
  match c with
  | '"' => some '"'
  | '\\' => some '\\'
  | '/' => some '/'
  | 'b' => some '\x08'
  | 'f' => some '\x0c'
  | 'n' => some '\n'
  | 'r' => some '\r'
  | 't' => some '\t'
  | _ => none

/-- The code units of a string after its opening quote, and the text after the closing one. A
character stands for its code point, an escape by number for the unit it names. -/
def units? : List Char → Option (List Nat × List Char)
  | [] => none
  | '"' :: rest => some ([], rest)
  | '\\' :: 'u' :: a :: b :: c :: d :: rest => do
    let unit ← Text.hexNumber? [a, b, c, d]
    let (units, rest) ← units? rest
    return (unit :: units, rest)
  | '\\' :: e :: rest => do
    let c ← shortEscape? e
    let (units, rest) ← units? rest
    return (c.toNat :: units, rest)
  | c :: rest =>
    if c.toNat < 0x20 || c == '\\' then none
    else do
      let (units, rest) ← units? rest
      return (c.toNat :: units, rest)

/-- The text of code units, in which surrogates must come in pairs. -/
def textOfUnits? : List Nat → Option (List Char)
  | [] => some []
  | high :: low :: units =>
    if 0xd800 ≤ high ∧ high < 0xdc00 then
      if 0xdc00 ≤ low ∧ low < 0xe000 then do
        let c := Char.ofNat (0x10000 + (high - 0xd800) * 0x400 + (low - 0xdc00))
        return c :: (← textOfUnits? units)
      else none
    else if 0xdc00 ≤ high ∧ high < 0xe000 then none
    else do return Char.ofNat high :: (← textOfUnits? (low :: units))
  | [unit] => if 0xd800 ≤ unit ∧ unit < 0xe000 then none else some [Char.ofNat unit]

/-! ## Numbers -/

/-- A fraction at the front of a text, with its point, and the text after it. -/
def fraction? : List Char → Option (List Char × List Char)
  | '.' :: cs =>
    let digits := cs.takeWhile Char.isDigit
    if digits = [] then none else some ('.' :: digits, cs.dropWhile Char.isDigit)
  | cs => some ([], cs)

/-- An exponent at the front of a text, with its letter, and the text after it. -/
def exponent? : List Char → Option (List Char × List Char)
  | 'e' :: cs | 'E' :: cs =>
    let (sign, cs) := match cs with
      | '+' :: ds => (['+'], ds)
      | '-' :: ds => (['-'], ds)
      | ds => ([], ds)
    let digits := cs.takeWhile Char.isDigit
    if digits = [] then none else some ('e' :: sign ++ digits, cs.dropWhile Char.isDigit)
  | cs => some ([], cs)

/-- The number at the front of a text that starts with a digit or a minus sign, and the text after
it. Zero is the only number that starts with zero. -/
def number? (cs : List Char) : Option (Json × List Char) := do
  let (sign, cs) := match cs with
    | '-' :: ds => (['-'], ds)
    | ds => ([], ds)
  let digits := cs.takeWhile Char.isDigit
  if digits = [] ∨ (digits.head? = some '0' ∧ digits.length ≠ 1) then none
  else
    let (fraction, rest) ← fraction? (cs.dropWhile Char.isDigit)
    let (exponent, rest) ← exponent? rest
    if sign = [] ∧ fraction = [] ∧ exponent = [] then
      return (.natural (Nat.ofDigitChars 10 digits 0), rest)
    else return (.real (String.ofList (sign ++ digits ++ fraction ++ exponent)), rest)

/-! ## Values -/

/-- The text after a word, if the text starts with it. -/
def afterWord? (word : String) (cs : List Char) : Option (List Char) :=
  if word.toList.isPrefixOf cs then some (cs.drop word.toList.length) else none

/-- The texts with fewer characters. -/
abbrev Shorter (cs : List Char) : Type := { rest : List Char // rest.length < cs.length }

/-- A text shorter than a shorter one. -/
def Shorter.within {cs rest : List Char} (shorter : Shorter rest)
    (h : rest.length < cs.length) : Shorter cs := ⟨shorter.1, Nat.lt_trans shorter.2 h⟩

/-- A result whose rest is known to be shorter. -/
def checked? {α : Type} (cs : List Char) (result : Option (α × List Char)) :
    Option (α × Shorter cs) := do
  let (value, rest) ← result
  if h : rest.length < cs.length then return (value, ⟨rest, h⟩) else none

theorem length_skipBlanks_le (cs : List Char) : (skipBlanks cs).length ≤ cs.length :=
  (List.dropWhile_sublist _).length_le

/-- What comes after blanks is shorter once its first character is taken off. -/
theorem length_lt_of_skipBlanks {cs rest : List Char} {c : Char} (h : skipBlanks cs = c :: rest) :
    rest.length < cs.length := by
  have hle := length_skipBlanks_le cs
  rw [h] at hle
  exact hle

/-- The text after a sign, if the sign comes next after blanks. -/
def afterSign? (sign : Char) (cs : List Char) : Option (Shorter cs) :=
  match h : skipBlanks cs with
  | [] => none
  | c :: rest => if c = sign then some ⟨rest, length_lt_of_skipBlanks h⟩ else none

/-- The string at the front of a text, after blanks, and the text after it. -/
def string? (cs : List Char) : Option (Option String × Shorter cs) := do
  let rest ← afterSign? '"' cs
  checked? cs <| (units? rest.1).map fun (units, rest) =>
    ((textOfUnits? units).map String.ofList, rest)

mutual

/-- The value at the front of a text, after blanks, and the text after it. -/
def value? (cs : List Char) : Option (Json × Shorter cs) :=
  match h : skipBlanks cs with
  | [] => none
  | '"' :: _ => (string? cs).map fun (text, rest) => (.string text, rest)
  | '[' :: rest => do
    let (items, rest) ← items? true rest
    return (.array items, rest.within (length_lt_of_skipBlanks h))
  | '\x7b' :: rest => do
    let (members, rest) ← members? true rest
    return (.object members, rest.within (length_lt_of_skipBlanks h))
  | 't' :: rest => checked? cs ((afterWord? "rue" rest).map (.boolean true, ·))
  | 'f' :: rest => checked? cs ((afterWord? "alse" rest).map (.boolean false, ·))
  | 'n' :: rest => checked? cs ((afterWord? "ull" rest).map (.null, ·))
  | rest => checked? cs (number? rest)
termination_by 2 * cs.length + 1
decreasing_by
  all_goals
    have := length_lt_of_skipBlanks h
    omega

/-- The items of an array up to its closing bracket, and the text after that. The array may end at
once if `first` is set, that is, right after its opening bracket. -/
def items? (first : Bool) (cs : List Char) : Option (List Json × Shorter cs) :=
  match if first then afterSign? ']' cs else none with
  | some rest => some ([], rest)
  | none => do
    let (item, ⟨rest, h₁⟩) ← value? cs
    match afterSign? ']' rest with
    | some close => return ([item], close.within h₁)
    | none =>
      let ⟨rest', h₂⟩ ← afterSign? ',' rest
      let (items, rest'') ← items? false rest'
      return (item :: items, (rest''.within h₂).within h₁)
termination_by 2 * cs.length + 2

/-- The members of an object up to its closing brace, and the text after that. The object may end
at once if `first` is set, that is, right after its opening brace. -/
def members? (first : Bool) (cs : List Char) :
    Option (List (Option String × Json) × Shorter cs) :=
  match if first then afterSign? '\x7d' cs else none with
  | some rest => some ([], rest)
  | none => do
    let (key, ⟨rest₁, h₁⟩) ← string? cs
    let ⟨rest₂, h₂⟩ ← afterSign? ':' rest₁
    let (value, ⟨rest₃, h₃⟩) ← value? rest₂
    match afterSign? '\x7d' rest₃ with
    | some close => return ([(key, value)], ((close.within h₃).within h₂).within h₁)
    | none =>
      let ⟨rest₄, h₄⟩ ← afterSign? ',' rest₃
      let (members, rest₅) ← members? false rest₄
      return ((key, value) :: members, (((rest₅.within h₄).within h₃).within h₂).within h₁)
termination_by 2 * cs.length

end

/-- The value of a whole text. -/
def parse? (source : String) : Option Json := do
  let (value, rest) ← value? source.toList
  if skipBlanks rest.1 = [] then return value else none

end ScriptSteps.Json
