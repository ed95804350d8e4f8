import ScriptSteps.Text.Visible

/-!
# Quoted text in messages

Messages show a text between double quotes, with every character that cannot be shown by itself
written as an escape.

## Main definitions

* `quotedChar`: one character as messages write it
* `quoted`: a whole text, with its quotes
-/

namespace ScriptSteps.Text

/-- The escape of a character by its code point in hexadecimal, such as `\u{301}`. -/
def codePointEscape (c : Char) : List Char :=
  ['\\', 'u', '\x7b'] ++ Nat.toDigits 16 c.toNat ++ ['\x7d']

/-- A character as it stands between double quotes. -/
def quotedChar (c : Char) : List Char :=
  if c = '\x00' then ['\\', '0']
  else if c = '\t' then ['\\', 't']
  else if c = '\r' then ['\\', 'r']
  else if c = '\n' then ['\\', 'n']
  else if c = '\\' then ['\\', '\\']
  else if c = '"' then ['\\', '"']
  else if isVisible c then [c]
  else codePointEscape c

/-- A text between double quotes. -/
def quoted (s : String) : String :=
  String.ofList ('"' :: s.toList.flatMap quotedChar ++ ['"'])

end ScriptSteps.Text
