/-!
# JSON values

The values of a JSON text, and how texts, arrays and objects are written without blanks.

## Main definitions

* `Json`: the values
* `Json.quote`: a text as a JSON string
* `Json.writeArray`, `Json.writeObject`: written values as an array or an object
-/

namespace ScriptSteps

/-- A JSON value. -/
inductive Json where
  | null
  | boolean (value : Bool)
  /-- A number written with digits only. -/
  | natural (value : Nat)
  /-- A number written with a sign, a fraction or an exponent. -/
  | real (text : String)
  /-- A string; none if its escapes name half of a surrogate pair. -/
  | string (value : Option String)
  | array (items : List Json)
  /-- The members of an object in the order they are written. -/
  | object (members : List (Option String × Json))
deriving Repr

namespace Json

/-- A digit of a hexadecimal number, in lower case. -/
def hexDigit (n : Nat) : Char := Nat.digitChar n

/-- A character as it stands in a JSON string. -/
def escapedChar (c : Char) : List Char :=
  if c = '"' then ['\\', '"']
  else if c = '\\' then ['\\', '\\']
  else if c = '\x08' then ['\\', 'b']
  else if c = '\x0c' then ['\\', 'f']
  else if c = '\n' then ['\\', 'n']
  else if c = '\r' then ['\\', 'r']
  else if c = '\t' then ['\\', 't']
  else if c.toNat < 0x20 then
    ['\\', 'u', '0', '0', hexDigit (c.toNat / 16), hexDigit (c.toNat % 16)]
  else [c]

/-- A text as a JSON string. -/
def quote (s : String) : String :=
  String.ofList ('"' :: s.toList.flatMap escapedChar ++ ['"'])

/-- An array of written values. -/
def writeArray (items : List String) : String := "[" ++ String.intercalate "," items ++ "]"

/-- A member of an object, with its value written. -/
def writeMember (member : String × String) : String := quote member.1 ++ ":" ++ member.2

/-- An object of keys and written values. -/
def writeObject (members : List (String × String)) : String :=
  "\x7b" ++ String.intercalate "," (members.map writeMember) ++ "\x7d"

end Json

end ScriptSteps
