import ScriptSteps.Text.Blank

/-!
# Output formats

## Main definitions

* `OutputFormat`: the two ways to print a model
* `OutputFormat.parse`: the format that a word names, in any case and with blanks around it
-/

namespace ScriptSteps

/-- The same text with ASCII capitals in lower case. -/
def Text.asciiLower (s : String) : String := s.map Char.toLower

/-- How a model is printed. -/
inductive OutputFormat where
  | table
  | json
deriving DecidableEq, Repr

namespace OutputFormat

/-- The name of a format. -/
def name : OutputFormat → String
  | table => "table"
  | json => "json"

/-- The format with exactly the given name. -/
def ofName? (name : String) : Option OutputFormat :=
  [table, json].find? (·.name == name)

@[simp] theorem ofName?_name (f : OutputFormat) : ofName? f.name = some f := by cases f <;> rfl

/-- The format that a word names, or what is wrong with it. -/
def parse (word : String) : Except String OutputFormat :=
  let lowered := Text.asciiLower (Text.trim word)
  match ofName? lowered with
  | some format => .ok format
  | none => .error ("unknown format '" ++ lowered ++ "', expected table or json")

end OutputFormat

end ScriptSteps
