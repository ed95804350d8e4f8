import ScriptSteps.Json.Reader
import ScriptSteps.Step

/-!
# Models as JSON

A model is written as an array of objects without any blanks. It is read back from that, and also
from objects with further members or members in another order, from rows written as arrays of
their five texts, and from kinds written as an object with the kind as its only key.

## Main definitions

* `Model.toJson`: a model as JSON text
* `Model.ofJson?`: the model that a JSON text stands for
-/

namespace ScriptSteps

/-! ## Writing -/

/-- A row as a JSON object. -/
def Step.toJson (s : Step) : String :=
  Json.writeObject [("Line", toString s.line), ("Type", Json.quote s.kind.name),
    ("Name", Json.quote s.name), ("Condition", Json.quote s.condition),
    ("Value", Json.quote s.value)]

/-- A model as a JSON array. -/
def Model.toJson (m : Model) : String := Json.writeArray (m.map Step.toJson)

/-! ## Reading -/

namespace Json

/-- The text of a string. -/
def text? : Json → Option String
  | string value => value
  | _ => none

/-- A line number, which has at most 32 bits. -/
def line? : Json → Option Nat
  | natural value => if value < UInt32.size then some value else none
  | _ => none

/-- A kind: its name, or an object with the name as its only key and nothing under it. -/
def stepKind? : Json → Option StepKind
  | string (some name) => StepKind.ofName? name
  | object [(some name, null)] => StepKind.ofName? name
  | _ => none

/-- The value of the member with a given key, if there is exactly one. -/
def member? (members : List (Option String × Json)) (key : String) : Option Json :=
  match members.filter (·.1 == some key) with
  | [(_, value)] => some value
  | _ => none

/-- A row from its five values. -/
def stepOf? (line kind name condition value : Json) : Option Step := do
  return ⟨← line.line?, ← kind.stepKind?, ← name.text?, ← condition.text?, ← value.text?⟩

/-- A row: an object with the five members, or an array of the five values. -/
def step? : Json → Option Step
  | array [line, kind, name, condition, value] => stepOf? line kind name condition value
  | object members =>
    if members.all (·.1.isSome) then do
      stepOf? (← member? members "Line") (← member? members "Type") (← member? members "Name")
        (← member? members "Condition") (← member? members "Value")
    else none
  | _ => none

/-- A model: an array of rows. -/
def model? : Json → Option Model
  | array items => items.mapM step?
  | _ => none

end Json

/-- The model that a JSON text stands for. -/
def Model.ofJson? (source : String) : Option Model := do (← Json.parse? source).model?

end ScriptSteps
