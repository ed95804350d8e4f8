/-!
# TOML values

The values that settings files hold.

## Main definitions

* `Toml`: strings, booleans, numbers and tables
* `Toml.Table.insert?`: a table with one more value, unless its place is taken
-/

namespace ScriptSteps

/-- A TOML value. -/
inductive Toml where
  | string (value : String)
  | boolean (value : Bool)
  | integer (value : Int)
  /-- A number with a fraction or an exponent. -/
  | float
  /-- Keys and values in the order they are written. -/
  | table (entries : List (String × Toml))
deriving Repr

namespace Toml

/-- The keys and values of a table. -/
abbrev Table := List (String × Toml)

/-- The table with a value under a path of keys. Tables on the way are made as needed; it fails if
a value stands in the way or at the end. -/
def Table.insert? (value : Toml) : (path : List String) → Table → Option Table
  | [], _ => none
  | key :: path, entries =>
    match entries.find? (·.1 == key), path with
    | none, [] => some (entries ++ [(key, value)])
    | none, _ => do return entries ++ [(key, .table (← insert? value path []))]
    | some (_, .table inner), _ :: _ => do
      let inner ← insert? value path inner
      return entries.map fun entry => if entry.1 == key then (key, .table inner) else entry
    | some _, _ => none

end Toml

end ScriptSteps
