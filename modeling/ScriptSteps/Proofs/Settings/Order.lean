import Mathlib
import ScriptSteps.Proofs.Settings.Layers

/-!
# The order of variables

Whether an environment is refused does not depend on the order of its variables. What it sets does
so only for a setting that more than one variable names: variables whose names differ in case name
the same setting, and the last of them decides.

## Main definitions

* `Environment.keys`: the keys that the variables of an environment stand for
* `Environment.values`: the values under a key

## Main statements

* `Environment.last?_perm`: the last value of a key that is there once, in any order
* `Settings.loadEnvironment_perm`: loading an environment in another order
-/

namespace ScriptSteps

/-! ## Variables -/

namespace Environment

variable {e e' : Environment} {key : String}

/-- The keys that the variables stand for, in their order. -/
def keys (e : Environment) : List String := e.filterMap fun (name, _) => keyOfVariable? name

/-- The values under a key, in their order. -/
def values (e : Environment) (key : String) : List String :=
  e.filterMap fun (name, value) => if keyOfVariable? name = some key then some value else none

theorem length_values (e : Environment) (key : String) :
    (e.values key).length = e.keys.count key := by
  induction e with
  | nil => rfl
  | cons entry rest ih =>
    obtain ⟨name, value⟩ := entry
    simp only [values, keys, List.filterMap_cons] at ih ⊢
    cases keyOfVariable? name with
    | none => simpa using ih
    | some other => by_cases hkey : other = key <;> simp [hkey, ih]

theorem Accepted.perm (h : e.Accepted) (hperm : e.Perm e') : e'.Accepted :=
  fun entry hentry => h entry (hperm.mem_iff.2 hentry)

/-- A key that is there once has the same last value in any order. -/
theorem last?_perm (hperm : e.Perm e') (honce : e.keys.count key ≤ 1) :
    e.last? key = e'.last? key := by
  have hvalues : (e.values key).Perm (e'.values key) := hperm.filterMap _
  rw [← length_values] at honce
  have hsame : e.values key = e'.values key := by
    match hlist : e.values key with
    | [] => exact (List.nil_perm.1 (hlist ▸ hvalues)).symm
    | [value] => exact (List.singleton_perm.1 (hlist ▸ hvalues))
    | _ :: _ :: _ => simp [hlist] at honce
  exact congrArg List.getLast? hsame

end Environment

/-! ## Settings -/

namespace Settings

variable {e e' : Environment}

/-- In any order, the variables of an environment are all accepted or not. If they are, the last of
those that name a setting decides it. So a setting that at most one of them names is the same in any
order, and so are all settings if no two name the same one. -/
theorem loadEnvironment_perm (hperm : e.Perm e') (s : Settings) :
    ((s.loadEnvironment e).2 = none ↔ (s.loadEnvironment e').2 = none)
      ∧ ((s.loadEnvironment e).2 = none →
        ((s.loadEnvironment e).1 = s.apply (.ofEnvironment e)
          ∧ (s.loadEnvironment e').1 = s.apply (.ofEnvironment e'))
        ∧ (e.keys.count "format" ≤ 1 →
          (s.loadEnvironment e).1.format = (s.loadEnvironment e').1.format)
        ∧ (e.keys.count "color" ≤ 1 →
          (s.loadEnvironment e).1.color = (s.loadEnvironment e').1.color)
        ∧ (e.keys.count "log_level" ≤ 1 →
          (s.loadEnvironment e).1.logLevel = (s.loadEnvironment e').1.logLevel)
        ∧ (e.keys.count "history_size" ≤ 1 →
          (s.loadEnvironment e).1.historySize = (s.loadEnvironment e').1.historySize)
        ∧ (e.keys.Nodup → s.loadEnvironment e = s.loadEnvironment e')) := by
  rw [← accepted_iff, ← accepted_iff]
  refine ⟨⟨(·.perm hperm), (·.perm hperm.symm)⟩, fun haccepted => ?_⟩
  rw [loadEnvironment_of_accepted haccepted, loadEnvironment_of_accepted (haccepted.perm hperm)]
  refine ⟨⟨rfl, rfl⟩, fun honce => ?_, fun honce => ?_, fun honce => ?_, fun honce => ?_,
    fun hkeys => ?_⟩
  case refine_5 =>
    have honce := List.nodup_iff_count_le_one.1 hkeys
    simp only [apply, SettingsLayer.ofEnvironment, Environment.last?_perm hperm (honce _)]
  -- Each setting is read from the last value of its own key, and from no other.
  all_goals simp only [apply, SettingsLayer.ofEnvironment, Environment.last?_perm hperm honce]

/-- Three settings and a variable that is none of ours, from the last to the first. -/
theorem loadEnvironment_perm_reverse :
    let e : Environment := [("SPACEY_STEPS_FORMAT", "json"), ("HOME", "/"),
      ("SPACEY_STEPS_Log_Level", "debug"), ("SPACEY_STEPS_color", "Off")]
    e.Perm e.reverse ∧ e.keys.Nodup
      ∧ initial.apply (.ofEnvironment e) = ⟨.json, false, "debug", 1000⟩
      ∧ initial.loadEnvironment e = (⟨.json, false, "debug", 1000⟩, none)
      ∧ initial.loadEnvironment e.reverse = (⟨.json, false, "debug", 1000⟩, none) := by
  intro e
  have hperm : e.Perm e.reverse := e.reverse_perm.symm
  have hkeys : e.keys.Nodup := by decide +kernel
  have hload : initial.loadEnvironment e = (⟨.json, false, "debug", 1000⟩, none) := by
    decide +kernel
  obtain ⟨-, hagree⟩ := loadEnvironment_perm hperm initial
  obtain ⟨⟨hlast, -⟩, -, -, -, -, hsame⟩ := hagree (congrArg Prod.snd hload)
  rw [hload] at hlast
  exact ⟨hperm, hkeys, hlast.symm, hload, (hsame hkeys).symm.trans hload⟩

/-- Names that differ are not enough: these two name one setting, and the last one decides. -/
theorem loadEnvironment_reverse_ne :
    let e : Environment := [("SPACEY_STEPS_FORMAT", "json"), ("SPACEY_STEPS_Format", "table")]
    e.Perm e.reverse ∧ (e.map Prod.fst).Nodup
      ∧ initial.loadEnvironment e = (initial, none)
      ∧ initial.loadEnvironment e.reverse = ({ initial with format := .json }, none)
      ∧ initial.loadEnvironment e ≠ initial.loadEnvironment e.reverse := by
  intro e
  exact ⟨e.reverse_perm.symm, by decide, by decide +kernel, by decide +kernel, by decide +kernel⟩

end Settings

end ScriptSteps
