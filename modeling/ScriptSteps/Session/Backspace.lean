import ScriptSteps.Text.Bytes
import ScriptSteps.Text.Cluster

/-!
# Backspaces in the input

A backspace in the input of a session takes away the cluster of characters before it, as the key
does at a terminal. Where nothing is before it, it does nothing.

## Main definitions

* `TypedText`: a text and the sizes of its clusters
* `applyBackspaces`: a text after all backspaces in it

## Main statements

* `applyBackspaces_eq_self`: a text without backspaces stays as it is
-/

namespace ScriptSteps

namespace Session

/-- A text as it is typed. -/
structure TypedText where
  /-- The characters, the last one first. -/
  characters : List Char
  /-- The sizes of the clusters in bytes, the last one first. -/
  sizes : List Nat
deriving DecidableEq, Repr

/-- The character of the backspace key. -/
def backspace : Char := '\x08'

/-- Characters without as many of the first ones as fill a number of bytes. -/
def dropBytes : Nat → List Char → List Char
  | _, [] => []
  | 0, cs => cs
  | size, c :: cs => dropBytes (size - c.utf8Size) cs

namespace TypedText

/-- Nothing typed yet. -/
def empty : TypedText := ⟨[], []⟩

/-- One more cluster. A size is kept in one byte, so that of a cluster of 256 bytes or more only
the remainder can be taken away again. -/
def add (t : TypedText) (cluster : List Char) : TypedText :=
  ⟨cluster.reverse ++ t.characters, Text.byteSize cluster % 256 :: t.sizes⟩

/-- The text without its last cluster. -/
def erase (t : TypedText) : TypedText :=
  match t.sizes with
  | [] => t
  | size :: sizes => ⟨dropBytes size t.characters, sizes⟩

/-- What a cluster of the input does to the text before it. -/
def press (t : TypedText) (cluster : List Char) : TypedText :=
  if cluster = [backspace] then t.erase else t.add cluster

theorem characters_foldl_press {clusters : List (List Char)} (h : [backspace] ∉ clusters)
    (t : TypedText) :
    (clusters.foldl press t).characters = clusters.flatten.reverse ++ t.characters := by
  induction clusters generalizing t with
  | nil => rfl
  | cons cluster clusters ih =>
    obtain ⟨head, tail⟩ := List.ne_and_not_mem_of_not_mem_cons h
    rw [List.foldl_cons, ih tail, press, if_neg (Ne.symm head)]
    simp [add]

end TypedText

/-- A text after each backspace in it has taken away the cluster before it. -/
def applyBackspaces (text : String) : String :=
  String.ofList ((Text.clusters text.toList).foldl TypedText.press .empty).characters.reverse

/-- A text without backspaces stays as it is. -/
theorem applyBackspaces_eq_self {text : String} (h : backspace ∉ text.toList) :
    applyBackspaces text = text := by
  have absent : [backspace] ∉ Text.clusters text.toList := by
    intro member
    apply h
    rw [← Text.flatten_clusters text.toList]
    exact List.mem_flatten.2 ⟨_, member, by simp⟩
  rw [applyBackspaces, TypedText.characters_foldl_press absent]
  simp [TypedText.empty]

end Session

end ScriptSteps
