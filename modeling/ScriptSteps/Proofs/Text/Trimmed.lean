import Mathlib
import ScriptSteps.Text.Blank

/-!
# Texts without blanks at the end

Blanks at the end of a text are dropped where it is shown in a table. What remains ends in something
else, and stays as it is when texts that do so are put in a row.

## Main definitions

* `Text.Trimmed`: a text does not end in a blank

## Main statements

* `Text.dropBlanksEnd_append`: blanks at the end make no difference to what remains
* `Text.trim_trim`: a text without blanks at its ends stays as it is
* `Text.trimmed_intercalate`, `Text.dropBlanksEnd_unlines`: texts in a row, and one on each line
-/

namespace ScriptSteps

namespace Text

variable {cs : List Char}

/-- The characters do not end in a blank. -/
def Trimmed (cs : List Char) : Prop := ∀ c ∈ cs.getLast?, isBlank c = false

theorem trimmed_iff : Trimmed cs ↔ dropBlanksEnd cs = cs := by
  rw [show dropBlanksEnd cs = cs.rdropWhile isBlank from rfl, List.rdropWhile_eq_self_iff]
  constructor
  · intro h hne
    simpa using h (cs.getLast hne) (List.getLast?_eq_getLast_of_ne_nil hne)
  · intro h c hc
    obtain ⟨hne, rfl⟩ := List.mem_getLast?_eq_getLast hc
    simpa using h hne

instance : DecidablePred Trimmed := fun _ => decidable_of_iff' _ trimmed_iff

theorem trimmed_dropBlanksEnd (cs : List Char) : Trimmed (dropBlanksEnd cs) :=
  trimmed_iff.2 (List.rdropWhile_idempotent isBlank cs)

/-- Blanks at the end make no difference. -/
theorem dropBlanksEnd_append {blanks : List Char} (h : ∀ c ∈ blanks, isBlank c = true)
    (cs : List Char) : dropBlanksEnd (cs ++ blanks) = dropBlanksEnd cs := by
  induction blanks using List.reverseRecOn with
  | nil => rw [List.append_nil]
  | append_singleton blanks c ih =>
    simp only [List.forall_mem_append, List.forall_mem_singleton] at h
    rw [← List.append_assoc]
    exact (List.rdropWhile_concat_pos isBlank _ c h.2).trans (ih h.1)

/-- What is dropped are blanks. -/
theorem exists_dropBlanksEnd (cs : List Char) :
    ∃ blanks, cs = dropBlanksEnd cs ++ blanks ∧ ∀ c ∈ blanks, isBlank c = true :=
  ⟨cs.rtakeWhile isBlank, List.rdropWhile_append_rtakeWhile.symm,
    fun _ => List.mem_rtakeWhile_imp⟩

theorem Trimmed.append {tail : List Char} (h : Trimmed tail) (hne : tail ≠ []) (cs : List Char) :
    Trimmed (cs ++ tail) := by
  intro c hc
  rw [List.getLast?_append_of_ne_nil cs hne] at hc
  exact h c hc

/-! ## Trimming twice -/

theorem dropBlanks_eq_self (h : ∀ c ∈ cs.head?, isBlank c = false) : dropBlanks cs = cs := by
  cases cs with
  | nil => rfl
  | cons c cs => exact List.dropWhile_cons_of_neg (by simp [h c rfl])

theorem head?_dropBlanksEnd (h : ∀ c ∈ cs.head?, isBlank c = false) :
    (dropBlanksEnd cs).head? = cs.head? := by
  obtain ⟨blanks, hcs, hblanks⟩ := exists_dropBlanksEnd cs
  cases hkept : dropBlanksEnd cs with
  | nil =>
    rw [hkept, List.nil_append] at hcs
    cases cs with
    | nil => rfl
    | cons c cs =>
      have hblank := hblanks c (by simp [← hcs])
      simp [h c rfl] at hblank
  | cons c kept =>
    rw [hcs, hkept]
    rfl

theorem trim_trim (s : String) : trim (trim s) = trim s := by
  have hstart : ∀ c ∈ (dropBlanks s.toList).head?, isBlank c = false := by
    intro c hc
    have hnot := List.head?_dropWhile_not isBlank s.toList
    rw [show List.dropWhile isBlank s.toList = dropBlanks s.toList from rfl, hc] at hnot
    simpa using hnot
  have hend : dropBlanks (dropBlanksEnd (dropBlanks s.toList))
      = dropBlanksEnd (dropBlanks s.toList) := by
    apply dropBlanks_eq_self
    rwa [head?_dropBlanksEnd hstart]
  have hagain := trimmed_iff.1 (trimmed_dropBlanksEnd (dropBlanks s.toList))
  simp only [trim, trimStart, trimEnd, String.toList_ofList, hend, hagain]

/-! ## Texts in a row -/

/-- Texts in a row, none of which is empty or ends in a blank. -/
theorem trimmed_intercalate (separator : List Char) {texts : List (List Char)}
    (h : ∀ text ∈ texts, Trimmed text ∧ text ≠ []) :
    Trimmed (separator.intercalate texts) ∧ (texts ≠ [] → separator.intercalate texts ≠ []) := by
  induction texts with
  | nil => exact ⟨by simp [Trimmed], by simp⟩
  | cons first rest ih =>
    simp only [List.forall_mem_cons] at h
    cases rest with
    | nil => simpa using h.1
    | cons second rest =>
      obtain ⟨htrimmed, hne⟩ := ih h.2
      rw [List.intercalate_cons_cons]
      exact ⟨htrimmed.append (hne (by simp)) _, by simp [h.1.2]⟩

theorem not_mem_intercalate {c : Char} {separator : List Char} (hseparator : c ∉ separator)
    {texts : List (List Char)} (h : ∀ text ∈ texts, c ∉ text) :
    c ∉ separator.intercalate texts := by
  induction texts with
  | nil => simp
  | cons first rest ih =>
    simp only [List.forall_mem_cons] at h
    cases rest with
    | nil => simpa using h.1
    | cons second rest =>
      rw [List.intercalate_cons_cons, List.mem_append, List.mem_append]
      rintro ((hmem | hmem) | hmem)
      · exact h.1 hmem
      · exact hseparator hmem
      · exact ih h.2 hmem

/-- Texts on a line each, without the last line break. -/
theorem dropBlanksEnd_unlines {texts : List (List Char)} (hne : texts ≠ [])
    (h : ∀ text ∈ texts, Trimmed text ∧ text ≠ []) :
    dropBlanksEnd (texts.flatMap (· ++ ['\n'])) = ['\n'].intercalate texts := by
  have hlast : texts.flatMap (· ++ ['\n']) = ['\n'].intercalate texts ++ ['\n'] := by
    clear h
    induction texts with
    | nil => exact absurd rfl hne
    | cons first rest ih =>
      cases rest with
      | nil => simp
      | cons second rest =>
        rw [List.flatMap_cons, ih (by simp), List.intercalate_cons_cons]
        simp
  rw [hlast, dropBlanksEnd_append (by simp [isBlank_of_isLineEnd, isLineEnd])]
  exact trimmed_iff.1 (trimmed_intercalate ['\n'] h).1

end Text

end ScriptSteps
