import Mathlib
import ScriptSteps.Session.Completion

/-!
# What is offered for a word

The word before a place in a line starts right after the last character that is no part of a word.
If that character is longer than a byte, the place where the word would start is inside it, and
nothing can be looked up there. Otherwise exactly those candidates are offered that start with the
word and are longer, and what is shown after a line is the rest of the first of them.

## Main definitions

* `Completion.separator?`: the last character of a text that is no part of a word
* `Completion.trailingWord`: what comes after it

## Main statements

* `Completion.lastWord?_eq`: the word at the end of a text, if it can be cut out
* `Completion.complete?_exact`: when there are completions, which they are, and which is the hint
-/

namespace ScriptSteps

namespace Text

theorem byteSize_reverse (cs : List Char) : byteSize cs.reverse = byteSize cs := by
  induction cs with
  | nil => rfl
  | cons c cs ih => simp [ih, Nat.add_comm]

/-- One byte after the place where two texts are joined a text can be cut only if the character that
starts there is not longer than that. -/
theorem splitAtByte?_byteSize_add_one (before : List Char) (c : Char) (after : List Char) :
    splitAtByte? (byteSize before + 1) (before ++ c :: after)
      = if 1 < c.utf8Size then none else some (before ++ [c], after) := by
  have hpositive := Char.utf8Size_pos c
  split_ifs with hlong
  · -- A cut there would leave a first part that ends inside `c`.
    rw [Option.eq_none_iff_forall_ne_some]
    rintro ⟨front, rest⟩ hcut
    obtain ⟨hsplit, hsize⟩ := splitAtByte?_eq_some hcut
    rcases List.append_eq_append_iff.1 hsplit with ⟨middle, rfl, hmiddle⟩ | ⟨middle, rfl, -⟩
    · rw [byteSize_append, Nat.add_left_cancel_iff] at hsize
      cases middle with
      | nil => cases hsize
      | cons first middle =>
        obtain ⟨rfl, -⟩ := List.cons.inj hmiddle
        rw [byteSize_cons] at hsize
        omega
    · rw [byteSize_append] at hsize
      omega
  · have hsize : byteSize before + 1 = byteSize (before ++ [c]) := by
      simp only [byteSize_append, byteSize_cons, byteSize_nil]
      omega
    have htext : before ++ c :: after = before ++ [c] ++ after := by simp
    rw [hsize, htext, splitAtByte?_byteSize]

end Text

namespace Completion

open Text

/-! ## The last word -/

/-- The last character of a text that is no part of a word. -/
def separator? (text : List Char) : Option Char := text.reverse.find? fun c => !isWordPart c

/-- The characters of a text after the last one that is no part of a word. -/
def trailingWord (text : List Char) : List Char := text.rtakeWhile isWordPart

/-- The word at the end of a text can be cut out unless the character before it is longer than a
byte. -/
theorem lastWord?_eq (text : List Char) :
    lastWord? text
      = if ∃ c ∈ separator? text, 1 < c.utf8Size then none else some (trailingWord text) := by
  have hseparator : separator? text = (text.reverse.dropWhile isWordPart).head? := by
    simp [separator?, List.find?_eq_head?_dropWhile_not]
  have hsplit : (text.reverse.dropWhile isWordPart).reverse ++ trailingWord text = text :=
    List.rdropWhile_append_rtakeWhile
  rw [lastWord?, wordStart, hseparator]
  cases hearlier : text.reverse.dropWhile isWordPart with
  | nil =>
    rw [hearlier, List.reverse_nil, List.nil_append] at hsplit
    simp [hsplit]
  | cons c earlier =>
    have htext : earlier.reverse ++ c :: trailingWord text = text := by
      rw [hearlier] at hsplit
      simpa using hsplit
    have hcut := splitAtByte?_byteSize_add_one earlier.reverse c (trailingWord text)
    rw [htext, byteSize_reverse] at hcut
    rw [hcut]
    by_cases hlong : 1 < c.utf8Size <;> simp [hlong]

/-! ## Candidates -/

/-- The candidates for a word are those that start with it and have more characters after it. -/
theorem extends?_iff {word : List Char} {candidate : String} :
    extends? word candidate = true ↔ word <+: candidate.toList ∧ word ≠ candidate.toList := by
  rw [extends?, Bool.and_eq_true, decide_eq_true_iff, List.isPrefixOf_iff_prefix]
  constructor
  · rintro ⟨hshort, hstarts⟩
    exact ⟨hstarts, fun heq => absurd (congrArg List.length heq) hshort.ne⟩
  · rintro ⟨hstarts, hne⟩
    exact ⟨lt_of_le_of_ne hstarts.length_le fun hlength => hne (hstarts.eq_of_length hlength),
      hstarts⟩

/-- A word and the rest of a candidate for it make up the candidate. -/
theorem append_rest {word : List Char} {candidate : String} (h : word <+: candidate.toList) :
    word ++ (ofCandidate word candidate).rest.toList = candidate.toList := by
  rw [ofCandidate, String.toList_ofList]
  exact List.prefix_iff_eq_append.1 h

theorem extensions_eq (word : List Char) :
    extensions word = candidates.filter fun candidate =>
      word <+: candidate.toList ∧ word ≠ candidate.toList := by
  refine List.filter_congr fun candidate _ => ?_
  rw [Bool.eq_iff_iff, extends?_iff, decide_eq_true_iff]

theorem map_word_ofCandidate (word : List Char) (names : List String) :
    (names.map (ofCandidate word)).map Completion.word = names := by
  rw [List.map_map]
  exact List.map_id names

/-! ## Completions -/

section Place

variable {line : String} {before after : List Char} (h : line.toList = before ++ after)

include h

theorem complete?_eq :
    complete? line (byteSize before)
      = (lastWord? before).map fun word =>
          if word = [] then [] else (extensions word).map (ofCandidate word) := by
  rw [complete?, h, splitAtByte?_byteSize, Option.map_eq_bind]
  rfl

/-- At the end of a line the hint is the rest of the first candidate for the last word, unless that
is too short. -/
theorem hint?_eq (hend : after = []) :
    hint? false line (byteSize before)
      = (lastWord? before).map fun word =>
          if byteSize word < 2 then none
          else ((extensions word).head?.map (ofCandidate word)).map rest := by
  subst hend
  have hcut : splitAtByte? (byteSize before) before = some (before, []) := by
    simpa using splitAtByte?_byteSize before []
  rw [hint?, h, List.append_nil, if_neg (lt_irrefl _), hcut, Option.map_eq_bind]
  rfl

/-- There are no completions at a place between two characters, and no hint at the end of a line, if
and only if the last character before it that is no part of a word is longer than a byte. Otherwise
the completions of the word after that character are, in their order, the candidates that are longer
than the word and start with it, each with the rest that is missing, and none for the empty word;
and the hint at the end of a line is the rest of the first of them if the word has at least two
bytes. -/
theorem complete?_exact :
    (complete? line (byteSize before) = none
        ↔ ∃ c ∈ separator? before, 1 < c.utf8Size)
      ∧ (after = [] → (hint? false line (byteSize before) = none
        ↔ ∃ c ∈ separator? before, 1 < c.utf8Size))
      ∧ ∀ pairs, complete? line (byteSize before) = some pairs →
        let word := trailingWord before
        (word = [] → pairs = [])
          ∧ (word ≠ [] →
            pairs.map Completion.word = candidates.filter (fun candidate =>
              word <+: candidate.toList ∧ word ≠ candidate.toList)
            ∧ ∀ pair ∈ pairs, word ++ pair.rest.toList = pair.word.toList)
          ∧ (after = [] → hint? false line (byteSize before)
            = some (if 2 ≤ byteSize word then pairs.head?.map rest else none)) := by
  have hcomplete := complete?_eq h
  have hhint := hint?_eq h
  rw [lastWord?_eq] at hcomplete hhint
  by_cases hlong : ∃ c ∈ separator? before, 1 < c.utf8Size
  · rw [if_pos hlong, Option.map_none] at hcomplete hhint
    refine ⟨iff_of_true hcomplete hlong, fun hend => iff_of_true (hhint hend) hlong, ?_⟩
    intro pairs hpairs
    simp [hcomplete] at hpairs
  · rw [if_neg hlong, Option.map_some] at hcomplete hhint
    refine ⟨iff_of_false (by simp [hcomplete]) hlong,
      fun hend => iff_of_false (by simp [hhint hend]) hlong, ?_⟩
    intro pairs hpairs word
    obtain rfl := Option.some.inj (hcomplete.symm.trans hpairs)
    refine ⟨fun hnil => if_pos hnil, fun hne => ?_, fun hend => ?_⟩
    · rw [if_neg hne, map_word_ofCandidate, List.forall_mem_map]
      refine ⟨extensions_eq word, fun candidate hcandidate => ?_⟩
      exact append_rest (extends?_iff.1 (List.mem_filter.1 hcandidate).2).1
    · rw [hhint hend]
      by_cases hshort : byteSize word < 2
      · rw [if_pos hshort, if_neg hshort.not_ge]
      · have hne : word ≠ [] := by
          intro hnil
          exact hshort (by simp [hnil])
        rw [if_neg hshort, if_pos (not_lt.1 hshort), if_neg hne, List.head?_map]

end Place

/-- After a bracket, two letters that one keyword starts with. -/
theorem complete?_exact_while :
    let before := ['f', '(', 'w', 'h']
    "f(wh".toList = before ++ [] ∧ separator? before = some '(' ∧ trailingWord before = ['w', 'h']
      ∧ complete? "f(wh" 4 = some [⟨"while", "ile"⟩]
      ∧ ['w', 'h'] ++ "ile".toList = "while".toList ∧ hint? false "f(wh" 4 = some (some "ile") := by
  intro before
  have hline : "f(wh".toList = before ++ [] := rfl
  have hseparator : separator? before = some '(' := by decide
  have hword : trailingWord before = ['w', 'h'] := by decide
  have hpairs : complete? "f(wh" 4 = some [⟨"while", "ile"⟩] := by decide
  obtain ⟨-, -, hexact⟩ := complete?_exact hline
  obtain ⟨-, hall, hhint⟩ := hexact _ hpairs
  obtain ⟨-, hrest⟩ := hall (by simp [hword])
  refine ⟨hline, hseparator, hword, hpairs, ?_, ?_⟩
  · have hwhile := hrest ⟨"while", "ile"⟩ (List.mem_singleton_self _)
    rwa [hword] at hwhile
  · rw [hword] at hhint
    exact hhint rfl

end Completion

end ScriptSteps
