import Mathlib
import ScriptSteps.Grammar
import ScriptSteps.Proofs.Grammar.Brackets

/-!
# Finished texts

A text that is a program as it stands is never held back for a next line: the brackets in it are
balanced and its last token waits for nothing.

## Main statements

* `settled_of_parseProgram`: the tokens of a program are complete, or there are none
* `needsMoreInput_parseProgram`: a program needs no more input, and what does is no program
-/

namespace ScriptSteps

/-- The tokens of a program are complete, or there are none. -/
theorem settled_of_parseProgram {source : String} {program : List Statement}
    (h : parseProgram source = .ok program) : Settled ((scan source).1.map Token.kind) := by
  obtain ⟨rest, ⟨used, hpasses, hused⟩, hrest⟩ := (Grammar.program_settles source).of_ok h
  have hall : (Cursor.ofSource source).terminals = used := by
    rw [hpasses.terminals, hrest, List.append_nil]
  rw [← hall] at hused
  simpa [Cursor.ofSource, Function.comp_def] using hused

/-- A program needs no more input: its brackets are balanced, with no closing one out of place, and
its last token waits for nothing. So a text that needs more input, or that has a closing bracket out
of place, is no program. -/
theorem needsMoreInput_parseProgram (text : String) :
    (∀ program, parseProgram text = .ok program →
      needsMoreInput text = false
        ∧ openAfter? [] ((scan text).1.map Token.kind) = some []
        ∧ ∀ k ∈ ((scan text).1.map Token.kind).getLast?, k.awaitsOperand = false)
    ∧ (needsMoreInput text = true ∨ openAfter? [] ((scan text).1.map Token.kind) = none →
      ∃ e, parseProgram text = .error e) := by
  have hfinished : ∀ program, parseProgram text = .ok program →
      needsMoreInput text = false
        ∧ openAfter? [] ((scan text).1.map Token.kind) = some []
        ∧ ∀ k ∈ ((scan text).1.map Token.kind).getLast?, k.awaitsOperand = false := by
    intro program h
    have hsettled := settled_of_parseProgram h
    have hopen := hsettled.balanced []
    have hlast : ∀ k ∈ ((scan text).1.map Token.kind).getLast?, k.awaitsOperand = false := by
      intro k hk
      rcases hsettled with hnil | hcomplete
      · simp [hnil] at hk
      · obtain ⟨last, hlast, hwaits⟩ := hcomplete.last
        obtain rfl : last = k := Option.some.inj (hlast.symm.trans hk)
        exact hwaits
    refine ⟨?_, hopen, hlast⟩
    have hwaits : (((scan text).1.map Token.kind).getLast?.any (·.awaitsOperand)) = false := by
      rw [Option.any_eq_false]
      simpa using hlast
    rw [needsMoreInput, awaitsTokens, hopen]
    exact hwaits
  refine ⟨hfinished, fun hunfinished => ?_⟩
  cases hparse : parseProgram text with
  | error e => exact ⟨e, rfl⟩
  | ok program =>
    obtain ⟨hmore, hopen, -⟩ := hfinished program hparse
    rcases hunfinished with h | h
    · rw [hmore] at h
      cases h
    · rw [hopen] at h
      cases h

/-- A call with a trailing comma in it, the same cut short, and one with a wrong bracket. -/
theorem needsMoreInput_parseProgram_call :
    (parseProgram "f([x,])" = .ok [.expression
          (.call (.identifier ⟨"f", 1⟩) [.array [some (.identifier ⟨"x", 1⟩)]]) 1]
        ∧ needsMoreInput "f([x,])" = false
        ∧ openAfter? [] ((scan "f([x,])").1.map Token.kind) = some []
        ∧ ∀ k ∈ ((scan "f([x,])").1.map Token.kind).getLast?, k.awaitsOperand = false)
      ∧ (needsMoreInput "f([x," = true ∧ ∃ e, parseProgram "f([x," = .error e)
      ∧ openAfter? [] ((scan "f([x)").1.map Token.kind) = none
      ∧ ∃ e, parseProgram "f([x)" = .error e := by
  have hsource : Cursor.ofSource "f([x,])" = ⟨1,
      [⟨.identifier "f", 1⟩, ⟨.punctuator .leftParen, 1⟩, ⟨.punctuator .leftBracket, 1⟩,
        ⟨.identifier "x", 1⟩, ⟨.punctuator .comma, 1⟩, ⟨.punctuator .rightBracket, 1⟩,
        ⟨.punctuator .rightParen, 1⟩], 1⟩ := by
    decide +kernel
  have hprogram : parseProgram "f([x,])" = .ok [.expression
      (.call (.identifier ⟨"f", 1⟩) [.array [some (.identifier ⟨"x", 1⟩)]]) 1] := by
    rw [parseProgram, hsource]
    cbv
  have hmore : needsMoreInput "f([x," = true := by decide +kernel
  have hwrong : openAfter? [] ((scan "f([x)").1.map Token.kind) = none := by decide +kernel
  exact ⟨⟨hprogram, (needsMoreInput_parseProgram _).1 _ hprogram⟩,
    ⟨hmore, (needsMoreInput_parseProgram _).2 (.inl hmore)⟩,
    hwrong, (needsMoreInput_parseProgram _).2 (.inr hwrong)⟩

end ScriptSteps
