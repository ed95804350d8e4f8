import Mathlib
import ScriptSteps.Proofs.Report.Color
import ScriptSteps.Proofs.Token.Tiling
import ScriptSteps.Session.Highlight

/-!
# Highlighted lines show the line

A highlighted line is put together again from its tokens and from what is between them. The tokens
tile the line, so every piece is cut out between two characters, and each character of the line is
in one piece only. A piece is changed by nothing but escape sequences around it; so the line is what
is left without them, even where it is no part of a program.

## Main statements

* `TokenKind.shows_paint`: the painted text of a token shows the text
* `Tiles.shows_highlightTokens?`: the painted pieces of a text show the text
* `highlight?_shows`: a highlighted line shows the line
-/

namespace ScriptSteps

open Text

/-! ## Pieces -/

/-- The painted text of a token shows the text, also where one color stands inside another style. -/
theorem TokenKind.shows_paint (kind : TokenKind) {text : String} (h : '\x1b' ∉ text.toList) :
    Shows (kind.paint text).toList text.toList := by
  have hplain : Shows text.toList text.toList := shows_self h
  cases kind with
  | identifier name => exact hplain
  | number value => exact shows_colored .yellow hplain
  | string value => exact shows_colored .green hplain
  | keyword word =>
    rw [paint]
    split_ifs
    · exact shows_colored .blue hplain
    · exact Style.bold.shows_paint (shows_colored .magenta hplain)
  | punctuator sign =>
    rw [paint]
    split_ifs
    · exact hplain
    · exact shows_colored .yellow hplain
    · exact shows_colored .cyan hplain
  | endOfInput => exact shows_colored .cyan hplain
  | invalid => exact Style.underlined.shows_paint (shows_colored .red hplain)

theorem shows_paintGap {gap : List Char} (h : '\x1b' ∉ gap) :
    Shows (paintGap gap).toList gap := by
  have hplain : Shows (String.ofList gap).toList gap := by
    rw [String.toList_ofList]
    exact shows_self h
  unfold paintGap
  split_ifs
  · exact hplain
  · exact Style.dimmed.shows_paint hplain

/-! ## Lines -/

/-- The pieces of a text that tokens tile can be cut out one after another, and painted they show
the text. -/
theorem Tiles.shows_highlightTokens? {offset : ℕ} {cs : List Char} {ts : List Token}
    (h : Tiles offset cs ts) (hescape : '\x1b' ∉ cs) :
    ∃ shown, highlightTokens? offset cs ts = some shown ∧ Shows shown.toList cs := by
  induction h with
  | gap hgap => exact ⟨_, rfl, shows_paintGap hescape⟩
  | @token offset gap text cs t ts hgap htext hstarts hstart hstop hcs ih =>
    simp only [List.mem_append, not_or] at hescape
    obtain ⟨hgapEscape, htextEscape, hrestEscape⟩ := hescape
    obtain ⟨later, hlater, hshows⟩ := ih hrestEscape
    have hordered : ¬(t.start < offset ∨ t.stop < t.start) := by omega
    have hgapSize : t.start - offset = byteSize gap := by omega
    have htextSize : t.stop - t.start = byteSize text := by omega
    have htoken : Shows (t.kind.paint (String.ofList text)).toList (String.ofList text).toList :=
      t.kind.shows_paint (by simpa using htextEscape)
    rw [String.toList_ofList] at htoken
    refine ⟨paintGap gap ++ t.kind.paint (String.ofList text) ++ later, ?_, ?_⟩
    · rw [highlightTokens?, if_neg hordered, hgapSize, htextSize, splitAtByte?_byteSize]
      simp [hlater]
    · rw [String.toList_append, String.toList_append, ← List.append_assoc]
      exact ((shows_paintGap hgapEscape).append htoken).append hshows

/-- A line can always be highlighted, and without its escape sequences it is the line again,
whatever it holds, unless it has escape characters of its own. -/
theorem highlight?_shows (color : Bool) {line : String} (h : '\x1b' ∉ line.toList) :
    ∃ shown, highlight? color line = some shown
      ∧ withoutEscapes false shown.toList = line.toList := by
  suffices hshown : ∃ shown, highlight? color line = some shown ∧ Shows shown.toList line.toList by
    obtain ⟨shown, hhighlight, hshows⟩ := hshown
    exact ⟨shown, hhighlight, hshows.withoutEscapes_eq⟩
  unfold highlight?
  split_ifs
  · exact ⟨line, rfl, shows_self h⟩
  · split
    · exact ⟨_, rfl, shows_colored .magenta (shows_self h)⟩
    · exact (tiles_scanFrom .start line.toList).shows_highlightTokens? h

/-- A reserved word, a bracket, a sign that is no token, and a comment that is left open. -/
theorem highlight?_shows_comment :
    let shown := "\x1b[1m\x1b[35mif\x1b[39m\x1b[0m\x1b[33m(\x1b[39m\x1b[4m\x1b[31m#\x1b[39m\x1b[0m"
      ++ "\x1b[2m /* é;\x1b[0m"
    '\x1b' ∉ "if(# /* é;".toList ∧ highlight? true "if(# /* é;" = some shown
      ∧ withoutEscapes false shown.toList = "if(# /* é;".toList := by
  intro shown
  have hescape : '\x1b' ∉ "if(# /* é;".toList := by decide
  have hhighlight : highlight? true "if(# /* é;" = some shown := by decide +kernel
  obtain ⟨shown', hshown', hshows⟩ := highlight?_shows true hescape
  obtain rfl : shown = shown' := Option.some.inj (hhighlight.symm.trans hshown')
  exact ⟨hescape, hhighlight, hshows⟩

end ScriptSteps
