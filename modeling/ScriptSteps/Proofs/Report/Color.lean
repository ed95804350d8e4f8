import Mathlib
import ScriptSteps.Proofs.Report.Table

/-!
# Styles only decorate

A table with styles shows the same as the one without. Every styled cell stands between two escape
sequences, so the blanks that fill up the last column are no longer at the end of their line, and
only there do the two tables differ: with the escape sequences taken out and the blanks at the ends
of the lines dropped, one table is the other.

## Main definitions

* `Text.withoutEscapes`: a text without its escape sequences
* `Text.Shows`: a text that is another one apart from escape sequences

## Main statements

* `Style.shows_paint`, `shows_colored`: a styled text shows the text
* `renderTable_color`: a table with styles shows the one without
-/

namespace ScriptSteps

open Text

namespace Text

/-! ## Escape sequences -/

/-- A text without its escape sequences, each of them from the escape character up to the next `m`;
`inside` says whether the text starts inside one. -/
def withoutEscapes : (inside : Bool) → List Char → List Char
  | _, [] => []
  | true, c :: cs => withoutEscapes (c != 'm') cs
  | false, c :: cs => if c = '\x1b' then withoutEscapes true cs else c :: withoutEscapes false cs

/-- Without escape sequences the first text is the second, whatever follows. -/
def Shows (styled plain : List Char) : Prop :=
  ∀ rest, withoutEscapes false (styled ++ rest) = plain ++ withoutEscapes false rest

variable {styled plain styled' plain' : List Char}

attribute [local simp] withoutEscapes

theorem Shows.withoutEscapes_eq (h : Shows styled plain) : withoutEscapes false styled = plain := by
  simpa using h []

theorem shows_self {cs : List Char} (h : '\x1b' ∉ cs) : Shows cs cs := by
  intro rest
  induction cs with
  | nil => rfl
  | cons c cs ih =>
    simp only [List.mem_cons, not_or] at h
    simp [Ne.symm h.1, ih h.2]

theorem Shows.append (h : Shows styled plain) (h' : Shows styled' plain') :
    Shows (styled ++ styled') (plain ++ plain') := by
  intro rest
  rw [List.append_assoc, h, h', List.append_assoc]

theorem withoutEscapes_inside {codes : List Char} (h : 'm' ∉ codes) (rest : List Char) :
    withoutEscapes true (codes ++ 'm' :: rest) = withoutEscapes false rest := by
  induction codes with
  | nil => rfl
  | cons c codes ih =>
    simp only [List.mem_cons, not_or] at h
    have hc : (c != 'm') = true := by simpa using Ne.symm h.1
    rw [List.cons_append, withoutEscapes, hc, ih h.2]

theorem shows_escapeSequence {codes : String} (h : 'm' ∉ codes.toList) :
    Shows (escapeSequence codes).toList [] := by
  intro rest
  have hcodes : 'm' ∉ '[' :: codes.toList := by simpa using h
  simpa [escapeSequence] using withoutEscapes_inside hcodes rest

/-- Texts in a row show what they show one by one. -/
theorem Shows.intercalate {separator : List Char} (hseparator : '\x1b' ∉ separator)
    {texts shown : List (List Char)} (h : List.Forall₂ Shows texts shown) :
    Shows (separator.intercalate texts) (separator.intercalate shown) := by
  induction h with
  | nil => exact shows_self (by simp)
  | cons hfirst hrest ih =>
    cases hrest with
    | nil => simpa using hfirst
    | cons hsecond hothers =>
      simp only [List.intercalate_cons_cons] at ih ⊢
      exact (hfirst.append (shows_self hseparator)).append ih

/-- Texts in a row end as the last of them does. -/
theorem getLast?_intercalate (separator : List Char) {texts : List (List Char)} {last : List Char}
    {c : Char} (hlast : texts.getLast? = some last) (hc : last.getLast? = some c) :
    (separator.intercalate texts).getLast? = some c := by
  induction texts with
  | nil => cases hlast
  | cons first rest ih =>
    cases rest with
    | nil =>
      obtain rfl : first = last := by simpa using hlast
      simpa using hc
    | cons second rest =>
      rw [List.intercalate_cons_cons, List.getLast?_append, ih (by simpa using hlast)]
      rfl

end Text

/-! ## Styles -/

namespace Style

theorem codes_not_mem (style : Style) {c : Char} (hc : c.isDigit = false) (hsign : c ≠ ';') :
    c ∉ (String.intercalate ";" (style.codes.map toString)).toList := by
  rw [String.toList_intercalate, List.map_map]
  refine not_mem_intercalate (by simpa using hsign) ?_
  rw [List.forall_mem_map]
  intro code _ hmem
  have hdigits := (isNumeral_toDigits code).2 c (by simpa [Nat.toString_eq_repr] using hmem)
  simp [hc] at hdigits

/-- A text in a style shows what it shows without. -/
theorem shows_paint (style : Style) {text : String} {plain : List Char}
    (h : Shows text.toList plain) : Shows (style.paint text).toList plain := by
  by_cases hcodes : style.codes.isEmpty = true
  · simpa [paint, hcodes] using h
  · have hon := shows_escapeSequence (style.codes_not_mem (c := 'm') rfl (by decide))
    have hoff : Shows (escapeSequence "0").toList [] := shows_escapeSequence (by decide)
    simpa [paint, hcodes] using (hon.append h).append hoff

theorem shows_paintIf (style : Style) (color : Bool) {text : String}
    (h : '\x1b' ∉ text.toList) : Shows (style.paintIf color text).toList text.toList := by
  cases color with
  | false => exact shows_self h
  | true => exact style.shows_paint (shows_self h)

theorem newline_not_mem_paintIf (style : Style) (color : Bool) {text : String}
    (h : '\n' ∉ text.toList) : '\n' ∉ (style.paintIf color text).toList := by
  have hcodes := style.codes_not_mem (c := '\n') rfl (by decide)
  unfold paintIf paint
  split_ifs
  · exact h
  · rw [String.toList_append, String.toList_append, List.mem_append, List.mem_append]
    simp only [escapeSequence, String.toList_append, List.mem_append, hcodes, h]
    decide
  · exact h

/-- A style that is not plain is switched off at the end. -/
theorem getLast?_paint {style : Style} (h : style ≠ plain) (text : String) :
    (style.paint text).toList.getLast? = some 'm' := by
  have hcodes : style.codes ≠ [] := fun hnil => h (by cases style; simp_all [plain])
  have hoff : (escapeSequence "0").toList.getLast? = some 'm' := by decide
  rw [paint, if_neg (by simpa using hcodes), String.toList_append, List.getLast?_append, hoff]
  rfl

end Style

/-- A text in a color shows what it shows without. -/
theorem shows_colored (color : Color) {text : String} {plain : List Char}
    (h : Shows text.toList plain) : Shows (colored color text).toList plain := by
  have hon : Shows (escapeSequence (toString color.code)).toList [] :=
    shows_escapeSequence (by cases color <;> decide)
  have hoff : Shows (escapeSequence "39").toList [] := shows_escapeSequence (by decide)
  simpa [colored] using (hon.append h).append hoff

/-! ## Tables -/

section Tables

variable {m : Model}

theorem exists_columnWidths (m : Model) : ∃ a b c d e, columnWidths m = [a, b, c, d, e] := by
  have hlength := (rowFits_columnWidths m).1
  match columnWidths m, hlength with
  | [a, b, c, d, e], _ => exact ⟨a, b, c, d, e, rfl⟩

/-- The cells of a row one after another, two spaces apart. -/
def joinCells (cells : List String) : List Char := [' ', ' '].intercalate (cells.map String.toList)

/-- With styles, every line ends where the style of its last cell is switched off. -/
theorem getLast?_tableCells : ∀ cells ∈ tableCells true m,
    (joinCells cells).getLast? = some 'm' := by
  obtain ⟨a, b, c, d, e, hwidths⟩ := exists_columnWidths m
  have hends {cells : List String} {style : Style} {text : String} (hstyle : style ≠ .plain)
      (hlast : cells.getLast? = some (style.paint text)) :
      (joinCells cells).getLast? = some 'm' := by
    refine getLast?_intercalate _ ?_ (Style.getLast?_paint hstyle text)
    simp [hlast]
  rw [tableCells, hwidths, List.forall_mem_cons, List.forall_mem_cons, List.forall_mem_map]
  exact ⟨hends (by decide : Style.boldWhite ≠ .plain) rfl,
    hends (by decide : Style.dimmed ≠ .plain) rfl,
    fun s _ => hends (by decide : Style.green ≠ .plain) rfl⟩

theorem rowLine_of_getLast? {cells : List String} (h : (joinCells cells).getLast? = some 'm') :
    rowLine cells = joinCells cells := by
  refine trimmed_iff.1 fun c hc => ?_
  obtain rfl : 'm' = c := Option.some.inj (h.symm.trans hc)
  decide

/-- With styles nothing is dropped at the ends of the lines. -/
theorem toList_renderTable_true (hne : m ≠ []) :
    (renderTable true m).toList = ['\n'].intercalate ((tableCells true m).map joinCells) := by
  have hlines : (tableCells true m).map rowLine = (tableCells true m).map joinCells :=
    List.map_congr_left fun cells hcells => rowLine_of_getLast? (getLast?_tableCells cells hcells)
  rw [← hlines]
  refine toList_renderTable_rowLine hne fun cells hcells hnil => ?_
  have hlast := getLast?_tableCells cells hcells
  rw [← rowLine_of_getLast? hlast, hnil] at hlast
  cases hlast

/-- A text without line breaks and escape sequences. -/
def Text.FitsStyles (text : String) : Prop := '\n' ∉ text.toList ∧ '\x1b' ∉ text.toList

instance : DecidablePred FitsStyles := fun text =>
  inferInstanceAs (Decidable ('\n' ∉ text.toList ∧ '\x1b' ∉ text.toList))

theorem fitsStyles_tableHeaders : ∀ cell ∈ tableHeaders, FitsStyles cell := by decide

theorem fitsStyles_dashes (width : ℕ) : FitsStyles (String.ofList (List.replicate width '-')) := by
  simp [FitsStyles, List.mem_replicate]

theorem Text.FitsStyles.of_mem_padded {widths : List ℕ} {cells : List String}
    (h : ∀ cell ∈ cells, FitsStyles cell) :
    ∀ text ∈ widths.zipWith padTo cells, FitsStyles text := by
  rw [← List.map_uncurry_zip_eq_zipWith, List.forall_mem_map]
  rintro ⟨width, cell⟩ hmem
  have hcell := h cell (List.of_mem_zip hmem).2
  simpa [FitsStyles, toList_padTo, padded, List.mem_replicate] using hcell

section Fitting

variable (h : ∀ s ∈ m, ∀ cell ∈ s.cells, FitsStyles cell)

include h

theorem newline_not_mem_joinCells (color : Bool) :
    ∀ cells ∈ tableCells color m, '\n' ∉ joinCells cells := by
  have hjoin {cells : List String} (hcells : ∀ cell ∈ cells, '\n' ∉ cell.toList) :
      '\n' ∉ joinCells cells :=
    not_mem_intercalate (by decide) (List.forall_mem_map.2 hcells)
  have hpaint {text : String} (htext : FitsStyles text) (style : Style) :
      '\n' ∉ (style.paintIf color text).toList := style.newline_not_mem_paintIf color htext.1
  rw [tableCells, List.forall_mem_cons, List.forall_mem_cons, List.forall_mem_map]
  refine ⟨hjoin ?_, hjoin ?_, fun s hs => hjoin ?_⟩
  · rw [List.forall_mem_map]
    intro text htext
    exact hpaint (FitsStyles.of_mem_padded fitsStyles_tableHeaders text htext) _
  · rw [List.forall_mem_map]
    intro width _
    exact hpaint (fitsStyles_dashes width) _
  · rw [← List.map_uncurry_zip_eq_zipWith, List.forall_mem_map]
    rintro ⟨text, style⟩ hmem
    exact hpaint (FitsStyles.of_mem_padded (h s hs) text (List.of_mem_zip hmem).1) style

/-- The lines of a table with styles show those of the one without, before the blanks at the end
are dropped. -/
theorem forall₂_joinCells :
    List.Forall₂ Shows ((tableCells true m).map joinCells)
      ((tableCells false m).map joinCells) := by
  have hjoin {styled plain : List String}
      (hcells : List.Forall₂ (fun styled plain => Shows styled.toList plain.toList) styled plain) :
      Shows (joinCells styled) (joinCells plain) := by
    refine Shows.intercalate (by decide) ?_
    rwa [List.forall₂_map_left_iff, List.forall₂_map_right_iff]
  have hpaint {text : String} (htext : FitsStyles text) (style : Style) :
      Shows (style.paintIf true text).toList (style.paintIf false text).toList :=
    style.shows_paintIf true htext.2
  refine .cons (hjoin ?_) (.cons (hjoin ?_) ?_)
  · rw [List.forall₂_map_left_iff, List.forall₂_map_right_iff, List.forall₂_same]
    intro text htext
    exact hpaint (FitsStyles.of_mem_padded fitsStyles_tableHeaders text htext) _
  · rw [List.forall₂_map_left_iff, List.forall₂_map_right_iff, List.forall₂_same]
    intro width _
    exact hpaint (fitsStyles_dashes width) _
  · simp only [List.forall₂_map_left_iff, List.forall₂_map_right_iff, List.forall₂_same]
    intro s hs
    have hpadded : ∀ text ∈ (columnWidths m).zipWith padTo s.cells, FitsStyles text :=
      FitsStyles.of_mem_padded (h s hs)
    generalize (columnWidths m).zipWith padTo s.cells = texts at hpadded ⊢
    refine hjoin ?_
    rw [← List.map_uncurry_zip_eq_zipWith, ← List.map_uncurry_zip_eq_zipWith,
      List.forall₂_map_left_iff, List.forall₂_map_right_iff, List.forall₂_same]
    rintro ⟨text, style⟩ hmem
    exact hpaint (hpadded text (List.of_mem_zip hmem).1) style

end Fitting

end Tables

/-- A table with styles shows the one without: with the escape sequences taken out and the blanks at
the ends of the lines dropped, the lines of one are those of the other. -/
theorem renderTable_color {m : Model} (h : ∀ s ∈ m, ∀ cell ∈ s.cells, FitsStyles cell) :
    let styled := ((Printer.mk .table true).model m).toList
    let plain := ((Printer.mk .table false).model m).toList
    ((withoutEscapes false styled).splitOn '\n').map dropBlanksEnd = plain.splitOn '\n'
      ∧ ['\n'].intercalate (((withoutEscapes false styled).splitOn '\n').map dropBlanksEnd) = plain
      ∧ (styled.splitOn '\n').length = (plain.splitOn '\n').length := by
  intro styled plain
  suffices hlines : ((withoutEscapes false styled).splitOn '\n').map dropBlanksEnd
      = plain.splitOn '\n' ∧ (styled.splitOn '\n').length = (plain.splitOn '\n').length by
    refine ⟨hlines.1, ?_, hlines.2⟩
    rw [hlines.1]
    exact List.intercalate_splitOn '\n'
  by_cases hne : m = []
  · subst hne
    have hsingle {text : List Char} (htext : '\n' ∉ text) : text.splitOn '\n' = [text] := by
      have htexts : ∀ line ∈ [text], '\n' ∉ line := by simpa using htext
      simpa using List.splitOn_intercalate '\n' htexts (by simp)
    have hempty (color : Bool) : renderTable color [] = Style.dimmed.paintIf color "(no steps)" :=
      rfl
    have hstyled : styled = (Style.dimmed.paintIf true "(no steps)").toList :=
      congrArg String.toList (hempty true)
    have hplain : plain = "(no steps)".toList := congrArg String.toList (hempty false)
    have hfits : FitsStyles "(no steps)" := by decide
    have htrimmed : Trimmed "(no steps)".toList := by decide
    rw [hstyled, hplain, (Style.dimmed.shows_paintIf true hfits.2).withoutEscapes_eq,
      hsingle hfits.1, hsingle (Style.dimmed.newline_not_mem_paintIf true hfits.1)]
    exact ⟨congrArg (fun text => [text]) (trimmed_iff.1 htrimmed), rfl⟩
  have hsplit (color : Bool) : (['\n'].intercalate ((tableCells color m).map joinCells)).splitOn
      '\n' = (tableCells color m).map joinCells :=
    List.splitOn_intercalate '\n'
      (List.forall_mem_map.2 (newline_not_mem_joinCells h color)) (by simp [tableCells])
  have hstyled : styled = ['\n'].intercalate ((tableCells true m).map joinCells) :=
    toList_renderTable_true hne
  have hshown : withoutEscapes false styled
      = ['\n'].intercalate ((tableCells false m).map joinCells) := by
    rw [hstyled]
    exact (Shows.intercalate (by decide) (forall₂_joinCells h)).withoutEscapes_eq
  have hplain : plain.splitOn '\n' = (tableCells false m).map rowLine := by
    rw [map_rowLine_tableCells m (tableLine_columnWidths m)]
    exact splitOn_renderTable (fun s hs cell hcell => (h s hs cell hcell).1) hne
  refine ⟨?_, ?_⟩
  · rw [hshown, hsplit, hplain, List.map_map]
    rfl
  · rw [hstyled, hsplit, hplain]
    simp [tableCells]

/-- Cells with blanks at their ends, with the letter that ends an escape sequence, and without a
style. -/
theorem renderTable_color_blanks :
    let m : Model := [⟨3, .functionDeclaration, "m", "", ""⟩,
      ⟨12, .assignmentExpression, "x.m ", "", "1 m\t "⟩]
    let styled := ((Printer.mk .table true).model m).toList
    let plain := ((Printer.mk .table false).model m).toList
    (∀ s ∈ m, ∀ cell ∈ s.cells, FitsStyles cell)
      ∧ ((withoutEscapes false styled).splitOn '\n').map dropBlanksEnd = plain.splitOn '\n'
      ∧ ['\n'].intercalate (((withoutEscapes false styled).splitOn '\n').map dropBlanksEnd) = plain
      ∧ (styled.splitOn '\n').length = (plain.splitOn '\n').length := by
  intro m styled plain
  have h : ∀ s ∈ m, ∀ cell ∈ s.cells, FitsStyles cell := by
    simp only [m, List.forall_mem_cons, Step.cells]
    decide
  exact ⟨h, renderTable_color h⟩

end ScriptSteps
