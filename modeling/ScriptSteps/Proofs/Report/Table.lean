import Mathlib
import ScriptSteps.Proofs.Step.Texts
import ScriptSteps.Proofs.Text.Trimmed
import ScriptSteps.Report

/-!
# Reading a table back

A table without styles says all that its model says. The dashes under the headers show how wide the
columns are, every step has a line of its own, and its cells are what stands in the columns of that
line. Blanks are dropped at the end of a line and at the end of the table, but only after the last
cell that shows something.

## Main definitions

* `Step.FitsCells`: the steps whose texts have no line break in them and no blank at their end
* `ruleWidths`, `cutCells`: the widths that a line of dashes shows, and the cells of a line
* `readTable?`: the model that a table shows

## Main statements

* `toList_renderTable`: the lines of a table
* `cutCells_cellLine`: cutting a line gives its cells
* `renderTable_faithful`: tables are read back, so different models have different tables
-/

namespace ScriptSteps

open Text

/-! ## Cells -/

/-- A text that fits into a cell: on one line, and not with a blank at its end. -/
def Text.FitsCell (text : String) : Prop := '\n' ∉ text.toList ∧ Trimmed text.toList

instance : DecidablePred FitsCell := fun text =>
  inferInstanceAs (Decidable ('\n' ∉ text.toList ∧ Trimmed text.toList))

/-- The steps whose texts fit into cells. -/
def Step.FitsCells (s : Step) : Prop := ∀ text ∈ s.texts, FitsCell text

theorem Text.Tidy.fitsCell {text : String} (h : Tidy text) : FitsCell text := by
  constructor
  · intro hmem
    exact absurd (h.inline _ hmem) (by decide)
  · obtain ⟨c, hc, hblank⟩ := h.ends
    intro d hd
    obtain rfl := Option.mem_unique hc hd
    exact hblank

theorem Step.Proper.fitsCells {s : Step} (h : s.Proper) : s.FitsCells := by
  intro text htext
  rcases h.texts text htext with rfl | htidy
  · decide
  · exact htidy.fitsCell

theorem StepKind.tidy_name (kind : StepKind) : Tidy kind.name := by
  cases kind <;> exact tidy_of_isName (by decide)

/-- All cells of a step fit if its texts do. -/
theorem Step.FitsCells.cells {s : Step} (h : s.FitsCells) : ∀ cell ∈ s.cells, FitsCell cell := by
  rw [Step.cells, List.forall_mem_cons, List.forall_mem_cons]
  exact ⟨(tidy_toString s.line).fitsCell, s.kind.tidy_name.fitsCell, h⟩

/-! ## Columns -/

/-- A row of cells none of which is wider than its column. -/
def RowFits (widths : List ℕ) (cells : List String) : Prop :=
  List.Forall₂ (fun width cell => cell.length ≤ width) widths cells

section Columns

variable {widths others : List ℕ} {cells : List String}

theorem RowFits.widen (h : RowFits widths cells) (hlength : widths.length = others.length) :
    RowFits (widths.zipWith max others) cells := by
  rw [RowFits, List.forall₂_iff_get] at h ⊢
  obtain ⟨heq, hle⟩ := h
  refine ⟨by simp [← hlength, heq], fun i hi hi' => ?_⟩
  have := hle i (by omega) hi'
  simp at this ⊢
  omega

theorem rowFits_widen (hlength : widths.length = cells.length) :
    RowFits (widths.zipWith max (cells.map String.length)) cells := by
  rw [RowFits, List.forall₂_iff_get]
  refine ⟨by simp [hlength], fun i hi hi' => ?_⟩
  simp

theorem RowFits.pos (h : RowFits widths cells) (hne : ∀ cell ∈ cells, cell ≠ "") :
    ∀ width ∈ widths, 0 < width := by
  induction h with
  | nil => simp
  | @cons width cell widths cells hle hrest ih =>
    simp only [List.forall_mem_cons] at hne ⊢
    have hcell : cell.length ≠ 0 := by simpa using hne.1
    exact ⟨by omega, ih hne.2⟩

end Columns

theorem columnWidths_concat (m : Model) (s : Step) :
    columnWidths (m ++ [s])
      = (columnWidths m).zipWith max (s.cells.map String.length) := by
  rw [columnWidths, List.foldl_append]
  rfl

/-- There are five columns, and each is as wide as its header and as its cell in every row. -/
theorem rowFits_columnWidths (m : Model) :
    (columnWidths m).length = 5 ∧ RowFits (columnWidths m) tableHeaders
      ∧ ∀ s ∈ m, RowFits (columnWidths m) s.cells := by
  induction m using List.reverseRecOn with
  | nil => exact ⟨rfl, by simp [RowFits, columnWidths, tableHeaders], by simp⟩
  | append_singleton m s ih =>
    obtain ⟨hlength, hheaders, hrows⟩ := ih
    have hcells : (columnWidths m).length = (s.cells.map String.length).length := hlength
    rw [columnWidths_concat]
    refine ⟨by simp [hlength, Step.cells], hheaders.widen hcells, ?_⟩
    simp only [List.forall_mem_append, List.forall_mem_singleton]
    exact ⟨fun t ht => (hrows t ht).widen hcells, rowFits_widen hlength⟩

/-! ## Lines -/

/-- The characters of a cell with spaces after them up to a width. -/
def padded (width : ℕ) (cell : String) : List Char :=
  cell.toList ++ List.replicate (width - cell.length) ' '

theorem length_padded {width : ℕ} {cell : String} (h : cell.length ≤ width) :
    (padded width cell).length = width := by
  rw [padded, List.length_append, List.length_replicate, String.length_toList]
  omega

theorem dropBlanksEnd_padded {cell : String} (h : Trimmed cell.toList) (width : ℕ) :
    dropBlanksEnd (padded width cell) = cell.toList := by
  refine (dropBlanksEnd_append (fun c hc => ?_) _).trans (trimmed_iff.1 h)
  rw [List.eq_of_mem_replicate hc]
  decide

/-- The lines of a table show something, and none of them holds a line break or ends in a blank. -/
structure TableLine (cs : List Char) : Prop where
  newline : '\n' ∉ cs
  trimmed : Trimmed cs
  ne_nil : cs ≠ []

/-- The line of a row of cells. -/
def cellLine (widths : List ℕ) (cells : List String) : List Char :=
  dropBlanksEnd ([' ', ' '].intercalate (widths.zipWith padded cells))

/-- The cells of a line, cut at the widths of the columns, without the blanks after them. -/
def cutCells : List ℕ → List Char → List (List Char)
  | [], _ => []
  | width :: widths, cs =>
    dropBlanksEnd (cs.take width) :: cutCells widths (cs.drop (width + 2))

/-- What was dropped at the end of a line is not missed. -/
theorem cutCells_append {blanks : List Char} (h : ∀ c ∈ blanks, isBlank c = true)
    (widths : List ℕ) (cs : List Char) : cutCells widths (cs ++ blanks) = cutCells widths cs := by
  induction widths generalizing cs blanks with
  | nil => rfl
  | cons width widths ih =>
    rw [cutCells, cutCells, List.take_append, List.drop_append,
      dropBlanksEnd_append fun c hc => h c (List.mem_of_mem_take hc),
      ih fun c hc => h c (List.mem_of_mem_drop hc)]

theorem cutCells_intercalate {widths : List ℕ} {cells : List String} (h : RowFits widths cells)
    (htrimmed : ∀ cell ∈ cells, Trimmed cell.toList) :
    cutCells widths ([' ', ' '].intercalate (widths.zipWith padded cells))
      = cells.map String.toList := by
  induction h with
  | nil => rfl
  | @cons width cell widths cells hle hrest ih =>
    simp only [List.forall_mem_cons] at htrimmed
    have hlength := length_padded hle
    have hcell := dropBlanksEnd_padded htrimmed.1 width
    rw [List.zipWith_cons_cons, cutCells, List.map_cons, ← ih htrimmed.2]
    cases hrest with
    | nil => simp [cutCells, List.take_of_length_le hlength.le, hcell]
    | cons =>
      have hgap : (padded width cell ++ [' ', ' ']).length = width + 2 := by simp [hlength]
      rw [List.zipWith_cons_cons, List.intercalate_cons_cons, List.drop_left' hgap,
        List.append_assoc, List.take_left' hlength, hcell]

/-- Cutting a line at the widths of the columns gives its cells. -/
theorem cutCells_cellLine {widths : List ℕ} {cells : List String} (h : RowFits widths cells)
    (htrimmed : ∀ cell ∈ cells, Trimmed cell.toList) :
    cutCells widths (cellLine widths cells) = cells.map String.toList := by
  obtain ⟨blanks, hline, hblanks⟩ :=
    exists_dropBlanksEnd ([' ', ' '].intercalate (widths.zipWith padded cells))
  rw [← cutCells_intercalate h htrimmed, hline, cutCells_append hblanks, cellLine]

theorem newline_not_mem_cellLine (widths : List ℕ) {cells : List String}
    (h : ∀ cell ∈ cells, '\n' ∉ cell.toList) : '\n' ∉ cellLine widths cells := by
  have hpadded : ∀ text ∈ widths.zipWith padded cells, '\n' ∉ text := by
    rw [← List.map_uncurry_zip_eq_zipWith, List.forall_mem_map]
    rintro ⟨width, cell⟩ hmem
    have hcell := h cell (List.of_mem_zip hmem).2
    simpa [padded, List.mem_replicate] using hcell
  have hrow : '\n' ∉ [' ', ' '].intercalate (widths.zipWith padded cells) :=
    not_mem_intercalate (by decide) hpadded
  obtain ⟨blanks, hline, -⟩ :=
    exists_dropBlanksEnd ([' ', ' '].intercalate (widths.zipWith padded cells))
  rw [hline] at hrow
  exact fun hmem => hrow (List.mem_append_left _ hmem)

/-- The line of a row whose first cell shows something. -/
theorem RowFits.tableLine {widths : List ℕ} {cells : List String} (h : RowFits widths cells)
    (hlines : ∀ cell ∈ cells, '\n' ∉ cell.toList) (hfirst : ∃ cell ∈ cells.head?, Tidy cell) :
    TableLine (cellLine widths cells) := by
  refine ⟨newline_not_mem_cellLine widths hlines, trimmed_dropBlanksEnd _, fun hline => ?_⟩
  obtain ⟨cell, hcell, htidy⟩ := hfirst
  obtain ⟨c, hc, hblank⟩ := htidy.ends
  obtain ⟨blanks, hrow, hblanks⟩ :=
    exists_dropBlanksEnd ([' ', ' '].intercalate (widths.zipWith padded cells))
  have hall : [' ', ' '].intercalate (widths.zipWith padded cells) = blanks := by
    simpa [show dropBlanksEnd _ = _ from hline] using hrow
  cases h with
  | nil => simp at hcell
  | @cons width first widths cells hle hrest =>
    obtain rfl : first = cell := by simpa using hcell
    have hmem : c ∈ blanks := by
      rw [← hall]
      cases hrest <;> simp [padded, List.intercalate_cons_cons, List.mem_of_getLast? hc]
    exact absurd (hblanks c hmem) (by simp [hblank])

/-- The widths that a line of dashes shows. -/
def ruleWidths (rule : List Char) : List ℕ :=
  ((rule.splitOn ' ').map List.length).filter (0 < ·)

/-- The line of dashes of columns. -/
def rule (widths : List ℕ) : List Char :=
  [' ', ' '].intercalate (widths.map fun width => List.replicate width '-')

theorem splitOn_append_space {word : List Char} (h : ' ' ∉ word) (rest : List Char) :
    (word ++ ' ' :: rest).splitOn ' ' = word :: rest.splitOn ' ' := by
  rw [List.splitOn_eq_splitOnP, List.splitOn_eq_splitOnP]
  refine List.splitOnP_append_cons_of_forall_mem (fun c hc => ?_) ' ' (by decide) rest
  rw [beq_eq_false_iff_ne]
  rintro rfl
  exact h hc

/-- The dashes show the widths of the columns. -/
theorem ruleWidths_rule {widths : List ℕ} (h : ∀ width ∈ widths, 0 < width) :
    ruleWidths (rule widths) = widths := by
  have hspace : ∀ width, ' ' ∉ List.replicate width '-' := by simp [List.mem_replicate]
  induction widths with
  | nil => rfl
  | cons width widths ih =>
    simp only [List.forall_mem_cons] at h
    cases widths with
    | nil =>
      have hsplit : ([' '].intercalate [List.replicate width '-']).splitOn ' '
          = [List.replicate width '-'] := List.splitOn_intercalate ' ' (by simp) (by simp)
      rw [List.intercalate_singleton] at hsplit
      simp [ruleWidths, rule, hsplit, h.1]
    | cons second widths =>
      have hrule : rule (width :: second :: widths)
          = List.replicate width '-' ++ ' ' :: ([] ++ ' ' :: rule (second :: widths)) := by
        simp [rule, List.intercalate_cons_cons]
      have hrest := ih h.2
      unfold ruleWidths at hrest ⊢
      rw [hrule, splitOn_append_space (hspace width), splitOn_append_space (by simp)]
      simp [h.1, hrest]

theorem tableLine_rule {widths : List ℕ} (hne : widths ≠ []) (h : ∀ width ∈ widths, 0 < width) :
    TableLine (rule widths) := by
  have hdashes : ∀ text ∈ widths.map fun width => List.replicate width '-',
      Trimmed text ∧ text ≠ [] := by
    rw [List.forall_mem_map]
    intro width hwidth
    have hpos := h width hwidth
    refine ⟨fun c hc => ?_, by simpa using hpos.ne'⟩
    rw [List.eq_of_mem_replicate (List.mem_of_getLast? hc)]
    decide
  obtain ⟨htrimmed, hnil⟩ := trimmed_intercalate [' ', ' '] hdashes
  refine ⟨not_mem_intercalate (by decide) ?_, htrimmed, hnil (by simpa using hne)⟩
  simp [List.mem_replicate]

/-! ## Tables -/

/-- The lines of a table: headers, dashes, and one line for each step. -/
def tableRows (m : Model) : List (List Char) :=
  cellLine (columnWidths m) tableHeaders :: rule (columnWidths m)
    :: m.map fun s => cellLine (columnWidths m) s.cells

/-- The step with the given cells. -/
def Step.ofCells? : List (List Char) → Option Step
  | [line, kind, name, condition, value] =>
    (StepKind.ofName? (String.ofList kind)).map fun kind =>
      ⟨Nat.ofDigitChars 10 line 0, kind, String.ofList name, String.ofList condition,
        String.ofList value⟩
  | _ => none

/-- The model that a table shows. -/
def readTable? (table : String) : Option Model :=
  match table.toList.splitOn '\n' with
  | _ :: rule :: rows => rows.mapM fun row => Step.ofCells? (cutCells (ruleWidths rule) row)
  | _ => some []

theorem Step.ofCells?_cells (s : Step) : ofCells? (s.cells.map String.toList) = some s := by
  obtain ⟨line, kind, name, condition, value⟩ := s
  simp [ofCells?, cells, Nat.toString_eq_repr, Nat.toList_repr, Nat.ofDigitChars_ten_toDigits]

theorem toList_padTo (width : ℕ) (cell : String) :
    (padTo width cell).toList = padded width cell := by
  simp [padTo, padded]

theorem toList_tableLine (cells : List String) :
    (tableLine cells).toList
      = dropBlanksEnd ([' ', ' '].intercalate (cells.map String.toList)) ++ ['\n'] := by
  simp [tableLine, trimEnd, String.toList_intercalate]

/-- The cells of the lines of a table, each in its style where styles are wanted. -/
def tableCells (color : Bool) (m : Model) : List (List String) :=
  ((columnWidths m).zipWith padTo tableHeaders).map (Style.boldWhite.paintIf color)
    :: ((columnWidths m).map fun width =>
      Style.dimmed.paintIf color (String.ofList (List.replicate width '-')))
    :: m.map fun s => ((columnWidths m).zipWith padTo s.cells).zipWith
      (fun cell style => style.paintIf color cell) s.styles

/-- The line of cells that are already as wide as their columns. -/
def rowLine (cells : List String) : List Char :=
  dropBlanksEnd ([' ', ' '].intercalate (cells.map String.toList))

/-- With styles or without, a table is its lines with line breaks between them. -/
theorem toList_renderTable_rowLine {color : Bool} {m : Model} (hne : m ≠ [])
    (h : ∀ cells ∈ tableCells color m, rowLine cells ≠ []) :
    (renderTable color m).toList = ['\n'].intercalate ((tableCells color m).map rowLine) := by
  have hlines : (headerLine color (columnWidths m) ++ ruleLine color (columnWidths m)
      ++ String.join (m.map (stepLine color (columnWidths m)))).toList
        = ((tableCells color m).map rowLine).flatMap (· ++ ['\n']) := by
    simp [tableCells, headerLine, ruleLine, stepLine, toList_tableLine, rowLine,
      List.flatMap_map]
  rw [renderTable, if_neg (by simpa using hne), trimEnd, String.toList_ofList, hlines]
  refine dropBlanksEnd_unlines (by simp [tableCells]) ?_
  rw [List.forall_mem_map]
  exact fun cells hcells => ⟨trimmed_dropBlanksEnd _, h cells hcells⟩

/-- The lines of a table without styles. -/
theorem map_rowLine_tableCells (m : Model) (h : TableLine (rule (columnWidths m))) :
    (tableCells false m).map rowLine = tableRows m := by
  have hlength := (rowFits_columnWidths m).1
  have hpadded (cells : List String) :
      rowLine ((columnWidths m).zipWith padTo cells) = cellLine (columnWidths m) cells := by
    simp only [rowLine, cellLine, List.map_zipWith, toList_padTo]
  have hheader : ((columnWidths m).zipWith padTo tableHeaders).map
      (Style.boldWhite.paintIf false) = (columnWidths m).zipWith padTo tableHeaders := by
    simp [Style.paintIf]
  have hrule : rowLine ((columnWidths m).map fun width =>
      Style.dimmed.paintIf false (String.ofList (List.replicate width '-')))
        = rule (columnWidths m) := by
    simpa [rowLine, rule, Style.paintIf, Function.comp_def] using trimmed_iff.1 h.trimmed
  have hstep (s : Step) : ((columnWidths m).zipWith padTo s.cells).zipWith
      (fun cell style => Style.paintIf style false cell) s.styles
        = (columnWidths m).zipWith padTo s.cells := by
    refine List.ext_getElem (by simp [hlength, Step.cells, Step.styles]) fun i _ _ => ?_
    simp [Style.paintIf]
  simp only [tableCells, tableRows, List.map_cons, List.map_map, hheader, hrule, hpadded,
    Function.comp_def, hstep]

theorem fitsCell_tableHeaders : ∀ cell ∈ tableHeaders, FitsCell cell := by
  have hname : (tableHeaders.all fun cell => isName cell) = true := by decide
  rw [List.all_eq_true] at hname
  exact fun cell hcell => (tidy_of_isName (hname cell hcell)).fitsCell

theorem pos_of_mem_columnWidths (m : Model) : ∀ width ∈ columnWidths m, 0 < width :=
  (rowFits_columnWidths m).2.1.pos (by decide)

theorem tableLine_columnWidths (m : Model) : TableLine (rule (columnWidths m)) := by
  have hlength := (rowFits_columnWidths m).1
  exact tableLine_rule (List.ne_nil_of_length_pos (by omega)) (pos_of_mem_columnWidths m)

section Models

variable {m : Model}

theorem forall_mem_tableRows (h : ∀ s ∈ m, ∀ cell ∈ s.cells, '\n' ∉ cell.toList) :
    ∀ row ∈ tableRows m, TableLine row := by
  obtain ⟨-, hheaders, hrows⟩ := rowFits_columnWidths m
  rw [tableRows, List.forall_mem_cons, List.forall_mem_cons, List.forall_mem_map]
  refine ⟨?_, tableLine_columnWidths m, fun s hs => ?_⟩
  · exact hheaders.tableLine (fun cell hcell => (fitsCell_tableHeaders cell hcell).1)
      ⟨"Line", rfl, tidy_of_isName (by decide)⟩
  · exact (hrows s hs).tableLine (h s hs) ⟨toString s.line, rfl, tidy_toString s.line⟩

/-- The text of a table is its lines, with line breaks between them. -/
theorem toList_renderTable (h : ∀ s ∈ m, ∀ cell ∈ s.cells, '\n' ∉ cell.toList) (hne : m ≠ []) :
    (renderTable false m).toList = ['\n'].intercalate (tableRows m) := by
  have hrows := map_rowLine_tableCells m (tableLine_columnWidths m)
  rw [← hrows]
  refine toList_renderTable_rowLine hne fun cells hcells => ?_
  exact (forall_mem_tableRows h _ (hrows ▸ List.mem_map_of_mem hcells)).ne_nil

theorem splitOn_renderTable (h : ∀ s ∈ m, ∀ cell ∈ s.cells, '\n' ∉ cell.toList) (hne : m ≠ []) :
    (renderTable false m).toList.splitOn '\n' = tableRows m := by
  rw [toList_renderTable h hne]
  exact List.splitOn_intercalate '\n' (fun row hrow => (forall_mem_tableRows h row hrow).newline)
    (by simp [tableRows])

variable (h : ∀ s ∈ m, s.FitsCells)

include h

theorem newline_not_mem_cells : ∀ s ∈ m, ∀ cell ∈ s.cells, '\n' ∉ cell.toList :=
  fun s hs cell hcell => ((h s hs).cells cell hcell).1

/-- The cells of the lines under the dashes are those of the steps. -/
theorem map_cutCells_rows :
    (m.map fun s => cellLine (columnWidths m) s.cells).map (cutCells (columnWidths m))
      = m.map fun s => s.cells.map String.toList := by
  obtain ⟨-, -, hrows⟩ := rowFits_columnWidths m
  rw [List.map_map]
  refine List.map_congr_left fun s hs => ?_
  exact cutCells_cellLine (hrows s hs) fun cell hcell => ((h s hs).cells cell hcell).2

theorem readTable?_renderTable : readTable? (renderTable false m) = some m := by
  by_cases hne : m = []
  · subst hne
    cbv
  · have hcells : Step.ofCells? ∘ (fun s => s.cells.map String.toList) = pure :=
      funext Step.ofCells?_cells
    rw [readTable?, splitOn_renderTable (newline_not_mem_cells h) hne]
    simp only [tableRows, ruleWidths_rule (pos_of_mem_columnWidths m)]
    -- Each step is read off the cells of its line, so it is enough to know these cells.
    calc (m.map fun s => cellLine (columnWidths m) s.cells).mapM
          (Step.ofCells? ∘ cutCells (columnWidths m))
        = ((m.map fun s => cellLine (columnWidths m) s.cells).map
            (cutCells (columnWidths m))).mapM Step.ofCells? := List.mapM_map.symm
      _ = (m.map fun s => s.cells.map String.toList).mapM Step.ofCells? := by
        rw [map_cutCells_rows h]
      _ = m.mapM pure := by rw [List.mapM_map, hcells]
      _ = some (m.map id) := List.mapM_pure
      _ = some m := by rw [List.map_id]

end Models

/-- A table without styles loses nothing. -/
theorem renderTable_faithful :
    (∀ m m' : Model, (∀ s ∈ m, s.FitsCells) → (∀ s ∈ m', s.FitsCells) →
      (Printer.mk .table false).model m = (Printer.mk .table false).model m' → m = m')
    ∧ (∀ m : Model, (∀ s ∈ m, s.FitsCells) →
      readTable? ((Printer.mk .table false).model m) = some m
      ∧ (m ≠ [] → ∃ header rule rows,
        ((Printer.mk .table false).model m).toList.splitOn '\n' = header :: rule :: rows
          ∧ ruleWidths rule = columnWidths m
          ∧ rows.map (cutCells (ruleWidths rule)) = m.map fun s => s.cells.map String.toList))
    ∧ ∀ source m, analyze source = .ok m → ∀ s ∈ m, s.FitsCells := by
  refine ⟨fun m m' h h' heq => ?_, fun m h => ⟨readTable?_renderTable h, fun hne => ?_⟩,
    fun source m hm s hs => (proper_of_analyze hm s hs).fitsCells⟩
  · have hread := readTable?_renderTable h
    rw [show renderTable false m = renderTable false m' from heq,
      readTable?_renderTable h'] at hread
    exact (Option.some.inj hread).symm
  · have hwidths := ruleWidths_rule (pos_of_mem_columnWidths m)
    refine ⟨_, _, _, splitOn_renderTable (newline_not_mem_cells h) hne, hwidths, ?_⟩
    rw [hwidths]
    exact map_cutCells_rows h

/-- Two steps whose texts differ in where a cell ends and the blanks between cells begin. -/
theorem renderTable_faithful_blanks :
    let m : Model := [⟨1, .assignmentExpression, "x", "", "'a  b'"⟩]
    let m' : Model := [⟨1, .assignmentExpression, "x", "'a", "b'"⟩]
    (analyze "x='a  b'" = .ok m ∧ ∀ s ∈ m, s.FitsCells)
      ∧ (readTable? ((Printer.mk .table false).model m) = some m
        ∧ ∃ header rule rows,
          ((Printer.mk .table false).model m).toList.splitOn '\n' = header :: rule :: rows
            ∧ ruleWidths rule = columnWidths m
            ∧ rows.map (cutCells (ruleWidths rule)) = m.map fun s => s.cells.map String.toList)
      ∧ (∀ s ∈ m', s.FitsCells)
      ∧ (Printer.mk .table false).model m ≠ (Printer.mk .table false).model m' := by
  intro m m'
  have hsteps : analyze "x='a  b'" = .ok m := by decide +kernel
  obtain ⟨hinjective, hread, hanalyze⟩ := renderTable_faithful
  have hm : ∀ s ∈ m, s.FitsCells := hanalyze _ m hsteps
  have hm' : ∀ s ∈ m', s.FitsCells := by
    simp only [m', List.forall_mem_singleton, Step.FitsCells, Step.texts]
    decide
  refine ⟨⟨hsteps, hm⟩, ⟨(hread m hm).1, (hread m hm).2 (by simp [m])⟩, hm', fun heq => ?_⟩
  exact absurd (hinjective m m' hm hm' heq) (by simp [m, m'])

end ScriptSteps
