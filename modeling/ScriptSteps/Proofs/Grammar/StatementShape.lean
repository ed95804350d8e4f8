import Mathlib
import ScriptSteps.Grammar.Statement
import ScriptSteps.Proofs.Grammar.ExpressionShape

/-!
# The shape of what is read as a statement

Every rule of the grammar of statements gives a well-shaped tree over any vocabulary of the tokens
that it has read, and if the tokens stand in order, so do the lines of the statements: each is that
of a token, and a statement starts on its first one.

## Main definitions

* `Grammar.ReadsAt`: what is promised of a statement that starts at a cursor
* `Grammar.ReadsAfter`: the same for a rule that is given the line of its word

## Main statements

* `Grammar.statement_from`: what the rule for statements promises
* `Grammar.program_from`: what the rule for programs promises
-/

namespace ScriptSteps.Grammar

/-! ## Parts without statements in them -/

theorem initializer_from (kind : VariableKind) (c : Cursor) :
    (initializer kind c).From c fun init rest =>
      c.Spans rest fun v => ∀ e ∈ init, e.Fits v := by
  unfold initializer
  split
  · next c₁ h₁ heat =>
    have hsign := Cursor.spans_of_eatKind? heat
    refine .relax (.resume ?_ h₁ hsign)
    refine (assignment_from c₁).map fun e rest _ he => ?_
    exact (hsign.trans he).mono fun v hv => by simpa using hv.2
  · split
    · exact Parsed.from_fault
    · exact Parsed.from_done (.refl fun _ => by simp)

/-- What is promised of the variables that start at a cursor. -/
structure ReadsDeclarators (c : Cursor) (ds : List VariableDeclarator) (rest : Cursor) : Prop where
  fits : c.Spans rest fun v => ds ≠ [] ∧ ∀ d ∈ ds, d.Fits v
  lines : c.Ordered → Ascends c.line (ds.map fun d => d.id.line) rest.previousLine

theorem declarators_from (kind : VariableKind) (c : Cursor) :
    (declarators kind c).From c (ReadsDeclarators c) := by
  rw [declarators]
  refine c.expectName_from.bindLoose fun id c₁ h₁ hid => ?_
  obtain ⟨hline, hid⟩ := hid
  refine (initializer_from kind c₁).bindLoose fun init c₂ h₂ hinit => ?_
  have hfirst := hid.trans hinit
  have hless : c₂.size < c.size := by omega
  split
  · refine Parsed.from_done ⟨hfirst.mono fun v hv => ⟨by simp, ?_⟩, fun hc => ?_⟩
    · simpa [VariableDeclarator.Fits] using hv
    · exact ⟨hline.ge, hline.le.trans (hfirst.line_le hless hc)⟩
  · next c₃ h₃ heat =>
    have hcomma := Cursor.spans_of_eatKind? heat
    refine .relax (.resume ?_ h₃ hcomma)
    refine (declarators_from kind c₃).map fun ds c₄ _ hds => ?_
    have hbefore := hfirst.trans hcomma
    refine ⟨(hbefore.trans hds.fits).mono fun v hv => ⟨by simp, ?_⟩, fun hc => ?_⟩
    · rintro d (_ | ⟨_, hd⟩)
      · exact hv.1.1
      · exact hv.2.2 d hd
    · have hc₃ := hbefore.ordered hc
      have hle : id.line ≤ c₃.line :=
        (hline.le.trans (hbefore.line_le (by omega) hc)).trans hc₃.previousLine_le
      exact ⟨hline.ge, (hds.lines hc₃).of_le hle⟩
termination_by c.size
decreasing_by all_goals omega

/-- What is promised of the parameters that are read at a cursor. -/
structure ReadsParameters (c : Cursor) (ids : List Identifier) (rest : Cursor) : Prop where
  fits : c.Spans rest fun v => ∀ id ∈ ids, id.Fits v
  lines : c.Ordered → Ascends c.previousLine (ids.map Identifier.line) rest.previousLine

theorem parameters_from (c : Cursor) : (parameters c).From c (ReadsParameters c) := by
  rw [parameters]
  split
  · next c₁ h₁ heat =>
    have hclose := Cursor.spans_of_eatKind? heat
    refine Parsed.from_ok hclose ⟨hclose.mono fun _ _ => by simp, fun hc => ?_⟩
    exact hclose.previousLine_le hc
  · refine c.expectName_from.bind fun id c₁ h₁ hid => ?_
    obtain ⟨hline, hid⟩ := hid
    have hle : c.Ordered → c.previousLine ≤ id.line := fun hc => hline ▸ hc.previousLine_le
    split
    · next c₂ h₂ heat =>
      have hcomma := Cursor.spans_of_eatKind? heat
      refine .resume ?_ h₂ hcomma
      refine (parameters_from c₂).map fun ids c₃ _ hids => ?_
      have hbefore := hid.trans hcomma
      refine ⟨(hbefore.trans hids.fits).mono fun v hv => ?_, fun hc => ⟨hle hc, ?_⟩⟩
      · simpa using ⟨hv.1.1, hv.2⟩
      · refine (hids.lines (hbefore.ordered hc)).of_le ?_
        exact hline ▸ hbefore.line_le (by omega) hc
    · refine (c₁.expect_from .rightParen).map fun _ c₂ _ hclose => ?_
      have hall := hid.trans hclose
      refine ⟨hall.mono fun v hv => by simpa using hv.1, fun hc => ⟨hle hc, ?_⟩⟩
      exact hline ▸ hall.line_le (by omega) hc
termination_by c.size
decreasing_by all_goals omega

theorem jump_from (line : ℕ) (c : Cursor) :
    (jump line c).From c fun label rest => c.Spans rest fun v => ∀ id ∈ label, id.Fits v := by
  have hend : (c.endStatement.map fun _ => (none : Option Identifier)).From c
      fun label rest => c.Spans rest fun v => ∀ id ∈ label, id.Fits v :=
    c.endStatement_from.map fun _ rest _ hrest => hrest.mono fun _ _ => by simp
  unfold jump
  split
  · next label c₁ h₁ heat =>
    obtain ⟨-, hlabel⟩ := Cursor.spans_of_eatName? heat
    split
    · refine .relax (.resumeLoose ?_ h₁ hlabel)
      refine c₁.endStatement_from.map fun _ rest _ hrest => ?_
      exact (hlabel.trans hrest).mono fun v hv => by simpa using hv.1
    · exact hend
  · exact hend

/-- An expression and the end of its statement. -/
theorem ended_from {α : Type} (c : Cursor) (f : Expression → α) :
    ((expression c).bindLoose fun e c₁ _ => c₁.endStatement.map fun _ => f e).From c
      fun value rest => ∃ e, value = f e ∧ c.Spans rest fun v => e.Fits v := by
  refine (expression_from c).bindLoose fun e c₁ _ he => ?_
  refine c₁.endStatement_from.map fun _ rest _ hrest => ?_
  exact ⟨e, rfl, (he.trans hrest).mono fun v hv => hv.1⟩

theorem returned_from (line : ℕ) (c : Cursor) :
    (returned line c).From c fun argument rest =>
      c.Spans rest fun v => ∀ e ∈ argument, e.Fits v := by
  unfold returned
  split
  · exact c.endStatement_from.map fun _ rest _ hrest => hrest.mono fun _ _ => by simp
  · refine .relax ((ended_from c some).mono ?_)
    rintro _ rest - ⟨e, rfl, he⟩
    exact he.mono fun v hv => by simpa using hv

theorem thrown_from (line : ℕ) (c : Cursor) :
    (thrown line c).From c fun argument rest => c.Spans rest fun v => argument.Fits v := by
  unfold thrown
  split
  · exact Parsed.from_fault
  · refine .relax ((ended_from c id).mono ?_)
    rintro _ rest - ⟨e, rfl, he⟩
    exact he

theorem forInit_from (c : Cursor) :
    (forInit c).From c fun init rest => c.Spans rest fun v => ∀ start ∈ init, start.Fits v := by
  unfold forInit
  split
  · next kind c₁ h₁ htake =>
    obtain ⟨_, -, hword⟩ := Cursor.spans_of_take? htake
    refine .relax (.resume ?_ h₁ hword)
    refine ((declarators_from kind c₁).map fun ds rest _ hds => ?_).map fun declared rest _ h => h
    refine (hword.trans hds.fits).mono fun v hv => ?_
    simpa [ForInit.Fits, VariableDeclaration.Fits] using ⟨hv.2.1, hv.2.2, hv.1.1⟩
  · split
    · exact Parsed.from_done (.refl fun _ => by simp)
    · refine .relax ((expression_from c).map fun e rest _ he => ?_)
      exact he.mono fun v hv => by simpa [ForInit.Fits] using hv

theorem forClause_from (close : Punctuator) (c : Cursor) :
    (forClause close c).From c fun clause rest =>
      c.Spans rest fun v => ∀ e ∈ clause, e.Fits v := by
  unfold forClause
  split
  · next c₁ h₁ heat =>
    have hclose := Cursor.spans_of_eatKind? heat
    exact Parsed.from_ok hclose (hclose.mono fun _ _ => by simp)
  · refine (expression_from c).bind fun e c₁ _ he => ?_
    refine (c₁.expect_from close).map fun _ c₂ _ hclose => ?_
    exact (he.trans hclose).mono fun v hv => by simpa using hv.1

theorem forHead_from {line : ℕ} (c : Cursor) (hline : line ∈ c.lines) :
    (forHead line c).From c fun head rest => c.Spans rest fun v =>
      (∀ start ∈ head.1, start.Fits v) ∧ (∀ e ∈ head.2.1, e.Fits v)
        ∧ ∀ e ∈ head.2.2, e.Fits v := by
  -- The loops over collections complain at the line of the word, which is before the cursor.
  refine (c.expect_from .leftParen).bindLooseAt fun _ c₁ _ hopen => ?_
  refine ((forInit_from c₁).shift hopen).bindAt fun init c₂ _ hinit => ?_
  have hstart := hopen.trans hinit
  split
  · exact ⟨line, hline, rfl⟩
  · refine Parsed.From.shift ?_ hstart
    refine (c₂.expect_from .semicolon).bind fun _ c₃ _ hsemicolon => ?_
    refine (forClause_from .semicolon c₃).bind fun test c₄ _ htest => ?_
    refine (forClause_from .rightParen c₄).map fun update c₅ _ hupdate => ?_
    have hall := hstart.trans (hsemicolon.trans (htest.trans hupdate))
    exact hall.mono fun v ⟨⟨_, hinit⟩, _, htest, hupdate⟩ => ⟨hinit, htest, hupdate⟩

theorem caseTest_from (c : Cursor) :
    (caseTest c).From c fun test rest => c.Spans rest fun v => ∀ e ∈ test, e.Fits v := by
  unfold caseTest
  split
  · next c₁ h₁ heat =>
    have hword := Cursor.spans_of_eatKind? heat
    refine .resume ?_ h₁ hword
    refine (expression_from c₁).bind fun test c₂ _ htest => ?_
    refine (c₂.expect_from .colon).map fun _ c₃ _ hcolon => ?_
    exact (hword.trans (htest.trans hcolon)).mono fun v hv => by simpa using hv.2.1
  · split
    · next c₁ h₁ heat =>
      have hword := Cursor.spans_of_eatKind? heat
      refine .resume ?_ h₁ hword
      refine (c₁.expect_from .colon).map fun _ c₂ _ hcolon => ?_
      exact (hword.trans hcolon).mono fun _ _ => by simp
    · exact Parsed.from_fault

theorem catchParameter_from (c : Cursor) :
    (catchParameter c).From c fun param rest => c.Spans rest fun v => ∀ id ∈ param, id.Fits v := by
  unfold catchParameter
  split
  · exact Parsed.from_done (.refl fun _ => by simp)
  · next c₁ h₁ heat =>
    have hopen := Cursor.spans_of_eatKind? heat
    refine .relax (.resume ?_ h₁ hopen)
    refine c₁.expectName_from.bind fun id c₂ _ hid => ?_
    refine (c₂.expect_from .rightParen).map fun _ c₃ _ hclose => ?_
    exact (hopen.trans (hid.2.trans hclose)).mono fun v hv => by simpa using hv.2.1

/-! ## Promises of statements -/

/-- What is promised of a statement that starts at a cursor. -/
structure ReadsAt (c : Cursor) (s : Statement) (rest : Cursor) : Prop where
  fits : c.Spans rest fun v => s.Fits v
  line_eq : s.line = c.line
  lines : c.Ordered → Ascends c.line s.lines rest.previousLine
  isIf : s.isIf = true → c.kind = .keyword .if_

/-- What is promised of a statement whose word is on the given line, right before a cursor. -/
structure ReadsAfter (word : Keyword) (line : ℕ) (c : Cursor) (s : Statement) (rest : Cursor) :
    Prop where
  fits : c.Spans rest fun v => v.line line → s.Fits v
  line_eq : s.line = line
  lines : c.Ordered → line ≤ c.previousLine → Ascends line s.lines rest.previousLine
  isIf : s.isIf = true → word = .if_

/-- What is promised of a body that starts at a cursor. -/
structure ReadsBody (c : Cursor) (b : Body) (rest : Cursor) : Prop where
  fits : c.Spans rest fun v => b.Fits v
  line_eq : b.line = c.line
  lines : c.Ordered → Ascends c.line b.lines rest.previousLine
  isIf : b.isIf = true → c.kind = .keyword .if_

/-- What is promised of a block that starts at a cursor. -/
structure ReadsBlock (c : Cursor) (b : Block) (rest : Cursor) : Prop where
  fits : c.Spans rest fun v => b.Fits v
  line_eq : b.line = c.line
  lines : c.Ordered → Ascends c.line (statementLines b.body) rest.previousLine

/-- What is promised of statements in a row. -/
structure ReadsStatements (c : Cursor) (ss : List Statement) (rest : Cursor) : Prop where
  fits : c.Spans rest fun v => statementsFit v ss
  lines : c.Ordered → Ascends c.previousLine (statementLines ss) rest.previousLine

section Promises

variable {c c₁ rest : Cursor} {s : Statement} {word : Keyword} {line : ℕ}

/-- A statement with its word. -/
theorem ReadsAfter.readsAt {h₁ : c₁.size < c.size} (h : ReadsAfter word c.line c₁ s rest)
    (hnext : c.next? = some (.keyword word, ⟨c₁, h₁⟩)) : ReadsAt c s rest := by
  have hword := Cursor.spans_of_next? hnext
  refine ⟨(hword.trans h.fits).mono fun v hv => hv.2 hv.1.1, h.line_eq, fun hc => ?_, fun hs => ?_⟩
  · exact h.lines (hword.ordered hc) (hword.line_le h₁ hc)
  · rw [Cursor.kind_of_next? hnext, h.isIf hs]

theorem from_word {h₁ : c₁.size < c.size} {p : Parsed Statement c₁.size}
    (hnext : c.next? = some (.keyword word, ⟨c₁, h₁⟩))
    (hp : p.From c₁ (ReadsAfter word c.line c₁)) :
    (p.resume h₁ : Parsed Statement c.size).From c (ReadsAt c) :=
  (hp.mono fun _ _ _ hs => hs.readsAt hnext).resume h₁ (Cursor.spans_of_next? hnext)

theorem from_wordLoose {h₁ : c₁.size < c.size} {p : Parsed Statement (c₁.size + 1)}
    (hnext : c.next? = some (.keyword word, ⟨c₁, h₁⟩))
    (hp : p.From c₁ (ReadsAfter word c.line c₁)) :
    (p.resumeLoose h₁ : Parsed Statement c.size).From c (ReadsAt c) :=
  (hp.mono fun _ _ _ hs => hs.readsAt hnext).resumeLoose h₁ (Cursor.spans_of_next? hnext)

/-- A statement whose only line is that of its word. -/
theorem ReadsAfter.of_single (hfits : c.Spans rest fun v => v.line line → s.Fits v)
    (hline : s.line = line) (hlines : s.lines = [line]) (hif : s.isIf = false) :
    ReadsAfter word line c s rest := by
  refine ⟨hfits, hline, fun hc hle => ?_, by simp [hif]⟩
  rw [hlines]
  exact ⟨le_rfl, hle.trans (hfits.previousLine_le hc)⟩

/-- A statement with a body after other tokens. -/
theorem ReadsAfter.of_body {b : Body} {p : Vocabulary → Prop} (hhead : c.Spans c₁ p)
    (hbody : ReadsBody c₁ b rest) (hfits : c.Spans rest fun v => v.line line → s.Fits v)
    (hline : s.line = line) (hlines : s.lines = line :: b.lines) (hif : s.isIf = false) :
    ReadsAfter word line c s rest := by
  refine ⟨hfits, hline, fun hc hle => ?_, by simp [hif]⟩
  have hc₁ := hhead.ordered hc
  rw [hlines]
  refine ⟨le_rfl, (hbody.lines hc₁).of_le ?_⟩
  exact hle.trans ((hhead.previousLine_le hc).trans hc₁.previousLine_le)

/-- A block as a statement. -/
theorem ReadsBlock.readsAt {b : Block} (h : ReadsBlock c b rest) : ReadsAt c (.block b) rest := by
  obtain ⟨inner, line⟩ := b
  refine ⟨h.fits, h.line_eq, fun hc => ?_, by simp [Statement.isIf]⟩
  obtain rfl : line = c.line := h.line_eq
  exact ⟨le_rfl, h.lines hc⟩

/-- A statement as a body. -/
theorem ReadsAt.readsBody (h : ReadsAt c s rest) : ReadsBody c (.ofStatement s) rest := by
  cases s with
  | block braces =>
    obtain ⟨inner, line⟩ := braces
    refine ⟨h.fits, h.line_eq, fun hc => ?_, by simp [Body.ofStatement, Body.isIf]⟩
    obtain ⟨hle, hinner⟩ := h.lines hc
    exact hinner.of_le hle
  | _ => exact ⟨h.fits.mono fun v hv => ⟨rfl, hv⟩, h.line_eq, h.lines, h.isIf⟩

end Promises

/-! ## Chains of tests -/

/-- The well-shaped tests of an `if` chain. -/
def Rung.Fits (v : Vocabulary) (r : Rung) : Prop := r.test.Fits v ∧ r.body.Fits v ∧ v.line r.line

/-- The lines of a test of an `if` chain. -/
def Rung.lines (r : Rung) : List ℕ := r.line :: r.body.lines

/-- What is promised of a test of an `if` chain whose word is right before a cursor. -/
structure ReadsRung (line : ℕ) (c : Cursor) (r : Rung) (rest : Cursor) : Prop where
  fits : c.Spans rest fun v => v.line line → r.Fits v
  line_eq : r.line = line
  lines : c.Ordered → line ≤ c.previousLine → Ascends line r.lines rest.previousLine

/-- What is promised of the further tests of an `if` chain and its final `else`. -/
structure ReadsRungs (c : Cursor) (chain : List Rung × Option Body) (rest : Cursor) : Prop where
  fits : c.Spans rest fun v => (∀ r ∈ chain.1, r.Fits v)
    ∧ ∀ b ∈ chain.2, b.isIf = false ∧ b.Fits v
  lines : c.Ordered → Ascends c.previousLine
    (chain.1.flatMap Rung.lines ++ (chain.2.map fun b => b.line :: b.lines).getD [])
    rest.previousLine

/-- What the tests of a chain after the first lead to. -/
def linkAlternate (rest : List Rung) (last : Option Body) : Option Alternate :=
  rest.foldr (fun rung alternate => some (.elseIf (.mk rung.test rung.body alternate rung.line)))
    (last.map Alternate.else_)

theorem alternateFits_link {v : Vocabulary} {rest : List Rung} {last : Option Body}
    (hrest : ∀ r ∈ rest, r.Fits v) (hlast : ∀ b ∈ last, b.isIf = false ∧ b.Fits v) :
    alternateFits v (linkAlternate rest last) := by
  induction rest with
  | nil =>
    cases last with
    | none => trivial
    | some b => exact hlast b rfl
  | cons r rest ih =>
    obtain ⟨htest, hbody, hline⟩ := hrest r List.mem_cons_self
    exact ⟨htest, hbody, ih fun other hmem => hrest other (List.mem_cons_of_mem r hmem), hline⟩

theorem alternateLines_link (rest : List Rung) (last : Option Body) :
    alternateLines (linkAlternate rest last)
      = rest.flatMap Rung.lines ++ (last.map fun b => b.line :: b.lines).getD [] := by
  induction rest with
  | nil => cases last <;> rfl
  | cons r rest ih =>
    rw [List.flatMap_cons, List.append_assoc, ← ih]
    rfl

/-! ## Statements -/

theorem declarationStatement_from (word : Keyword) (kind : VariableKind) (line : ℕ) (c : Cursor) :
    (declarationStatement kind line c).From c (ReadsAfter word line c) := by
  have hdeclaration : (declaration kind line c).From c fun declared rest =>
      ReadsDeclarators c declared.declarations rest ∧ declared.line = line :=
    (declarators_from kind c).map fun ds rest _ hds => ⟨hds, rfl⟩
  refine hdeclaration.bindLoose fun declared c₁ _ hdeclared => ?_
  obtain ⟨hds, rfl⟩ := hdeclared
  refine c₁.endStatement_from.map fun _ rest _ hend => ?_
  refine ⟨(hds.fits.trans hend).mono fun v hv hline => ⟨hv.1.1, hv.1.2, hline⟩, rfl,
    fun hc hle => ?_, by simp [Statement.isIf]⟩
  have hlines := (hds.lines hc).of_le (hle.trans hc.previousLine_le)
  exact hlines.le_of_le (hend.previousLine_le (hds.fits.ordered hc))

theorem expressionStatement_from (c : Cursor) :
    (expressionStatement c).From c (ReadsAt c) := by
  unfold expressionStatement
  split
  · exact Parsed.from_unsupported
  · refine (expression_from c).bindLoose fun e c₁ h₁ he => ?_
    refine c₁.endStatement_from.map fun _ rest hless hrest => ?_
    have hall := (he.trans hrest).line (by omega)
    refine ⟨hall.mono fun v hv => ⟨hv.1.1, hv.2⟩, rfl, fun hc => ?_, by simp [Statement.isIf]⟩
    -- The line of an update or an assignment is that of one of the tokens.
    have hwithin := hall.within hc
    cases e with
    | update operator argument isPrefix line => exact hwithin.1.1.2.2
    | assignment operator left right line => exact hwithin.1.1.2.2.2
    | _ => exact hwithin.2

mutual

theorem statement_from (c : Cursor) : (statement c).From c (ReadsAt c) := by
  rw [statement]
  split
  · next word c₁ h₁ hnext =>
    split
    · exact from_word hnext (declarationStatement_from .var .var c.line c₁)
    · exact from_word hnext (declarationStatement_from .let_ .let_ c.line c₁)
    · exact from_word hnext (declarationStatement_from .const .const c.line c₁)
    · exact from_word hnext (function_from .function c.line c₁)
    · exact from_word hnext (ifStatement_from c.line c₁)
    · exact from_word hnext (switch_from .switch c.line c₁)
    · refine from_word hnext ?_
      refine (parenthesized_from c₁).bind fun test c₂ _ htest => ?_
      refine (body_from c₂).map fun inner rest _ hinner => ?_
      refine .of_body htest hinner ?_ rfl rfl rfl
      exact (htest.trans hinner.fits).mono fun v hv hline => ⟨hv.1, hv.2, hline⟩
    · exact from_word hnext (doWhile_from .do_ c.line c₁)
    · refine from_word hnext ?_
      refine (forHead_from c₁ (Cursor.line_mem_lines_of_next? hnext)).bind fun head c₂ _ hhead => ?_
      refine (body_from c₂).map fun inner rest _ hinner => ?_
      refine .of_body hhead hinner ?_ rfl rfl rfl
      refine (hhead.trans hinner.fits).mono fun v hv hline => ?_
      exact ⟨hv.1.1, hv.1.2.1, hv.1.2.2, hv.2, hline⟩
    · refine from_wordLoose hnext ((returned_from c.line c₁).map fun argument rest _ h => ?_)
      exact .of_single (h.mono fun v hv hline => ⟨hv, hline⟩) rfl rfl rfl
    · refine from_wordLoose hnext ((jump_from c.line c₁).map fun label rest _ h => ?_)
      exact .of_single (h.mono fun v hv hline => ⟨hv, hline⟩) rfl rfl rfl
    · refine from_wordLoose hnext ((jump_from c.line c₁).map fun label rest _ h => ?_)
      exact .of_single (h.mono fun v hv hline => ⟨hv, hline⟩) rfl rfl rfl
    · refine from_wordLoose hnext ((thrown_from c.line c₁).map fun argument rest _ h => ?_)
      exact .of_single (h.mono fun v hv hline => ⟨hv, hline⟩) rfl rfl rfl
    · exact from_word hnext (tryStatement_from .try_ c.line c₁)
    · exact expressionStatement_from c
  · exact (block_from c).map fun b rest _ hb => hb.readsAt
  · next c₁ h₁ hnext =>
    have hsemicolon := Cursor.spans_of_next? hnext
    refine Parsed.from_ok hsemicolon ⟨hsemicolon.mono fun v hv => hv.1, rfl, fun hc => ?_,
      by simp [Statement.isIf]⟩
    exact ⟨le_rfl, hsemicolon.line_le h₁ hc⟩
  · exact expressionStatement_from c
termination_by 4 * c.size + 2
decreasing_by all_goals omega

theorem statements_from (close : TokenKind) (c : Cursor) :
    (statements close c).From c (ReadsStatements c) := by
  rw [statements]
  split
  · exact Parsed.from_done ⟨.refl fun _ => trivial, fun _ => le_rfl⟩
  · refine .relax ((statement_from c).bindLoose fun first c₁ _ hfirst => ?_)
    refine (statements_from close c₁).map fun others rest _ hothers => ?_
    refine ⟨hfirst.fits.trans hothers.fits, fun hc => ?_⟩
    have hrest := hothers.lines (hfirst.fits.ordered hc)
    exact ((hfirst.lines hc).of_le hc.previousLine_le).append hrest
termination_by 4 * c.size + 3
decreasing_by all_goals omega

theorem block_from (c : Cursor) : (block c).From c (ReadsBlock c) := by
  rw [block]
  refine (c.expect_from .leftBrace).bindLoose fun _ c₁ h₁ hopen => ?_
  refine (statements_from _ c₁).bind fun inner c₂ _ hinner => ?_
  refine (c₂.expect_from .rightBrace).map fun _ rest _ hclose => ?_
  have hall := hopen.trans (hinner.fits.trans hclose)
  refine ⟨hall.mono fun v hv => ⟨hv.2.1, hv.1⟩, rfl, fun hc => ?_⟩
  have hc₁ := hopen.ordered hc
  have hlines := (hinner.lines hc₁).of_le (hopen.line_le h₁ hc)
  exact hlines.le_of_le (hclose.previousLine_le (hinner.fits.ordered hc₁))
termination_by 4 * c.size + 1
decreasing_by all_goals omega

theorem body_from (c : Cursor) : (body c).From c (ReadsBody c) := by
  rw [body]
  exact (statement_from c).map fun s rest _ hs => hs.readsBody
termination_by 4 * c.size + 3
decreasing_by all_goals omega

theorem function_from (word : Keyword) (line : ℕ) (c : Cursor) :
    (function line c).From c (ReadsAfter word line c) := by
  rw [function]
  refine c.expectName_from.bind fun id c₁ _ hid => ?_
  refine (c₁.expect_from .leftParen).bind fun _ c₂ _ hopen => ?_
  refine (parameters_from c₂).bind fun params c₃ _ hparams => ?_
  refine (block_from c₃).map fun inner rest _ hinner => ?_
  have hhead := hid.2.trans hopen
  have hall := hhead.trans (hparams.fits.trans hinner.fits)
  refine ⟨hall.mono fun v hv hline => ?_, rfl, fun hc hle => ⟨le_rfl, ?_⟩,
    by simp [Statement.isIf]⟩
  · obtain ⟨statements, start⟩ := inner
    exact ⟨hv.1.1, hv.2.1, hv.2.2.1, hline⟩
  · have hc₂ := hhead.ordered hc
    have hc₃ := hparams.fits.ordered hc₂
    have hids := (hparams.lines hc₂).of_le (hle.trans (hhead.previousLine_le hc))
    exact hids.append ((hinner.lines hc₃).of_le hc₃.previousLine_le)
termination_by 4 * c.size
decreasing_by all_goals omega

theorem ifStatement_from (line : ℕ) (c : Cursor) :
    (ifStatement line c).From c (ReadsAfter .if_ line c) := by
  rw [ifStatement]
  refine (rung_from line c).bindLoose fun first c₁ _ hfirst => ?_
  refine (rungs_from c₁).map fun chain rest _ hchain => ?_
  refine ⟨(hfirst.fits.trans hchain.fits).mono fun v hv hline => ?_, hfirst.line_eq,
    fun hc hle => ?_, fun _ => rfl⟩
  · obtain ⟨htest, hbody, hstart⟩ := hv.1 hline
    exact ⟨htest, hbody, alternateFits_link hv.2.1 hv.2.2, hstart⟩
  · have hfurther := hchain.lines (hfirst.fits.ordered hc)
    rw [← alternateLines_link] at hfurther
    exact (hfirst.lines hc hle).append hfurther
termination_by 4 * c.size + 2
decreasing_by all_goals omega

theorem rung_from (line : ℕ) (c : Cursor) : (rung line c).From c (ReadsRung line c) := by
  rw [rung]
  refine (parenthesized_from c).bind fun test c₁ _ htest => ?_
  refine (body_from c₁).map fun inner rest _ hinner => ?_
  refine ⟨(htest.trans hinner.fits).mono fun v hv hline => ⟨hv.1, hv.2, hline⟩, rfl,
    fun hc hle => ⟨le_rfl, ?_⟩⟩
  have hc₁ := htest.ordered hc
  refine (hinner.lines hc₁).of_le ?_
  exact hle.trans ((htest.previousLine_le hc).trans hc₁.previousLine_le)
termination_by 4 * c.size + 1
decreasing_by all_goals omega

theorem rungs_from (c : Cursor) : (rungs c).From c (ReadsRungs c) := by
  rw [rungs]
  split
  · exact Parsed.from_done ⟨.refl fun _ => ⟨by simp, by simp⟩, fun _ => le_rfl⟩
  · next c₁ h₁ heat₁ =>
    have helse := Cursor.spans_of_eatKind? heat₁
    have hstart : c.Ordered → c.previousLine ≤ c₁.line := fun hc =>
      (helse.previousLine_le hc).trans (helse.ordered hc).previousLine_le
    split
    · next c₂ h₂ heat₂ =>
      have hif := Cursor.spans_of_eatKind? heat₂
      refine .relax (.resume (.resume ?_ h₂ hif) h₁ helse)
      refine (rung_from c₁.line c₂).bindLoose fun first c₃ _ hfirst => ?_
      refine (rungs_from c₃).map fun chain rest _ hchain => ?_
      have hwords := helse.trans hif
      have hall := hwords.trans (hfirst.fits.trans hchain.fits)
      refine ⟨hall.mono fun v ⟨hwords, hfirst, hchain⟩ => ⟨?_, hchain.2⟩, fun hc => ?_⟩
      · simpa using ⟨hfirst hwords.2.1, hchain.1⟩
      · have hc₂ := hwords.ordered hc
        have hlines := hfirst.lines hc₂ (hif.line_le h₂ (helse.ordered hc))
        rw [List.flatMap_cons, List.append_assoc]
        exact (hlines.of_le (hstart hc)).append (hchain.lines (hfirst.fits.ordered hc₂))
    · next heat₂ =>
      refine .relax (.resume ?_ h₁ helse)
      refine (body_from c₁).map fun last rest _ hlast => ?_
      refine ⟨(helse.trans hlast.fits).mono fun v hv => ⟨by simp, ?_⟩, fun hc => ?_⟩
      · have hisIf : last.isIf = false := by
          rw [Bool.eq_false_iff]
          exact fun hisIf => Cursor.kind_ne_of_eatKind? heat₂ (by simp) (hlast.isIf hisIf)
        simpa using ⟨hisIf, hv.2⟩
      · have hlines := hlast.lines (helse.ordered hc)
        exact ⟨hlast.line_eq ▸ hstart hc, hlast.line_eq ▸ hlines⟩
termination_by 4 * c.size
decreasing_by all_goals omega

theorem switch_from (word : Keyword) (line : ℕ) (c : Cursor) :
    (switch line c).From c (ReadsAfter word line c) := by
  rw [switch]
  refine (parenthesized_from c).bind fun discriminant c₁ _ hdiscriminant => ?_
  refine (c₁.expect_from .leftBrace).bind fun _ c₂ _ hopen => ?_
  refine (cases_from c₂).map fun cases rest _ hcases => ?_
  refine .of_single ?_ rfl rfl rfl
  refine (hdiscriminant.trans (hopen.trans hcases)).mono fun v hv hline => ?_
  exact ⟨hv.1, hv.2.2, hline⟩
termination_by 4 * c.size
decreasing_by all_goals omega

theorem cases_from (c : Cursor) :
    (cases c).From c fun cases rest => c.Spans rest fun v => casesFit v cases := by
  rw [cases]
  split
  · next c₁ h₁ heat =>
    have hclose := Cursor.spans_of_eatKind? heat
    exact Parsed.from_ok hclose (hclose.mono fun _ _ => trivial)
  · refine (caseTest_from c).bindLoose fun test c₁ _ htest => ?_
    refine (caseBody_from c₁).bind fun consequent c₂ _ hconsequent => ?_
    refine (cases_from c₂).map fun others rest _ hothers => ?_
    refine (htest.trans (hconsequent.trans hothers)).mono fun v hv => ?_
    exact ⟨hv.1, hv.2.1, hv.2.2⟩
termination_by 4 * c.size
decreasing_by all_goals omega

theorem caseBody_from (c : Cursor) :
    (caseBody c).From c fun ss rest => c.Spans rest fun v => statementsFit v ss := by
  rw [caseBody]
  split
  · exact Parsed.from_done (.refl fun _ => trivial)
  · refine .relax ((statement_from c).bindLoose fun first c₁ _ hfirst => ?_)
    exact (caseBody_from c₁).map fun others rest _ hothers => hfirst.fits.trans hothers
termination_by 4 * c.size + 3
decreasing_by all_goals omega

theorem doWhile_from (word : Keyword) (line : ℕ) (c : Cursor) :
    (doWhile line c).From c (ReadsAfter word line c) := by
  rw [doWhile]
  refine (body_from c).bind fun inner c₁ _ hinner => ?_
  refine (c₁.expectKind_from _).bind fun _ c₂ _ hwhile => ?_
  refine (parenthesized_from c₂).bindLoose fun test c₃ _ htest => ?_
  have hall := hinner.fits.trans (hwhile.trans htest)
  split
  · next c₄ h₄ heat =>
    have hsemicolon := Cursor.spans_of_eatKind? heat
    refine .relax (Parsed.from_ok hsemicolon (.of_single ?_ rfl rfl rfl))
    exact (hall.trans hsemicolon).mono fun v hv hline => ⟨hv.1.1, hv.1.2.2, hline⟩
  · refine Parsed.from_done (.of_single ?_ rfl rfl rfl)
    exact hall.mono fun v hv hline => ⟨hv.1, hv.2.2, hline⟩
termination_by 4 * c.size + 4
decreasing_by all_goals omega

theorem tryStatement_from (word : Keyword) (line : ℕ) (c : Cursor) :
    (tryStatement line c).From c (ReadsAfter word line c) := by
  rw [tryStatement]
  refine (block_from c).bindLoose fun inner c₁ _ hinner => ?_
  refine (handler_from c₁).bindLoose fun handler c₂ _ hhandler => ?_
  refine (finalizer_from c₂).bindLoose fun finalizer c₃ _ hfinalizer => ?_
  split
  · exact Parsed.from_fault
  · next hparts =>
    refine Parsed.from_done (.of_single ?_ rfl rfl rfl)
    refine (hinner.fits.trans (hhandler.trans hfinalizer)).mono fun v hv hline => ?_
    refine ⟨?_, hv.1, hv.2.1, hv.2.2, hline⟩
    cases handler <;> cases finalizer <;> simp_all
termination_by 4 * c.size + 2
decreasing_by all_goals omega

theorem handler_from (c : Cursor) :
    (handler c).From c fun part rest => c.Spans rest fun v => handlerFits v part := by
  rw [handler]
  split
  · exact Parsed.from_done (.refl fun _ => trivial)
  · next c₁ h₁ heat =>
    have hword := Cursor.spans_of_eatKind? heat
    refine .relax (.resumeLoose ?_ h₁ hword)
    refine (catchParameter_from c₁).bind fun param c₂ _ hparam => ?_
    refine (block_from c₂).map fun inner rest _ hinner => ?_
    exact (hword.trans (hparam.trans hinner.fits)).mono fun v hv => hv.2
termination_by 4 * c.size
decreasing_by all_goals omega

theorem finalizer_from (c : Cursor) :
    (finalizer c).From c fun part rest => c.Spans rest fun v => finalizerFits v part := by
  rw [finalizer]
  split
  · exact Parsed.from_done (.refl fun _ => trivial)
  · next c₁ h₁ heat =>
    have hword := Cursor.spans_of_eatKind? heat
    refine .relax (.resume ?_ h₁ hword)
    refine (block_from c₁).map fun inner rest _ hinner => ?_
    exact (hword.trans hinner.fits).mono fun v hv => hv.2
termination_by 4 * c.size
decreasing_by all_goals omega

end

/-- What the rule for programs promises. -/
theorem program_from (c : Cursor) : (program c).From c (ReadsStatements c) :=
  statements_from .endOfInput c

end ScriptSteps.Grammar
