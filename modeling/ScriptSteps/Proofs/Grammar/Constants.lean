import Mathlib
import ScriptSteps.Proofs.Grammar.ForHeader
import ScriptSteps.Proofs.Tree.Declarations

/-!
# Constants without a value

A constant may stand without a value where `in` or `of` comes next, so that a loop over a collection
is told apart from other errors. The rule for declarations does not know whether it is used in the
head of a `for` loop. In a statement, `in` is then met by the next rule, which fails, but `of` is a
name and may start a statement, so a line break before it ends the declaration.

Whether a statement was fine is known only from what comes after it. All its declarations are
justified unless `in` comes next, and no statement, `else` or closing token starts with `in`.

## Main definitions

* `VariableDeclaration.EndsBeforeOf`: the last variable stands right before `of` on a later line
* `PlacedDeclaration.Justified`: all constants have values, or the last one stands like that

## Main statements

* `Grammar.statement_justified`, `Grammar.statements_justified`: what the rules ensure
* `parseProgram_justified`: the constants without a value in a program
* `parseProgram_constant_unset`: a program with a constant without a value
-/

namespace ScriptSteps

open Grammar

variable {terminals : List Terminal}

/-- The last variable is the only one without a value, and among some tokens its name stands right
before the name `of` on a later line. -/
def VariableDeclaration.EndsBeforeOf (terminals : List Terminal) (d : VariableDeclaration) : Prop :=
  ∃ others id line, d.declarations = others ++ [⟨id, none⟩]
    ∧ (∀ other ∈ others, other.init ≠ none)
    ∧ id.line < line ∧ [⟨.identifier id.name, id.line⟩, ⟨.identifier "of", line⟩] <:+: terminals

/-- All constants have values, or the declaration is a statement whose last constant stands without
one right before `of` on a later line. -/
def PlacedDeclaration.Justified (terminals : List Terminal) (p : PlacedDeclaration) : Prop :=
  p.declared.Initialized ∨ p.place = .statement ∧ p.declared.EndsBeforeOf terminals

/-- All of some declarations are justified. -/
def AllJustified (terminals : List Terminal) (ps : List PlacedDeclaration) : Prop :=
  ∀ p ∈ ps, p.Justified terminals

theorem allJustified_nil : AllJustified terminals [] := by
  intro p hp
  cases hp

theorem AllJustified.append {ps qs : List PlacedDeclaration} (h : AllJustified terminals ps)
    (h' : AllJustified terminals qs) : AllJustified terminals (ps ++ qs) :=
  List.forall_mem_append.2 ⟨h, h'⟩

/-! ## Ends of declarations -/

theorem Cursor.expectKind_kind (c : Cursor) (k : TokenKind) :
    (c.expectKind k).Ensures fun _ _ => c.kind = k := by
  unfold expectKind
  split
  · next heat => exact kind_of_eatKind? heat
  · trivial

theorem Cursor.terminals_of_kind {c : Cursor} {k : TokenKind} (h : c.kind = k)
    (hk : k ≠ .endOfInput) : ∃ ts, c.terminals = ⟨k, c.line⟩ :: ts := by
  obtain ⟨previous, _ | ⟨t, ts⟩, finish⟩ := c
  · exact absurd h.symm hk
  · exact ⟨ts, by rw [← h]; rfl⟩

namespace Parsed

variable {α : Type} {n : ℕ} {c : Cursor} {q r : α → Cursor → Prop}

/-- What is left to be read is still the end of some tokens. -/
theorem From.within {p : Parsed α n} (hp : p.From c q) (hc : c.terminals <:+ terminals)
    (hr : p.Ensures r) :
    p.Ensures fun value rest => rest.terminals <:+ terminals ∧ r value rest := by
  cases p with
  | ok value rest fewer => exact ⟨hp.1.suffix.trans hc, hr⟩
  | error cause stop => trivial

end Parsed

namespace Grammar

open Parsed

/-- A declaration that ends before a collection does so at a line break. -/
theorem endStatement_of_atCollection {c : Cursor} (h : AtCollection c) :
    c.endStatement.Ensures fun _ rest => rest = c ∧ c.previousLine < c.line := by
  have hkind {k : TokenKind} (hin : k ≠ .keyword .in_) (hof : k ≠ .identifier "of") :
      c.kind ≠ k := by
    rintro rfl
    exact h.elim hin hof
  unfold Cursor.endStatement
  split
  · next heat => exact absurd (Cursor.kind_of_eatKind? heat) (hkind (by simp) (by simp))
  · split
    · next hends =>
      refine ⟨rfl, ?_⟩
      rcases hends with hbrace | hend | hline
      · exact absurd hbrace (hkind (by simp) (by simp))
      · exact absurd hend (hkind (by simp) (by simp))
      · exact hline
    · trivial

theorem EndsBare.endsBeforeOf {c c₁ : Cursor} {d : VariableDeclaration}
    (h : EndsBare c d.declarations c₁) (hc : c.terminals <:+ terminals)
    (hof : c₁.kind = .identifier "of") (hline : c₁.previousLine < c₁.line) :
    d.EndsBeforeOf terminals := by
  obtain ⟨-, others, id, hds, hothers, hid, hsuffix⟩ := h
  obtain ⟨ts, hts⟩ := Cursor.terminals_of_kind hof (by simp)
  refine ⟨others, id, c₁.line, hds, hothers, hid ▸ hline, ?_⟩
  rw [hts] at hsuffix
  have hprefix : [⟨.identifier id.name, id.line⟩, ⟨.identifier "of", c₁.line⟩]
      <+: ⟨.identifier id.name, id.line⟩ :: ⟨.identifier "of", c₁.line⟩ :: ts := ⟨ts, rfl⟩
  exact hprefix.isInfix.trans (hsuffix.trans hc).isInfix

theorem declarationStatement_justified (kind : VariableKind) (line : ℕ) {c : Cursor}
    (hc : c.terminals <:+ terminals) :
    (declarationStatement kind line c).Ensures fun s rest =>
      rest.kind ≠ .keyword .in_ → AllJustified terminals s.declarations := by
  refine (declaration_initialized kind line c).bindLoose fun d c₁ _ hd => ?_
  rcases hd with hvalues | hbare
  · refine ensures_map fun _ rest _ => ?_
    exact List.forall_mem_singleton.2 (.inl hvalues)
  · refine (endStatement_of_atCollection hbare.atCollection).map fun _ rest hend hrest => ?_
    obtain ⟨rfl, hline⟩ := hend
    have hof := hbare.atCollection.resolve_left hrest
    exact List.forall_mem_singleton.2 (.inr ⟨rfl, hbare.endsBeforeOf hc hof hline⟩)

theorem forHead_justified (terminals : List Terminal) (line : ℕ) (c : Cursor) :
    (forHead line c).Ensures fun head _ => AllJustified terminals (headDeclarations head.1) := by
  refine (forHead_initialized line c).mono fun head _ hinit => ?_
  obtain ⟨_ | ⟨d⟩ | e, clauses⟩ := head
  · exact allJustified_nil
  · exact List.forall_mem_singleton.2 (.inl (hinit _ rfl))
  · exact allJustified_nil

/-! ## Where `in` cannot stand -/

/-- No statement starts with `in`. -/
theorem statement_start (c : Cursor) :
    (statement c).Ensures fun _ _ => c.kind ≠ .keyword .in_ := by
  by_cases hin : c.kind = .keyword .in_
  · obtain ⟨previous, _ | ⟨⟨k, line⟩, ts⟩, finish⟩ := c
    · cases hin
    · obtain rfl : k = .keyword .in_ := hin
      have hexpression : expression ⟨previous, ⟨.keyword .in_, line⟩ :: ts, finish⟩
          = .error (.malformed (.unexpected (.keyword .in_)) line)
            ⟨previous, ⟨.keyword .in_, line⟩ :: ts, finish⟩ :=
        expression_of_primary (by rw [primary]; rfl) rfl rfl rfl
      have hlabel : atLabel ⟨previous, ⟨.keyword .in_, line⟩ :: ts, finish⟩ = false := rfl
      rw [statement]
      simp only [Cursor.next?, expressionStatement, hlabel, hexpression]
      trivial
  · exact ensures_true.mono fun _ _ _ => hin

/-! ## Statements -/

theorem declarations_linkAlternate (rest : List Rung) (last : Option Body) :
    alternateDeclarations (linkAlternate rest last)
      = rest.flatMap (·.body.declarations) ++ (last.map Body.declarations).getD [] := by
  induction rest with
  | nil => cases last <;> rfl
  | cons r rest ih =>
    rw [List.flatMap_cons, List.append_assoc, ← ih]
    rfl

theorem expressionStatement_justified (c : Cursor) :
    (expressionStatement c).Ensures fun s _ => AllJustified terminals s.declarations := by
  unfold expressionStatement
  split
  · trivial
  · refine ensures_true.bindLoose fun e c₁ _ _ => ?_
    exact ensures_map fun _ _ => allJustified_nil

mutual

/-- Unless `in` comes after a statement, its declarations are justified. -/
theorem statement_justified {c : Cursor} (hc : c.terminals <:+ terminals) :
    (statement c).Ensures fun s rest =>
      rest.kind ≠ .keyword .in_ → AllJustified terminals s.declarations := by
  rw [statement]
  split
  · next word c₁ h₁ hnext =>
    have hc₁ := (Cursor.spans_of_next? hnext).suffix.trans hc
    split
    any_goals apply Ensures.widen
    · exact declarationStatement_justified .var c.line hc₁
    · exact declarationStatement_justified .let_ c.line hc₁
    · exact declarationStatement_justified .const c.line hc₁
    · exact (function_justified c.line hc₁).mono fun _ _ hs _ => hs
    · exact ifStatement_justified c.line hc₁
    · exact (switch_justified c.line hc₁).mono fun _ _ hs _ => hs
    · refine ((parenthesized_from c₁).within hc₁ ensures_true).bind fun test c₂ _ hc₂ => ?_
      exact (body_justified hc₂.1).map fun inner rest hinner => hinner
    · exact (doWhile_justified c.line hc₁).mono fun _ _ hs _ => hs
    · have hread := forHead_from c₁ (Cursor.line_mem_lines_of_next? hnext)
      have hhead := hread.within hc₁ (forHead_justified terminals c.line c₁)
      refine hhead.bind fun head c₂ _ hhead => ?_
      refine (body_justified hhead.1).map fun inner rest hinner hrest => ?_
      exact hhead.2.append (hinner hrest)
    · exact ensures_map fun _ _ _ => allJustified_nil
    · exact ensures_map fun _ _ _ => allJustified_nil
    · exact ensures_map fun _ _ _ => allJustified_nil
    · exact ensures_map fun _ _ _ => allJustified_nil
    · exact (tryStatement_justified c.line hc₁).mono fun _ _ hs _ => hs
    · exact (expressionStatement_justified c).mono fun _ _ hs _ => hs
  · exact (block_justified hc).map fun inner rest hinner _ => hinner
  · exact fun _ => allJustified_nil
  · exact (expressionStatement_justified c).mono fun _ _ hs _ => hs
termination_by 4 * c.size + 2
decreasing_by all_goals omega

/-- The declarations of statements in a row are justified, and the row does not start at `in`. -/
theorem statements_justified {close : TokenKind} (hclose : close ≠ .keyword .in_) {c : Cursor}
    (hc : c.terminals <:+ terminals) :
    (statements close c).Ensures fun ss _ =>
      c.kind ≠ .keyword .in_ ∧ AllJustified terminals (statementDeclarations ss) := by
  rw [statements]
  split
  · next hstop =>
    refine ⟨fun hin => ?_, allJustified_nil⟩
    rcases hstop with hstop | hstop
    · exact hclose (hstop.symm.trans hin)
    · simp [hin] at hstop
  · refine .widen ?_ _
    have hfirst := (statement_from c).within hc ((statement_start c).and (statement_justified hc))
    refine hfirst.bindLoose fun first c₁ h₁ ⟨hc₁, hstart, hfirst⟩ => ?_
    refine (statements_justified hclose hc₁).map fun others rest hothers => ?_
    exact ⟨hstart, (hfirst hothers.1).append hothers.2⟩
termination_by 4 * c.size + 3
decreasing_by all_goals omega

theorem block_justified {c : Cursor} (hc : c.terminals <:+ terminals) :
    (block c).Ensures fun b _ => AllJustified terminals b.declarations := by
  rw [block]
  refine ((c.expect_from .leftBrace).within hc ensures_true).bindLoose fun _ c₁ _ hc₁ => ?_
  refine (statements_justified (by simp) hc₁.1).bind fun inner c₂ _ hinner => ?_
  exact ensures_map fun _ rest => hinner.2
termination_by 4 * c.size + 1
decreasing_by all_goals omega

theorem body_justified {c : Cursor} (hc : c.terminals <:+ terminals) :
    (body c).Ensures fun b rest =>
      rest.kind ≠ .keyword .in_ → AllJustified terminals b.declarations := by
  rw [body]
  refine (statement_justified hc).map fun s rest hs => ?_
  rwa [Body.declarations_ofStatement]
termination_by 4 * c.size + 3
decreasing_by all_goals omega

theorem function_justified (line : ℕ) {c : Cursor} (hc : c.terminals <:+ terminals) :
    (function line c).Ensures fun s _ => AllJustified terminals s.declarations := by
  rw [function]
  refine (c.expectName_from.within hc ensures_true).bind fun id c₁ _ hc₁ => ?_
  refine ((c₁.expect_from .leftParen).within hc₁.1 ensures_true).bind fun _ c₂ _ hc₂ => ?_
  refine ((parameters_from c₂).within hc₂.1 ensures_true).bind fun params c₃ _ hc₃ => ?_
  refine (block_justified hc₃.1).map fun inner rest hinner => ?_
  obtain ⟨statements, start⟩ := inner
  exact hinner
termination_by 4 * c.size
decreasing_by all_goals omega

theorem ifStatement_justified (line : ℕ) {c : Cursor} (hc : c.terminals <:+ terminals) :
    (ifStatement line c).Ensures fun s rest =>
      rest.kind ≠ .keyword .in_ → AllJustified terminals s.declarations := by
  rw [ifStatement]
  have hfirst := (rung_from line c).within hc (rung_justified line hc)
  refine hfirst.bindLoose fun first c₁ _ ⟨hc₁, hfirst⟩ => ?_
  refine (rungs_justified hc₁).map fun chain rest hchain hrest => ?_
  obtain ⟨hstart, hothers⟩ := hchain hrest
  rw [← declarations_linkAlternate] at hothers
  exact (hfirst hstart).append hothers
termination_by 4 * c.size + 2
decreasing_by all_goals omega

theorem rung_justified (line : ℕ) {c : Cursor} (hc : c.terminals <:+ terminals) :
    (rung line c).Ensures fun r rest =>
      rest.kind ≠ .keyword .in_ → AllJustified terminals r.body.declarations := by
  rw [rung]
  refine ((parenthesized_from c).within hc ensures_true).bind fun test c₁ _ hc₁ => ?_
  exact (body_justified hc₁.1).map fun inner rest hinner => hinner
termination_by 4 * c.size + 1
decreasing_by all_goals omega

/-- Where an `if` chain has no further tests, what comes after the chain comes after its last
test. -/
theorem rungs_justified {c : Cursor} (hc : c.terminals <:+ terminals) :
    (rungs c).Ensures fun chain rest => rest.kind ≠ .keyword .in_ → c.kind ≠ .keyword .in_
      ∧ AllJustified terminals (chain.1.flatMap (·.body.declarations)
        ++ (chain.2.map Body.declarations).getD []) := by
  rw [rungs]
  split
  · exact fun hrest => ⟨hrest, allJustified_nil⟩
  · next c₁ h₁ heat₁ =>
    have hstart : c.kind ≠ .keyword .in_ := by simp [Cursor.kind_of_eatKind? heat₁]
    have hc₁ := (Cursor.spans_of_eatKind? heat₁).suffix.trans hc
    split
    · next c₂ h₂ heat₂ =>
      have hc₂ := (Cursor.spans_of_eatKind? heat₂).suffix.trans hc₁
      refine .widen (.widen (.widen ?_ _) _) _
      have hfirst := (rung_from c₁.line c₂).within hc₂ (rung_justified c₁.line hc₂)
      refine hfirst.bindLoose fun first c₃ _ ⟨hc₃, hfirst⟩ => ?_
      refine (rungs_justified hc₃).map fun chain rest hchain hrest => ⟨hstart, ?_⟩
      obtain ⟨hnext, hothers⟩ := hchain hrest
      rw [List.flatMap_cons, List.append_assoc]
      exact (hfirst hnext).append hothers
    · refine .widen (.widen ?_ _) _
      exact (body_justified hc₁).map fun last rest hlast hrest => ⟨hstart, hlast hrest⟩
termination_by 4 * c.size
decreasing_by all_goals omega

theorem switch_justified (line : ℕ) {c : Cursor} (hc : c.terminals <:+ terminals) :
    (switch line c).Ensures fun s _ => AllJustified terminals s.declarations := by
  rw [switch]
  refine ((parenthesized_from c).within hc ensures_true).bind fun discriminant c₁ _ hc₁ => ?_
  refine ((c₁.expect_from .leftBrace).within hc₁.1 ensures_true).bind fun _ c₂ _ hc₂ => ?_
  exact (cases_justified hc₂.1).map fun cases rest hcases => hcases
termination_by 4 * c.size
decreasing_by all_goals omega

theorem cases_justified {c : Cursor} (hc : c.terminals <:+ terminals) :
    (cases c).Ensures fun cases _ => AllJustified terminals (caseDeclarations cases) := by
  rw [cases]
  split
  · exact allJustified_nil
  · refine ((caseTest_from c).within hc ensures_true).bindLoose fun test c₁ _ hc₁ => ?_
    have hread := (caseBody_from c₁).within hc₁.1 (caseBody_justified hc₁.1)
    refine hread.bind fun consequent c₂ _ ⟨hc₂, hconsequent⟩ => ?_
    refine (cases_justified hc₂).map fun others rest hothers => ?_
    exact hconsequent.2.append hothers
termination_by 4 * c.size
decreasing_by all_goals omega

theorem caseBody_justified {c : Cursor} (hc : c.terminals <:+ terminals) :
    (caseBody c).Ensures fun ss _ =>
      c.kind ≠ .keyword .in_ ∧ AllJustified terminals (statementDeclarations ss) := by
  rw [caseBody]
  split
  · next hstop =>
    refine ⟨fun hin => ?_, allJustified_nil⟩
    simp [hin] at hstop
  · refine .widen ?_ _
    have hfirst := (statement_from c).within hc ((statement_start c).and (statement_justified hc))
    refine hfirst.bindLoose fun first c₁ h₁ ⟨hc₁, hstart, hfirst⟩ => ?_
    refine (caseBody_justified hc₁).map fun others rest hothers => ?_
    exact ⟨hstart, (hfirst hothers.1).append hothers.2⟩
termination_by 4 * c.size + 3
decreasing_by all_goals omega

theorem doWhile_justified (line : ℕ) {c : Cursor} (hc : c.terminals <:+ terminals) :
    (doWhile line c).Ensures fun s _ => AllJustified terminals s.declarations := by
  rw [doWhile]
  refine (body_justified hc).bind fun inner c₁ _ hinner => ?_
  have hword : (c₁.expectWord .while_).Ensures fun _ _ => c₁.kind = .keyword .while_ :=
    c₁.expectKind_kind _
  refine hword.bind fun _ c₂ _ hwhile => ?_
  have hall := hinner (by simp [hwhile])
  refine ensures_true.bindLoose fun test c₃ _ _ => ?_
  split
  · exact hall
  · exact hall
termination_by 4 * c.size + 4
decreasing_by all_goals omega

theorem tryStatement_justified (line : ℕ) {c : Cursor} (hc : c.terminals <:+ terminals) :
    (tryStatement line c).Ensures fun s _ => AllJustified terminals s.declarations := by
  rw [tryStatement]
  have hinner := (block_from c).within hc (block_justified hc)
  refine hinner.bindLoose fun inner c₁ _ ⟨hc₁, hinner⟩ => ?_
  have hhandler := (handler_from c₁).within hc₁ (handler_justified hc₁)
  refine hhandler.bindLoose fun handler c₂ _ ⟨hc₂, hhandler⟩ => ?_
  refine (finalizer_justified hc₂).bindLoose fun finalizer c₃ _ hfinalizer => ?_
  split
  · trivial
  · exact hinner.append (hhandler.append hfinalizer)
termination_by 4 * c.size + 2
decreasing_by all_goals omega

theorem handler_justified {c : Cursor} (hc : c.terminals <:+ terminals) :
    (handler c).Ensures fun part _ => AllJustified terminals (handlerDeclarations part) := by
  rw [handler]
  split
  · exact allJustified_nil
  · next c₁ h₁ heat =>
    have hc₁ := (Cursor.spans_of_eatKind? heat).suffix.trans hc
    refine .widen (.widen ?_ _) _
    refine ((catchParameter_from c₁).within hc₁ ensures_true).bind fun param c₂ _ hc₂ => ?_
    exact (block_justified hc₂.1).map fun inner rest hinner => hinner
termination_by 4 * c.size
decreasing_by all_goals omega

theorem finalizer_justified {c : Cursor} (hc : c.terminals <:+ terminals) :
    (finalizer c).Ensures fun part _ => AllJustified terminals (finalizerDeclarations part) := by
  rw [finalizer]
  split
  · exact allJustified_nil
  · next c₁ h₁ heat =>
    have hc₁ := (Cursor.spans_of_eatKind? heat).suffix.trans hc
    refine .widen (.widen ?_ _) _
    exact (block_justified hc₁).map fun inner rest hinner => hinner
termination_by 4 * c.size
decreasing_by all_goals omega

end

end Grammar

/-! ## Programs -/

/-- Every constant in a program has a value, except for one at the end of a declaration that stands
as a statement and is followed by the name `of` on a later line. -/
theorem parseProgram_justified {source : String} {program : List Statement}
    (h : parseProgram source = .ok program) :
    ∀ p ∈ statementDeclarations program,
      p.declared.Initialized
        ∨ p.place = .statement
          ∧ p.declared.EndsBeforeOf (Cursor.ofSource source).terminals := by
  have hend : TokenKind.endOfInput ≠ .keyword .in_ := by simp
  have hread := Grammar.statements_justified hend
    (List.suffix_refl (Cursor.ofSource source).terminals)
  obtain ⟨rest, -, hall⟩ := hread.of_ok h
  exact hall

/-- Two constants, the second of which has no value, and two statements. -/
theorem parseProgram_justified_of :
    let others : VariableDeclarator := ⟨⟨"a", 1⟩, some (.literal .null)⟩
    let declared : VariableDeclaration := ⟨.const, [others, ⟨⟨"b", 1⟩, none⟩], 1⟩
    let program : List Statement :=
      [.block (.mk [.declaration declared, .expression (.identifier ⟨"of", 2⟩) 2] 1)]
    let source := "\x7bconst a = null, b\nof\x7d"
    parseProgram source = .ok program
      ∧ ∀ p ∈ statementDeclarations program,
        p.declared.Initialized
          ∨ p.place = .statement ∧ p.declared.EndsBeforeOf (Cursor.ofSource source).terminals := by
  intro others declared program source
  have hsource : Cursor.ofSource source = ⟨1,
      [⟨.punctuator .leftBrace, 1⟩, ⟨.keyword .const, 1⟩, ⟨.identifier "a", 1⟩,
        ⟨.punctuator .equal, 1⟩, ⟨.keyword .null, 1⟩, ⟨.punctuator .comma, 1⟩,
        ⟨.identifier "b", 1⟩, ⟨.identifier "of", 2⟩, ⟨.punctuator .rightBrace, 2⟩], 2⟩ := by
    decide +kernel
  have hparsed : parseProgram source = .ok program := by
    rw [parseProgram, hsource]
    cbv
  exact ⟨hparsed, parseProgram_justified hparsed⟩

/-- Not every constant in a program has a value: `const x`, a line break and `of` are read as two
statements. -/
theorem parseProgram_constant_unset :
    ∃ program, parseProgram "const x\nof" = .ok program
      ∧ ∃ p ∈ statementDeclarations program,
        p.declared.kind = .const ∧ ∃ d ∈ p.declared.declarations, d.init = none := by
  let declared : VariableDeclaration := ⟨.const, [⟨⟨"x", 1⟩, none⟩], 1⟩
  refine ⟨[.declaration declared, .expression (.identifier ⟨"of", 2⟩) 2], ?_, ?_⟩
  · have hsource : Cursor.ofSource "const x\nof" = ⟨1,
        [⟨.keyword .const, 1⟩, ⟨.identifier "x", 1⟩, ⟨.identifier "of", 2⟩], 2⟩ := by
      decide +kernel
    rw [parseProgram, hsource]
    cbv
  · exact ⟨⟨.statement, declared⟩, List.mem_cons_self, rfl, _, List.mem_cons_self, rfl⟩

end ScriptSteps
