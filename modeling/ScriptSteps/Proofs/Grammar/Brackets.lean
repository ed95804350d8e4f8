import Mathlib
import ScriptSteps.Proofs.Grammar.Crosses

/-!
# Every rule reads complete tokens

What a rule of the grammar has read never asks for a next line: it closes the brackets it opens, and
its last token waits for nothing. The rules for the inside of brackets read up to the bracket that
closes them, and optional parts may read nothing.

## Main statements

* `Grammar.expression_completes`, `Grammar.statement_completes`: the rules read complete tokens
* `Grammar.program_settles`: a program is nothing or complete, and no token comes after it
-/

namespace ScriptSteps.Grammar

/-! ## Expressions -/

theorem propertyKey_completes (c : Cursor) : (propertyKey c).StopsAt (c.Crosses Complete) := by
  unfold propertyKey
  split
  · next value d h hnext => exact (Cursor.crosses_of_next? hnext).single rfl rfl
  · next value d h hnext => exact (Cursor.crosses_of_next? hnext).single rfl rfl
  · exact c.expectName_completes.map

mutual

theorem expression_completes (c : Cursor) : (expression c).StopsAt (c.Crosses Complete) := by
  rw [expression]
  refine (assignment_completes c).bindLoose fun first c₁ _ hfirst => ?_
  exact (sequenceRest_settles c₁).map.mono fun _ hrest => hfirst.settled hrest
termination_by 16 * c.size + 10
decreasing_by all_goals omega

theorem sequenceRest_settles (c : Cursor) : (sequenceRest c).StopsAt (c.Crosses Settled) := by
  rw [sequenceRest]
  split
  · exact Parsed.stopsAt_done (.refl (.inl rfl))
  · next c₁ h₁ heat =>
    have hcomma := (Cursor.crosses_of_eatKind? heat).plain rfl
    refine .relax (.resume ?_ h₁)
    refine (assignment_completes c₁).bindLoose fun item c₂ _ hitem => ?_
    refine (sequenceRest_settles c₂).map.mono fun _ hrest => ?_
    exact (hcomma.complete (hitem.settled hrest)).optional
termination_by 16 * c.size
decreasing_by all_goals omega

theorem assignment_completes (c : Cursor) : (assignment c).StopsAt (c.Crosses Complete) := by
  rw [assignment]
  refine (conditional_completes c).bindLoose fun target c₁ _ htarget => ?_
  split
  · exact Parsed.stopsAt_done htarget
  · next operator c₂ h₂ htake =>
    obtain ⟨k, hk, hoperator⟩ := Cursor.crosses_of_take? htake
    split
    · refine .relax (.resume ?_ h₂)
      refine (assignment_completes c₂).map.mono fun _ hvalue => ?_
      exact (htarget.balanced.append (hoperator.plain (isPlain_of_assignment hk))).complete hvalue
    · exact Parsed.stopsAt_error
termination_by 16 * c.size + 9
decreasing_by all_goals omega

theorem conditional_completes (c : Cursor) : (conditional c).StopsAt (c.Crosses Complete) := by
  rw [conditional]
  refine (binary_completes .conditional c).bindLoose fun test c₁ _ htest => ?_
  split
  · exact Parsed.stopsAt_done htest
  · next c₂ h₂ heat =>
    have hquestion := htest.balanced.append ((Cursor.crosses_of_eatKind? heat).plain rfl)
    refine .relax (.resume ?_ h₂)
    refine (assignment_completes c₂).bind fun consequent c₃ _ hconsequent => ?_
    refine (c₃.expect_crosses .colon).bind fun _ c₄ _ hcolon => ?_
    refine (assignment_completes c₄).map.mono fun _ halternate => ?_
    have hbranches := (hconsequent.balanced.append (hcolon.plain rfl)).complete halternate
    exact hquestion.complete hbranches
termination_by 16 * c.size + 8
decreasing_by all_goals omega

theorem binary_completes (floor : Level) (c : Cursor) :
    (binary floor c).StopsAt (c.Crosses Complete) := by
  rw [binary]
  refine (exponent_completes c).bindLoose fun left c₁ _ hleft => ?_
  exact (binaryRest_settles floor left c₁).mono fun _ hrest => hleft.settled hrest
termination_by 16 * c.size + 7
decreasing_by all_goals omega

theorem binaryRest_settles (floor : Level) (left : Expression) (c : Cursor) :
    (binaryRest floor left c).StopsAt (c.Crosses Settled) := by
  rw [binaryRest]
  split
  · exact Parsed.stopsAt_done (.refl (.inl rfl))
  · next operator c₁ h₁ htake =>
    obtain ⟨k, hk, hoperator⟩ := Cursor.crosses_of_take? htake
    split
    · exact Parsed.stopsAt_done (.refl (.inl rfl))
    · refine .relax (.resume ?_ h₁)
      refine (binary_completes operator.level c₁).bindLoose fun right c₂ _ hright => ?_
      refine (binaryRest_settles floor _ c₂).mono fun _ hrest => ?_
      exact ((hoperator.plain (isPlain_of_binary hk)).complete (hright.settled hrest)).optional
termination_by 16 * c.size
decreasing_by all_goals omega

theorem exponent_completes (c : Cursor) : (exponent c).StopsAt (c.Crosses Complete) := by
  rw [exponent]
  refine (unary_completes c).bindLoose fun base c₁ _ hbase => ?_
  split
  · exact Parsed.stopsAt_done hbase
  · next c₂ h₂ heat =>
    have hsign := hbase.balanced.append ((Cursor.crosses_of_eatKind? heat).plain rfl)
    split
    · exact Parsed.stopsAt_error
    · refine .relax (.resume ?_ h₂)
      exact (exponent_completes c₂).map.mono fun _ hpower => hsign.complete hpower
termination_by 16 * c.size + 6
decreasing_by all_goals omega

theorem unary_completes (c : Cursor) : (unary c).StopsAt (c.Crosses Complete) := by
  rw [unary]
  split
  · next operator c₁ h₁ htake =>
    obtain ⟨k, hk, hoperator⟩ := Cursor.crosses_of_take? htake
    refine .resume ?_ h₁
    refine (unary_completes c₁).bindLoose fun argument c₂ _ hargument => ?_
    split
    · exact Parsed.stopsAt_done ((hoperator.plain (isPlain_of_update hk).1).complete hargument)
    · exact Parsed.stopsAt_error
  · split
    · next operator c₁ h₁ htake =>
      obtain ⟨k, hk, hoperator⟩ := Cursor.crosses_of_take? htake
      refine .resume ?_ h₁
      refine (unary_completes c₁).map.mono fun _ hargument => ?_
      exact (hoperator.plain (isPlain_of_unary hk)).complete hargument
    · exact postfix_completes c
termination_by 16 * c.size + 5
decreasing_by all_goals omega

theorem postfix_completes (c : Cursor) : (postfix_ c).StopsAt (c.Crosses Complete) := by
  rw [postfix_]
  refine (call_completes c).bindLoose fun argument c₁ _ hargument => ?_
  split
  · exact Parsed.stopsAt_done hargument
  · next operator c₂ h₂ htake =>
    obtain ⟨k, hk, hoperator⟩ := Cursor.crosses_of_take? htake
    obtain ⟨hplain, hwaits⟩ := isPlain_of_update hk
    split
    · split
      · exact .relax (hargument.balanced.complete (hoperator.single hplain hwaits))
      · exact Parsed.stopsAt_error
    · exact Parsed.stopsAt_done hargument
termination_by 16 * c.size + 4
decreasing_by all_goals omega

theorem call_completes (c : Cursor) : (call c).StopsAt (c.Crosses Complete) := by
  rw [call]
  refine (operand_completes c).bindLoose fun callee c₁ _ hcallee => ?_
  exact (suffixes_settle true callee c₁).mono fun _ hsuffixes => hcallee.settled hsuffixes
termination_by 16 * c.size + 3
decreasing_by all_goals omega

theorem operand_completes (c : Cursor) : (operand c).StopsAt (c.Crosses Complete) := by
  rw [operand]
  split
  · exact primary_completes c
  · next c₁ h₁ heat =>
    have hnew := (Cursor.crosses_of_eatKind? heat).plain rfl
    refine .resume ?_ h₁
    refine (operand_completes c₁).bindLoose fun inner c₂ _ hinner => ?_
    refine (suffixes_settle false inner c₂).bindLoose fun callee c₃ _ hcallee => ?_
    have hwhole := hnew.complete (hinner.settled hcallee)
    split
    · exact Parsed.stopsAt_done hwhole
    · next c₄ h₄ heat₄ =>
      have hopen := Cursor.crosses_of_eatKind? heat₄
      refine .relax (.resume ?_ h₄)
      refine (arguments_upTo c₄).map.mono fun _ hitems => ?_
      exact hwhole.balanced.complete (hopen.enclosed hitems rfl)
termination_by 16 * c.size + 2
decreasing_by all_goals omega

theorem suffixes_settle (calls : Bool) (object : Expression) (c : Cursor) :
    (suffixes calls object c).StopsAt (c.Crosses Settled) := by
  rw [suffixes]
  split
  · next c₁ h₁ hnext =>
    have hdot := (Cursor.crosses_of_next? hnext).plain rfl
    refine .relax (.resume ?_ h₁)
    refine c₁.expectName_completes.bindLoose fun property c₂ _ hproperty => ?_
    refine (suffixes_settle calls _ c₂).mono fun _ hrest => ?_
    exact ((hdot.complete hproperty).settled hrest).optional
  · next c₁ h₁ hnext =>
    have hopen := Cursor.crosses_of_next? hnext
    refine .relax (.resume ?_ h₁)
    refine (expression_completes c₁).bind fun property c₂ _ hproperty => ?_
    refine (c₂.expect_crosses .rightBracket).bindLoose fun _ c₃ _ hclose => ?_
    refine (suffixes_settle calls _ c₃).mono fun _ hrest => ?_
    exact ((hopen.enclosed (hproperty.balanced.upTo hclose) rfl).settled hrest).optional
  · next c₁ h₁ hnext =>
    have hopen := Cursor.crosses_of_next? hnext
    split
    · refine .relax (.resume ?_ h₁)
      refine (arguments_upTo c₁).bindLoose fun items c₂ _ hitems => ?_
      refine (suffixes_settle calls _ c₂).mono fun _ hrest => ?_
      exact ((hopen.enclosed hitems rfl).settled hrest).optional
    · exact Parsed.stopsAt_done (.refl (.inl rfl))
  · exact Parsed.stopsAt_done (.refl (.inl rfl))
termination_by 16 * c.size
decreasing_by all_goals omega

theorem arguments_upTo (c : Cursor) : (arguments c).StopsAt (c.Crosses (UpTo .rightParen)) := by
  rw [arguments]
  split
  · next c₁ h₁ heat => exact (Cursor.crosses_of_eatKind? heat).only_upTo
  · refine (assignment_completes c).bind fun item c₁ _ hitem => ?_
    split
    · next c₂ h₂ heat =>
      have hcomma := hitem.balanced.append ((Cursor.crosses_of_eatKind? heat).plain rfl)
      refine .resume ?_ h₂
      exact (arguments_upTo c₂).map.mono fun _ hitems => hcomma.before hitems
    · exact (c₁.expect_crosses .rightParen).map.mono fun _ hclose => hitem.balanced.upTo hclose
termination_by 16 * c.size + 10
decreasing_by all_goals omega

theorem primary_completes (c : Cursor) : (primary c).StopsAt (c.Crosses Complete) := by
  rw [primary]
  split
  · next value c₁ h₁ htake =>
    obtain ⟨k, hk, hliteral⟩ := Cursor.crosses_of_take? htake
    exact hliteral.single (isPlain_of_literal hk).1 (isPlain_of_literal hk).2
  · split
    · next name c₁ h₁ hnext => exact (Cursor.crosses_of_next? hnext).single rfl rfl
    · next c₁ h₁ hnext => exact (Cursor.crosses_of_next? hnext).single rfl rfl
    · next c₁ h₁ hnext =>
      have hopen := Cursor.crosses_of_next? hnext
      refine .resume ?_ h₁
      refine (expression_completes c₁).bind fun inner c₂ _ hinner => ?_
      refine (c₂.expect_crosses .rightParen).map.mono fun _ hclose => ?_
      exact hopen.enclosed (hinner.balanced.upTo hclose) rfl
    · next c₁ h₁ hnext =>
      have hopen := Cursor.crosses_of_next? hnext
      refine .resume ?_ h₁
      exact (elements_upTo c₁).map.mono fun _ hitems => hopen.enclosed hitems rfl
    · next c₁ h₁ hnext =>
      have hopen := Cursor.crosses_of_next? hnext
      refine .resume ?_ h₁
      exact (properties_upTo c₁).map.mono fun _ hitems => hopen.enclosed hitems rfl
    · exact Parsed.stopsAt_error
    · exact Parsed.stopsAt_error
    · exact Parsed.stopsAt_error
termination_by 16 * c.size + 1
decreasing_by all_goals omega

theorem elements_upTo (c : Cursor) : (elements c).StopsAt (c.Crosses (UpTo .rightBracket)) := by
  rw [elements]
  split
  · next c₁ h₁ heat => exact (Cursor.crosses_of_eatKind? heat).only_upTo
  · split
    · next c₁ h₁ heat =>
      have hcomma := (Cursor.crosses_of_eatKind? heat).plain rfl
      refine .resume ?_ h₁
      exact (elements_upTo c₁).map.mono fun _ hitems => hcomma.before hitems
    · refine (assignment_completes c).bind fun item c₁ _ hitem => ?_
      split
      · next c₂ h₂ heat => exact hitem.balanced.upTo (Cursor.crosses_of_eatKind? heat)
      · refine (c₁.expect_crosses .comma).bind fun _ c₂ _ hcomma => ?_
        refine (elements_upTo c₂).map.mono fun _ hitems => ?_
        exact (hitem.balanced.append (hcomma.plain rfl)).before hitems
termination_by 16 * c.size + 10
decreasing_by all_goals omega

theorem properties_upTo (c : Cursor) : (properties c).StopsAt (c.Crosses (UpTo .rightBrace)) := by
  rw [properties]
  split
  · next c₁ h₁ heat => exact (Cursor.crosses_of_eatKind? heat).only_upTo
  · refine (propertyKey_completes c).bind fun key c₁ _ hkey => ?_
    refine (c₁.expect_crosses .colon).bind fun _ c₂ _ hcolon => ?_
    refine (assignment_completes c₂).bind fun value c₃ _ hvalue => ?_
    have hproperty := (hkey.balanced.append (hcolon.plain rfl)).append hvalue.balanced
    split
    · next c₄ h₄ heat => exact hproperty.upTo (Cursor.crosses_of_eatKind? heat)
    · refine (c₃.expect_crosses .comma).bind fun _ c₄ _ hcomma => ?_
      refine (properties_upTo c₄).map.mono fun _ hrest => ?_
      exact (hproperty.append (hcomma.plain rfl)).before hrest
termination_by 16 * c.size + 10
decreasing_by all_goals omega

end

theorem parenthesized_completes (c : Cursor) : (parenthesized c).StopsAt (c.Crosses Complete) := by
  refine (c.expect_crosses .leftParen).bind fun _ c₁ _ hopen => ?_
  refine (expression_completes c₁).bind fun inner c₂ _ hinner => ?_
  refine (c₂.expect_crosses .rightParen).map.mono fun _ hclose => ?_
  exact hopen.enclosed (hinner.balanced.upTo hclose) rfl

/-! ## Parts of statements -/

theorem initializer_settles (kind : VariableKind) (c : Cursor) :
    (initializer kind c).StopsAt (c.Crosses Settled) := by
  unfold initializer
  split
  · next c₁ h₁ heat =>
    have hsign := (Cursor.crosses_of_eatKind? heat).plain rfl
    refine .relax (.resume ?_ h₁)
    exact (assignment_completes c₁).map.mono fun _ hvalue => (hsign.complete hvalue).optional
  · split
    · exact Parsed.stopsAt_error
    · exact Parsed.stopsAt_done (.refl (.inl rfl))

theorem declarators_complete (kind : VariableKind) (c : Cursor) :
    (declarators kind c).StopsAt (c.Crosses Complete) := by
  rw [declarators]
  refine c.expectName_completes.bindLoose fun id c₁ h₁ hid => ?_
  refine (initializer_settles kind c₁).bindLoose fun init c₂ h₂ hinit => ?_
  have hfirst := hid.settled hinit
  split
  · exact Parsed.stopsAt_done hfirst
  · next c₃ h₃ heat =>
    have hcomma := hfirst.balanced.append ((Cursor.crosses_of_eatKind? heat).plain rfl)
    refine .relax (.resume ?_ h₃)
    exact (declarators_complete kind c₃).map.mono fun _ hrest => hcomma.complete hrest
termination_by c.size
decreasing_by all_goals omega

theorem declarationStatement_completes (kind : VariableKind) (line : ℕ) (c : Cursor) :
    (declarationStatement kind line c).StopsAt (c.Crosses Complete) := by
  refine (declarators_complete kind c).map.bindLoose fun declared c₁ _ hdeclared => ?_
  exact c₁.endStatement_settles.map.mono fun _ hend => hdeclared.settled hend

theorem parameters_upTo (c : Cursor) : (parameters c).StopsAt (c.Crosses (UpTo .rightParen)) := by
  rw [parameters]
  split
  · next c₁ h₁ heat => exact (Cursor.crosses_of_eatKind? heat).only_upTo
  · refine c.expectName_completes.bind fun id c₁ h₁ hid => ?_
    split
    · next c₂ h₂ heat =>
      have hcomma := hid.balanced.append ((Cursor.crosses_of_eatKind? heat).plain rfl)
      refine .resume ?_ h₂
      exact (parameters_upTo c₂).map.mono fun _ hids => hcomma.before hids
    · exact (c₁.expect_crosses .rightParen).map.mono fun _ hclose => hid.balanced.upTo hclose
termination_by c.size
decreasing_by all_goals omega

theorem jump_settles (line : ℕ) (c : Cursor) : (jump line c).StopsAt (c.Crosses Settled) := by
  unfold jump
  split
  · next label c₁ h₁ heat =>
    have hlabel := Cursor.crosses_of_eatName? heat
    split
    · refine .relax (.resumeLoose ?_ h₁)
      exact c₁.endStatement_settles.map.mono fun _ hend => (hlabel.settled hend).optional
    · exact c.endStatement_settles.map
  · exact c.endStatement_settles.map

/-- An expression and the end of its statement. -/
theorem ended_completes {α : Type} (c : Cursor) (f : Expression → α) :
    ((expression c).bindLoose fun e c₁ _ => c₁.endStatement.map fun _ => f e).StopsAt
      (c.Crosses Complete) := by
  refine (expression_completes c).bindLoose fun e c₁ _ he => ?_
  exact c₁.endStatement_settles.map.mono fun _ hend => he.settled hend

theorem returned_settles (line : ℕ) (c : Cursor) :
    (returned line c).StopsAt (c.Crosses Settled) := by
  unfold returned
  split
  · exact c.endStatement_settles.map
  · exact .relax ((ended_completes c some).mono fun _ h => h.optional)

theorem thrown_settles (line : ℕ) (c : Cursor) : (thrown line c).StopsAt (c.Crosses Settled) := by
  unfold thrown
  split
  · exact Parsed.stopsAt_error
  · exact .relax ((ended_completes c id).mono fun _ h => h.optional)

theorem expressionStatement_completes (c : Cursor) :
    (expressionStatement c).StopsAt (c.Crosses Complete) := by
  unfold expressionStatement
  split
  · exact Parsed.stopsAt_error
  · exact ended_completes c _

theorem forInit_settles (c : Cursor) : (forInit c).StopsAt (c.Crosses Settled) := by
  unfold forInit
  split
  · next kind c₁ h₁ htake =>
    obtain ⟨k, hk, hword⟩ := Cursor.crosses_of_take? htake
    refine .relax (.resume ?_ h₁)
    refine (declarators_complete kind c₁).map.map.mono fun _ hdeclared => ?_
    exact ((hword.plain (isPlain_of_variableKind hk)).complete hdeclared).optional
  · split
    · exact Parsed.stopsAt_done (.refl (.inl rfl))
    · exact .relax ((expression_completes c).map.mono fun _ h => h.optional)

theorem forClause_upTo (close : Punctuator) (c : Cursor) :
    (forClause close c).StopsAt (c.Crosses (UpTo close)) := by
  unfold forClause
  split
  · next c₁ h₁ heat => exact (Cursor.crosses_of_eatKind? heat).only_upTo
  · refine (expression_completes c).bind fun e c₁ _ he => ?_
    exact (c₁.expect_crosses close).map.mono fun _ hclose => he.balanced.upTo hclose

theorem forHead_completes (line : ℕ) (c : Cursor) :
    (forHead line c).StopsAt (c.Crosses Complete) := by
  refine (c.expect_crosses .leftParen).bindLoose fun _ c₁ _ hopen => ?_
  refine (forInit_settles c₁).bind fun init c₂ _ hinit => ?_
  split
  · exact Parsed.stopsAt_error
  · refine (c₂.expect_crosses .semicolon).bind fun _ c₃ _ hsemicolon => ?_
    refine (forClause_upTo .semicolon c₃).bind fun test c₄ _ htest => ?_
    refine (forClause_upTo .rightParen c₄).map.mono fun _ hupdate => ?_
    have hstart := hinit.balanced_of_settled.append (hsemicolon.plain rfl)
    have htest' := htest.mono fun _ h => h.balanced rfl
    exact hopen.enclosed ((hstart.append htest').before hupdate) rfl

theorem caseTest_balances (c : Cursor) : (caseTest c).StopsAt (c.Crosses Balanced) := by
  unfold caseTest
  split
  · next c₁ h₁ heat =>
    have hword := (Cursor.crosses_of_eatKind? heat).plain rfl
    refine .resume ?_ h₁
    refine (expression_completes c₁).bind fun test c₂ _ htest => ?_
    refine (c₂.expect_crosses .colon).map.mono fun _ hcolon => ?_
    exact (hword.append htest.balanced).append (hcolon.plain rfl)
  · split
    · next c₁ h₁ heat =>
      have hword := (Cursor.crosses_of_eatKind? heat).plain rfl
      refine .resume ?_ h₁
      exact (c₁.expect_crosses .colon).map.mono fun _ hcolon => hword.append (hcolon.plain rfl)
    · exact Parsed.stopsAt_error

theorem catchParameter_settles (c : Cursor) :
    (catchParameter c).StopsAt (c.Crosses Settled) := by
  unfold catchParameter
  split
  · exact Parsed.stopsAt_done (.refl (.inl rfl))
  · next c₁ h₁ heat =>
    have hopen := Cursor.crosses_of_eatKind? heat
    refine .relax (.resume ?_ h₁)
    refine c₁.expectName_completes.bind fun id c₂ _ hid => ?_
    refine (c₂.expect_crosses .rightParen).map.mono fun _ hclose => ?_
    exact (hopen.enclosed (hid.balanced.upTo hclose) rfl).optional

/-! ## Statements -/

mutual

theorem statement_completes (c : Cursor) : (statement c).StopsAt (c.Crosses Complete) := by
  rw [statement]
  split
  · next word c₁ h₁ hnext =>
    have hword : c.Crosses Complete c₁ := (Cursor.crosses_of_next? hnext).single rfl rfl
    have hafter : ∀ rest, c₁.Crosses Complete rest → c.Crosses Complete rest :=
      fun _ h => hword.balanced.complete h
    have hperhaps : ∀ rest, c₁.Crosses Settled rest → c.Crosses Complete rest :=
      fun _ h => hword.settled h
    split
    · exact .resume ((declarationStatement_completes _ _ c₁).mono hafter) h₁
    · exact .resume ((declarationStatement_completes _ _ c₁).mono hafter) h₁
    · exact .resume ((declarationStatement_completes _ _ c₁).mono hafter) h₁
    · exact .resume ((function_completes c.line c₁).mono hafter) h₁
    · exact .resume ((ifStatement_completes c.line c₁).mono hafter) h₁
    · exact .resume ((switch_completes c.line c₁).mono hafter) h₁
    · refine .resume ?_ h₁
      refine (parenthesized_completes c₁).bind fun test c₂ _ htest => ?_
      exact (body_completes c₂).map.mono fun rest h => hafter rest (htest.balanced.complete h)
    · exact .resume ((doWhile_completes c.line c₁).mono hafter) h₁
    · refine .resume ?_ h₁
      refine (forHead_completes c.line c₁).bind fun head c₂ _ hhead => ?_
      exact (body_completes c₂).map.mono fun rest h => hafter rest (hhead.balanced.complete h)
    · exact .resumeLoose ((returned_settles c.line c₁).map.mono hperhaps) h₁
    · exact .resumeLoose ((jump_settles c.line c₁).map.mono hperhaps) h₁
    · exact .resumeLoose ((jump_settles c.line c₁).map.mono hperhaps) h₁
    · exact .resumeLoose ((thrown_settles c.line c₁).map.mono hperhaps) h₁
    · exact .resume ((tryStatement_completes c.line c₁).mono hafter) h₁
    · exact expressionStatement_completes c
  · exact (block_completes c).map
  · next c₁ h₁ hnext => exact (Cursor.crosses_of_next? hnext).single rfl rfl
  · exact expressionStatement_completes c
termination_by 4 * c.size + 2
decreasing_by all_goals omega

theorem statements_settle (close : TokenKind) (c : Cursor) :
    (statements close c).StopsAt (c.Crosses Settled) := by
  rw [statements]
  split
  · exact Parsed.stopsAt_done (.refl (.inl rfl))
  · refine .relax ((statement_completes c).bindLoose fun first c₁ _ hfirst => ?_)
    exact (statements_settle close c₁).map.mono fun _ hrest => (hfirst.settled hrest).optional
termination_by 4 * c.size + 3
decreasing_by all_goals omega

theorem block_completes (c : Cursor) : (block c).StopsAt (c.Crosses Complete) := by
  rw [block]
  refine (c.expect_crosses .leftBrace).bindLoose fun _ c₁ _ hopen => ?_
  refine (statements_settle _ c₁).bind fun inner c₂ _ hinner => ?_
  refine (c₂.expect_crosses .rightBrace).map.mono fun _ hclose => ?_
  exact hopen.enclosed (hinner.balanced_of_settled.upTo hclose) rfl
termination_by 4 * c.size + 1
decreasing_by all_goals omega

theorem body_completes (c : Cursor) : (body c).StopsAt (c.Crosses Complete) := by
  rw [body]
  exact (statement_completes c).map
termination_by 4 * c.size + 3
decreasing_by all_goals omega

theorem function_completes (line : ℕ) (c : Cursor) :
    (function line c).StopsAt (c.Crosses Complete) := by
  rw [function]
  refine c.expectName_completes.bind fun id c₁ _ hid => ?_
  refine (c₁.expect_crosses .leftParen).bind fun _ c₂ _ hopen => ?_
  refine (parameters_upTo c₂).bind fun params c₃ _ hparams => ?_
  refine (block_completes c₃).map.mono fun _ hinner => ?_
  exact (hid.balanced.complete (hopen.enclosed hparams rfl)).balanced.complete hinner
termination_by 4 * c.size
decreasing_by all_goals omega

theorem ifStatement_completes (line : ℕ) (c : Cursor) :
    (ifStatement line c).StopsAt (c.Crosses Complete) := by
  rw [ifStatement]
  refine (rung_completes line c).bindLoose fun first c₁ _ hfirst => ?_
  exact (rungs_settle c₁).map.mono fun _ hrest => hfirst.settled hrest
termination_by 4 * c.size + 2
decreasing_by all_goals omega

theorem rung_completes (line : ℕ) (c : Cursor) :
    (rung line c).StopsAt (c.Crosses Complete) := by
  rw [rung]
  refine (parenthesized_completes c).bind fun test c₁ _ htest => ?_
  exact (body_completes c₁).map.mono fun _ hinner => htest.balanced.complete hinner
termination_by 4 * c.size + 1
decreasing_by all_goals omega

theorem rungs_settle (c : Cursor) : (rungs c).StopsAt (c.Crosses Settled) := by
  rw [rungs]
  split
  · exact Parsed.stopsAt_done (.refl (.inl rfl))
  · next c₁ h₁ heat₁ =>
    have helse := (Cursor.crosses_of_eatKind? heat₁).plain rfl
    split
    · next c₂ h₂ heat₂ =>
      have hwords := helse.append ((Cursor.crosses_of_eatKind? heat₂).plain rfl)
      refine .relax (.resume (.resume ?_ h₂) h₁)
      refine (rung_completes c₁.line c₂).bindLoose fun first c₃ _ hfirst => ?_
      refine (rungs_settle c₃).map.mono fun _ hrest => ?_
      exact (hwords.complete (hfirst.settled hrest)).optional
    · refine .relax (.resume ?_ h₁)
      exact (body_completes c₁).map.mono fun _ hlast => (helse.complete hlast).optional
termination_by 4 * c.size
decreasing_by all_goals omega

theorem switch_completes (line : ℕ) (c : Cursor) :
    (switch line c).StopsAt (c.Crosses Complete) := by
  rw [switch]
  refine (parenthesized_completes c).bind fun discriminant c₁ _ hdiscriminant => ?_
  refine (c₁.expect_crosses .leftBrace).bind fun _ c₂ _ hopen => ?_
  refine (cases_upTo c₂).map.mono fun _ hcases => ?_
  exact hdiscriminant.balanced.complete (hopen.enclosed hcases rfl)
termination_by 4 * c.size
decreasing_by all_goals omega

theorem cases_upTo (c : Cursor) : (cases c).StopsAt (c.Crosses (UpTo .rightBrace)) := by
  rw [cases]
  split
  · next c₁ h₁ heat => exact (Cursor.crosses_of_eatKind? heat).only_upTo
  · refine (caseTest_balances c).bindLoose fun test c₁ _ htest => ?_
    refine (caseBody_settles c₁).bind fun consequent c₂ _ hconsequent => ?_
    refine (cases_upTo c₂).map.mono fun _ hothers => ?_
    exact (htest.append hconsequent.balanced_of_settled).before hothers
termination_by 4 * c.size
decreasing_by all_goals omega

theorem caseBody_settles (c : Cursor) : (caseBody c).StopsAt (c.Crosses Settled) := by
  rw [caseBody]
  split
  · exact Parsed.stopsAt_done (.refl (.inl rfl))
  · refine .relax ((statement_completes c).bindLoose fun first c₁ _ hfirst => ?_)
    exact (caseBody_settles c₁).map.mono fun _ hrest => (hfirst.settled hrest).optional
termination_by 4 * c.size + 3
decreasing_by all_goals omega

theorem doWhile_completes (line : ℕ) (c : Cursor) :
    (doWhile line c).StopsAt (c.Crosses Complete) := by
  rw [doWhile]
  refine (body_completes c).bind fun inner c₁ _ hinner => ?_
  refine (c₁.expectKind_crosses _).bind fun _ c₂ _ hwhile => ?_
  refine (parenthesized_completes c₂).bindLoose fun test c₃ _ htest => ?_
  have hall := (hinner.balanced.append (hwhile.plain rfl)).complete htest
  split
  · next c₄ h₄ heat =>
    exact .relax (hall.balanced.complete ((Cursor.crosses_of_eatKind? heat).single rfl rfl))
  · exact Parsed.stopsAt_done hall
termination_by 4 * c.size + 4
decreasing_by all_goals omega

theorem tryStatement_completes (line : ℕ) (c : Cursor) :
    (tryStatement line c).StopsAt (c.Crosses Complete) := by
  rw [tryStatement]
  refine (block_completes c).bindLoose fun inner c₁ _ hinner => ?_
  refine (handler_settles c₁).bindLoose fun handler c₂ _ hhandler => ?_
  refine (finalizer_settles c₂).bindLoose fun finalizer c₃ _ hfinalizer => ?_
  split
  · exact Parsed.stopsAt_error
  · exact Parsed.stopsAt_done ((hinner.settled hhandler).settled hfinalizer)
termination_by 4 * c.size + 2
decreasing_by all_goals omega

theorem handler_settles (c : Cursor) : (handler c).StopsAt (c.Crosses Settled) := by
  rw [handler]
  split
  · exact Parsed.stopsAt_done (.refl (.inl rfl))
  · next c₁ h₁ heat =>
    have hword := (Cursor.crosses_of_eatKind? heat).plain rfl
    refine .relax (.resumeLoose ?_ h₁)
    refine (catchParameter_settles c₁).bind fun param c₂ _ hparam => ?_
    refine (block_completes c₂).map.mono fun _ hinner => ?_
    exact ((hword.append hparam.balanced_of_settled).complete hinner).optional
termination_by 4 * c.size
decreasing_by all_goals omega

theorem finalizer_settles (c : Cursor) : (finalizer c).StopsAt (c.Crosses Settled) := by
  rw [finalizer]
  split
  · exact Parsed.stopsAt_done (.refl (.inl rfl))
  · next c₁ h₁ heat =>
    have hword := (Cursor.crosses_of_eatKind? heat).plain rfl
    refine .relax (.resume ?_ h₁)
    exact (block_completes c₁).map.mono fun _ hinner => (hword.complete hinner).optional
termination_by 4 * c.size
decreasing_by all_goals omega

end

/-! ## Programs -/

/-- Statements in a row stop at what closes them or at the end. -/
theorem statements_stop (close : TokenKind) (c : Cursor) :
    (statements close c).StopsAt fun rest => rest.kind = close ∨ rest.kind = .endOfInput := by
  rw [statements]
  split
  · next hstop => exact Parsed.stopsAt_done hstop
  · refine .relax ((statement_completes c).bindLoose fun first c₁ h₁ _ => ?_)
    exact (statements_stop close c₁).map
termination_by c.size

/-- A program is nothing or complete, and no token of the text comes after it. -/
theorem program_settles (source : String) :
    (program (.ofSource source)).StopsAt fun rest =>
      (Cursor.ofSource source).Crosses Settled rest ∧ rest.terminals = [] := by
  have hsettles := statements_settle .endOfInput (.ofSource source)
  refine (hsettles.and (statements_stop .endOfInput _)).mono fun rest ⟨hcrosses, hend⟩ => ?_
  exact ⟨hcrosses, hcrosses.terminals_eq_nil (or_self_iff.1 hend)⟩

end ScriptSteps.Grammar
