import Mathlib
import ScriptSteps.Grammar.Expression
import ScriptSteps.Proofs.Grammar.Spans

/-!
# The shape of what is read as an expression

Every rule of the grammar of expressions gives a well-shaped tree over any vocabulary of the tokens
that it has read.

## Main statements

* `Grammar.expression_from`, `Grammar.assignment_from`: what the rules promise
-/

namespace ScriptSteps.Grammar

/-- The literal of an admitted token. -/
theorem fits_of_literalOf? {k : TokenKind} {value : Literal} (h : literalOf? k = some value)
    {v : Vocabulary} {line : ℕ} (hv : v.Admits ⟨k, line⟩) : value.Fits v := by
  unfold literalOf? at h
  split at h <;> cases h <;> exact hv.2

theorem propertyKey_from (c : Cursor) :
    (propertyKey c).From c fun key rest => c.Spans rest fun v => key.Fits v := by
  unfold propertyKey
  split
  · next value d h hnext =>
    have hspans := Cursor.spans_of_next? hnext
    exact Parsed.from_ok hspans (hspans.mono fun v hv => hv.2)
  · next value d h hnext =>
    have hspans := Cursor.spans_of_next? hnext
    exact Parsed.from_ok hspans (hspans.mono fun v hv => hv.2)
  · exact c.expectName_from.map fun id rest _ hid => hid.2

mutual

theorem expression_from (c : Cursor) :
    (expression c).From c fun e rest => c.Spans rest fun v => e.Fits v := by
  rw [expression]
  refine (assignment_from c).bindLoose fun first c₁ _ hfirst => ?_
  refine (sequenceRest_from c₁).map fun rest c₂ _ hrest => ?_
  refine (hfirst.trans hrest).mono fun v ⟨hfit, hfits⟩ => ?_
  cases rest with
  | nil => exact hfit
  | cons second rest => exact ⟨by simp, hfit, hfits⟩
termination_by 16 * c.size + 10
decreasing_by all_goals omega

theorem sequenceRest_from (c : Cursor) :
    (sequenceRest c).From c fun items rest => c.Spans rest fun v => itemsFit v items := by
  rw [sequenceRest]
  split
  · exact Parsed.from_done (.refl fun _ => trivial)
  · next c₁ h₁ heat =>
    have hcomma := Cursor.spans_of_eatKind? heat
    refine .relax (.resume ?_ h₁ hcomma)
    refine (assignment_from c₁).bindLoose fun item c₂ _ hitem => ?_
    refine (sequenceRest_from c₂).map fun items c₃ _ hitems => ?_
    exact (hcomma.trans (hitem.trans hitems)).mono fun v hv => hv.2
termination_by 16 * c.size
decreasing_by all_goals omega

theorem assignment_from (c : Cursor) :
    (assignment c).From c fun e rest => c.Spans rest fun v => e.Fits v := by
  rw [assignment]
  refine (conditional_from c).bindLoose fun target c₁ h₁ htarget => ?_
  split
  · exact Parsed.from_done htarget
  · next operator c₂ h₂ htake =>
    obtain ⟨_, -, hoperator⟩ := Cursor.spans_of_take? htake
    split
    · next hisTarget =>
      refine .relax (.resume ?_ h₂ hoperator)
      refine (assignment_from c₂).map fun value c₃ _ hvalue => ?_
      refine ((htarget.line h₁).trans (hoperator.trans hvalue)).mono fun v hv => ?_
      exact ⟨hisTarget, hv.1.1, hv.2.2, hv.1.2⟩
    · exact Parsed.from_fault
termination_by 16 * c.size + 9
decreasing_by all_goals omega

theorem conditional_from (c : Cursor) :
    (conditional c).From c fun e rest => c.Spans rest fun v => e.Fits v := by
  rw [conditional]
  refine (binary_from .conditional c).bindLoose fun test c₁ _ htest => ?_
  split
  · exact Parsed.from_done htest
  · next c₂ h₂ heat =>
    have hquestion := Cursor.spans_of_eatKind? heat
    refine .relax (.resume ?_ h₂ hquestion)
    refine (assignment_from c₂).bind fun consequent c₃ _ hconsequent => ?_
    refine (c₃.expect_from .colon).bind fun _ c₄ _ hcolon => ?_
    refine (assignment_from c₄).map fun alternate c₅ _ halternate => ?_
    have hall := htest.trans (hquestion.trans (hconsequent.trans (hcolon.trans halternate)))
    exact hall.mono fun v ⟨htest, _, hconsequent, _, halternate⟩ => ⟨htest, hconsequent, halternate⟩
termination_by 16 * c.size + 8
decreasing_by all_goals omega

theorem binary_from (floor : Level) (c : Cursor) :
    (binary floor c).From c fun e rest => c.Spans rest fun v => e.Fits v := by
  rw [binary]
  refine (exponent_from c).bindLoose fun left c₁ _ hleft => ?_
  refine (binaryRest_from floor left c₁).mono fun e c₂ _ hrest => ?_
  exact (hleft.trans hrest).mono fun v ⟨hleft, hrest⟩ => hrest hleft
termination_by 16 * c.size + 7
decreasing_by all_goals omega

theorem binaryRest_from (floor : Level) (left : Expression) (c : Cursor) :
    (binaryRest floor left c).From c fun e rest =>
      c.Spans rest fun v => left.Fits v → e.Fits v := by
  rw [binaryRest]
  split
  · exact Parsed.from_done (.refl fun _ hleft => hleft)
  · next operator c₁ h₁ htake =>
    obtain ⟨_, -, hoperator⟩ := Cursor.spans_of_take? htake
    split
    · exact Parsed.from_done (.refl fun _ hleft => hleft)
    · refine .relax (.resume ?_ h₁ hoperator)
      refine (binary_from operator.level c₁).bindLoose fun right c₂ _ hright => ?_
      refine (binaryRest_from floor (.binary operator left right) c₂).mono fun e c₃ _ hrest => ?_
      refine (hoperator.trans (hright.trans hrest)).mono fun v hv hleft => ?_
      exact hv.2.2 ⟨hleft, hv.2.1⟩
termination_by 16 * c.size
decreasing_by all_goals omega

theorem exponent_from (c : Cursor) :
    (exponent c).From c fun e rest => c.Spans rest fun v => e.Fits v := by
  rw [exponent]
  refine (unary_from c).bindLoose fun base c₁ _ hbase => ?_
  split
  · exact Parsed.from_done hbase
  · next c₂ h₂ heat =>
    have hsign := Cursor.spans_of_eatKind? heat
    split
    · exact Parsed.from_fault
    · refine .relax (.resume ?_ h₂ hsign)
      refine (exponent_from c₂).map fun power c₃ _ hpower => ?_
      exact (hbase.trans (hsign.trans hpower)).mono fun v hv => ⟨hv.1, hv.2.2⟩
termination_by 16 * c.size + 6
decreasing_by all_goals omega

theorem unary_from (c : Cursor) :
    (unary c).From c fun e rest => c.Spans rest fun v => e.Fits v := by
  rw [unary]
  split
  · next operator c₁ h₁ htake =>
    obtain ⟨_, -, hoperator⟩ := Cursor.spans_of_take? htake
    refine .resume ?_ h₁ hoperator
    refine (unary_from c₁).bindLoose fun argument c₂ _ hargument => ?_
    split
    · next htarget =>
      refine Parsed.from_done ((hoperator.trans hargument).mono fun v hv => ?_)
      exact ⟨htarget, hv.2, hv.1.1⟩
    · exact Parsed.from_fault
  · split
    · next operator c₁ h₁ htake =>
      obtain ⟨_, -, hoperator⟩ := Cursor.spans_of_take? htake
      refine .resume ?_ h₁ hoperator
      refine (unary_from c₁).map fun argument c₂ _ hargument => ?_
      exact (hoperator.trans hargument).mono fun v hv => hv.2
    · exact postfix_from c
termination_by 16 * c.size + 5
decreasing_by all_goals omega

theorem postfix_from (c : Cursor) :
    (postfix_ c).From c fun e rest => c.Spans rest fun v => e.Fits v := by
  rw [postfix_]
  refine (call_from c).bindLoose fun argument c₁ h₁ hargument => ?_
  split
  · exact Parsed.from_done hargument
  · next operator c₂ h₂ htake =>
    obtain ⟨_, -, hoperator⟩ := Cursor.spans_of_take? htake
    split
    · split
      · next htarget =>
        refine .relax (Parsed.from_ok hoperator ?_)
        refine ((hargument.line h₁).trans hoperator).mono fun v hv => ?_
        exact ⟨htarget, hv.1.1, hv.1.2⟩
      · exact Parsed.from_fault
    · exact Parsed.from_done hargument
termination_by 16 * c.size + 4
decreasing_by all_goals omega

theorem call_from (c : Cursor) :
    (call c).From c fun e rest => c.Spans rest fun v => e.Fits v := by
  rw [call]
  refine (operand_from c).bindLoose fun callee c₁ _ hcallee => ?_
  refine (suffixes_from true callee c₁).mono fun e c₂ _ hsuffixes => ?_
  exact (hcallee.trans hsuffixes).mono fun v hv => hv.2 hv.1
termination_by 16 * c.size + 3
decreasing_by all_goals omega

theorem operand_from (c : Cursor) :
    (operand c).From c fun e rest => c.Spans rest fun v => e.Fits v := by
  rw [operand]
  split
  · exact primary_from c
  · next c₁ h₁ heat =>
    have hnew := Cursor.spans_of_eatKind? heat
    refine .resume ?_ h₁ hnew
    refine (operand_from c₁).bindLoose fun inner c₂ _ hinner => ?_
    refine (suffixes_from false inner c₂).bindLoose fun callee c₃ _ hcallee => ?_
    split
    · refine Parsed.from_done ((hnew.trans (hinner.trans hcallee)).mono fun v hv => ?_)
      exact ⟨hv.2.2 hv.2.1, trivial⟩
    · next c₄ h₄ heat₄ =>
      have hparen := Cursor.spans_of_eatKind? heat₄
      refine .relax (.resume ?_ h₄ hparen)
      refine (arguments_from c₄).map fun items c₅ _ hitems => ?_
      have hall := hnew.trans (hinner.trans (hcallee.trans (hparen.trans hitems)))
      exact hall.mono fun v ⟨_, hinner, hcallee, _, hitems⟩ => ⟨hcallee hinner, hitems⟩
termination_by 16 * c.size + 2
decreasing_by all_goals omega

theorem suffixes_from (calls : Bool) (object : Expression) (c : Cursor) :
    (suffixes calls object c).From c fun e rest =>
      c.Spans rest fun v => object.Fits v → e.Fits v := by
  rw [suffixes]
  split
  · next c₁ h₁ hnext =>
    have hdot := Cursor.spans_of_next? hnext
    refine .relax (.resume ?_ h₁ hdot)
    refine c₁.expectName_from.bindLoose fun property c₂ _ hproperty => ?_
    refine (suffixes_from calls (.member object property) c₂).mono fun e c₃ _ hrest => ?_
    refine (hdot.trans (hproperty.2.trans hrest)).mono fun v hv hobject => ?_
    exact hv.2.2 ⟨hobject, hv.2.1⟩
  · next c₁ h₁ hnext =>
    have hopen := Cursor.spans_of_next? hnext
    refine .relax (.resume ?_ h₁ hopen)
    refine (expression_from c₁).bind fun property c₂ _ hproperty => ?_
    refine (c₂.expect_from .rightBracket).bindLoose fun _ c₃ _ hclose => ?_
    refine (suffixes_from calls (.index object property) c₃).mono fun e c₄ _ hrest => ?_
    refine (hopen.trans (hproperty.trans (hclose.trans hrest))).mono fun v hv hobject => ?_
    exact hv.2.2.2 ⟨hobject, hv.2.1⟩
  · next c₁ h₁ hnext =>
    have hopen := Cursor.spans_of_next? hnext
    split
    · refine .relax (.resume ?_ h₁ hopen)
      refine (arguments_from c₁).bindLoose fun items c₂ _ hitems => ?_
      refine (suffixes_from calls (.call object items) c₂).mono fun e c₃ _ hrest => ?_
      refine (hopen.trans (hitems.trans hrest)).mono fun v hv hobject => ?_
      exact hv.2.2 ⟨hobject, hv.2.1⟩
    · exact Parsed.from_done (.refl fun _ hobject => hobject)
  · exact Parsed.from_done (.refl fun _ hobject => hobject)
termination_by 16 * c.size
decreasing_by all_goals omega

theorem arguments_from (c : Cursor) :
    (arguments c).From c fun items rest => c.Spans rest fun v => itemsFit v items := by
  rw [arguments]
  split
  · next c₁ h₁ heat =>
    have hclose := Cursor.spans_of_eatKind? heat
    exact Parsed.from_ok hclose (hclose.mono fun _ _ => trivial)
  · refine (assignment_from c).bind fun item c₁ _ hitem => ?_
    split
    · next c₂ h₂ heat =>
      have hcomma := Cursor.spans_of_eatKind? heat
      refine .resume ?_ h₂ hcomma
      refine (arguments_from c₂).map fun items c₃ _ hitems => ?_
      exact (hitem.trans (hcomma.trans hitems)).mono fun v hv => ⟨hv.1, hv.2.2⟩
    · refine (c₁.expect_from .rightParen).map fun _ c₂ _ hclose => ?_
      exact (hitem.trans hclose).mono fun v hv => ⟨hv.1, trivial⟩
termination_by 16 * c.size + 10
decreasing_by all_goals omega

theorem primary_from (c : Cursor) :
    (primary c).From c fun e rest => c.Spans rest fun v => e.Fits v := by
  rw [primary]
  split
  · next value c₁ h₁ htake =>
    obtain ⟨k, hk, hspans⟩ := Cursor.spans_of_take? htake
    exact Parsed.from_ok hspans (hspans.mono fun v hv => fits_of_literalOf? hk hv)
  · split
    · next name c₁ h₁ hnext =>
      have hspans := Cursor.spans_of_next? hnext
      exact Parsed.from_ok hspans (hspans.mono fun v hv => ⟨hv.2, hv.1⟩)
    · next c₁ h₁ hnext =>
      have hspans := Cursor.spans_of_next? hnext
      exact Parsed.from_ok hspans (hspans.mono fun _ _ => trivial)
    · next c₁ h₁ hnext =>
      have hopen := Cursor.spans_of_next? hnext
      refine .resume ?_ h₁ hopen
      refine (expression_from c₁).bind fun inner c₂ _ hinner => ?_
      refine (c₂.expect_from .rightParen).map fun _ c₃ _ hclose => ?_
      exact (hopen.trans (hinner.trans hclose)).mono fun v hv => hv.2.1
    · next c₁ h₁ hnext =>
      have hopen := Cursor.spans_of_next? hnext
      refine .resume ?_ h₁ hopen
      refine (elements_from c₁).map fun items c₂ _ hitems => ?_
      exact (hopen.trans hitems).mono fun v hv => hv.2
    · next c₁ h₁ hnext =>
      have hopen := Cursor.spans_of_next? hnext
      refine .resume ?_ h₁ hopen
      refine (properties_from c₁).map fun items c₂ _ hitems => ?_
      exact (hopen.trans hitems).mono fun v hv => hv.2
    · exact Parsed.from_unsupported
    · exact Parsed.from_unsupported
    · exact Parsed.from_fault
termination_by 16 * c.size + 1
decreasing_by all_goals omega

theorem elements_from (c : Cursor) :
    (elements c).From c fun items rest => c.Spans rest fun v => elementsFit v items := by
  rw [elements]
  split
  · next c₁ h₁ heat =>
    have hclose := Cursor.spans_of_eatKind? heat
    exact Parsed.from_ok hclose (hclose.mono fun _ _ => trivial)
  · split
    · next c₁ h₁ heat =>
      have hcomma := Cursor.spans_of_eatKind? heat
      refine .resume ?_ h₁ hcomma
      refine (elements_from c₁).map fun items c₂ _ hitems => ?_
      exact (hcomma.trans hitems).mono fun v hv => hv.2
    · refine (assignment_from c).bind fun item c₁ _ hitem => ?_
      split
      · next c₂ h₂ heat =>
        have hclose := Cursor.spans_of_eatKind? heat
        refine Parsed.from_ok hclose ((hitem.trans hclose).mono fun v hv => ?_)
        exact ⟨hv.1, trivial⟩
      · refine (c₁.expect_from .comma).bind fun _ c₂ _ hcomma => ?_
        refine (elements_from c₂).map fun items c₃ _ hitems => ?_
        exact (hitem.trans (hcomma.trans hitems)).mono fun v hv => ⟨hv.1, hv.2.2⟩
termination_by 16 * c.size + 10
decreasing_by all_goals omega

theorem properties_from (c : Cursor) :
    (properties c).From c fun items rest => c.Spans rest fun v => propertiesFit v items := by
  rw [properties]
  split
  · next c₁ h₁ heat =>
    have hclose := Cursor.spans_of_eatKind? heat
    exact Parsed.from_ok hclose (hclose.mono fun _ _ => trivial)
  · refine (propertyKey_from c).bind fun key c₁ _ hkey => ?_
    refine (c₁.expect_from .colon).bind fun _ c₂ _ hcolon => ?_
    refine (assignment_from c₂).bind fun value c₃ _ hvalue => ?_
    split
    · next c₄ h₄ heat =>
      have hclose := Cursor.spans_of_eatKind? heat
      have hall := hkey.trans (hcolon.trans (hvalue.trans hclose))
      refine Parsed.from_ok hclose (hall.mono fun v ⟨hkey, _, hvalue, _⟩ => ?_)
      exact ⟨hkey, hvalue, trivial⟩
    · refine (c₃.expect_from .comma).bind fun _ c₄ _ hcomma => ?_
      refine (properties_from c₄).map fun rest c₅ _ hrest => ?_
      have hall := hkey.trans (hcolon.trans (hvalue.trans (hcomma.trans hrest)))
      exact hall.mono fun v ⟨hkey, _, hvalue, _, hrest⟩ => ⟨hkey, hvalue, hrest⟩
termination_by 16 * c.size + 10
decreasing_by all_goals omega

end

theorem parenthesized_from (c : Cursor) :
    (parenthesized c).From c fun e rest => c.Spans rest fun v => e.Fits v := by
  refine (c.expect_from .leftParen).bind fun _ c₁ _ hopen => ?_
  refine (expression_from c₁).bind fun inner c₂ _ hinner => ?_
  refine (c₂.expect_from .rightParen).map fun _ c₃ _ hclose => ?_
  exact (hopen.trans (hinner.trans hclose)).mono fun v hv => hv.2.1

end ScriptSteps.Grammar
