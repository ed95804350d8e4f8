import Mathlib
import ScriptSteps.Grammar.Statement
import ScriptSteps.Proofs.Grammar.Spans

/-!
# What a failed parse complains of

A parse that fails says which token it did not expect, or which construct has no rule. The token is
always one of the text: what an error says is over any vocabulary that the tokens are over.

## Main definitions

* `Cursor.Over`: the tokens still to be read are over a vocabulary
* `Error.Fits`: the errors that speak only of tokens over a vocabulary
* `Parsed.Blames`: what is promised of the errors of a rule

## Main statements

* `Grammar.program_blames`: an error of the rule for programs speaks only of tokens it was given
-/

namespace ScriptSteps

/-! ## Tokens -/

namespace Cursor

variable {c d : Cursor} {v : Vocabulary} {p : Vocabulary → Prop}

/-- The tokens still to be read are over a vocabulary. -/
def Over (c : Cursor) (v : Vocabulary) : Prop := ∀ t ∈ c.terminals, v.AdmitsKind t.kind

theorem Over.kind (h : c.Over v) : v.AdmitsKind c.kind := by
  obtain ⟨previous, terminals, finish⟩ := c
  cases terminals with
  | nil => trivial
  | cons t ts => exact h t List.mem_cons_self

theorem Over.after (h : c.Over v) (hspans : c.Spans d p) : d.Over v := by
  obtain ⟨used, hpasses, -⟩ := hspans
  intro t ht
  refine h t ?_
  rw [hpasses.terminals]
  exact List.mem_append_right used ht

end Cursor

/-! ## Errors -/

/-- The problems that speak only of tokens over a vocabulary. -/
def Problem.Fits (v : Vocabulary) : Problem → Prop
  | unexpected found | expectedIdentifier found => v.AdmitsKind found
  | expected wanted found => v.AdmitsKind wanted ∧ v.AdmitsKind found
  | missingInitializer | newlineAfterThrow | missingHandler | assignmentTarget | updateTarget
  | unaryBeforeExponent => True

/-- The constructs that are recognised and have no rule. -/
def Grammar.withoutRule : List String :=
  ["FunctionExpression", "ClassExpression", "LabeledStatement", "ForInStatement",
   "ForOfStatement"]

/-- The errors of a parse that speak only of tokens over a vocabulary. -/
def Error.Fits (v : Vocabulary) : Error → Prop
  | malformed problem _ => problem.Fits v
  | unsupported construct _ => construct ∈ Grammar.withoutRule
  | unreadable _ _ => False

namespace Parsed

variable {α β : Type} {m n : ℕ} {c d : Cursor} {v : Vocabulary}

/-- A rule that fails speaks only of tokens over a vocabulary; one that succeeds stops before such
tokens. -/
def Blames (p : Parsed α n) (v : Vocabulary) : Prop :=
  match p with
  | ok _ rest _ => rest.Over v
  | error cause _ => cause.Fits v

theorem Blames.of_error {p : Parsed α n} (hp : p.Blames v) {e : Error}
    (h : p.toExcept = .error e) : e.Fits v := by
  cases p with
  | ok value rest fewer => cases h
  | error cause stop =>
    obtain rfl : cause = e := Except.error.inj h
    exact hp

theorem blames_done {value : α} (h : c.Over v) : (done value c).Blames v := h

theorem blames_unexpected (h : c.Over v) : (error c.unexpected d : Parsed α n).Blames v := h.kind

theorem blames_withoutRule {construct : String} {line : ℕ} (h : construct ∈ Grammar.withoutRule) :
    (error (.unsupported construct line) d : Parsed α n).Blames v := h

theorem Blames.widen {p : Parsed α m} (hp : p.Blames v) (h : m ≤ n) : (p.widen h).Blames v := by
  cases p <;> exact hp

theorem Blames.relax {p : Parsed α n} (hp : p.Blames v) : p.relax.Blames v := hp.widen _

theorem Blames.resume {p : Parsed α d.size} (hp : p.Blames v) (h : d.size < c.size) :
    (p.resume h : Parsed α c.size).Blames v := hp.widen _

theorem Blames.resumeLoose {p : Parsed α (d.size + 1)} (hp : p.Blames v) (h : d.size < c.size) :
    (p.resumeLoose h : Parsed α c.size).Blames v := hp.widen _

theorem Blames.map {p : Parsed α n} {f : α → β} (hp : p.Blames v) : (p.map f).Blames v := by
  cases p <;> exact hp

theorem Blames.bind {p : Parsed α n} (hp : p.Blames v)
    {f : α → (rest : Cursor) → rest.size < n → Parsed β rest.size}
    (hf : ∀ value rest fewer, rest.Over v → (f value rest fewer).Blames v) :
    (p.bind f).Blames v := by
  cases p with
  | ok value rest fewer => exact (hf value rest fewer hp).widen (Nat.le_of_lt fewer)
  | error cause stop => exact hp

theorem Blames.bindLoose {p : Parsed α n} (hp : p.Blames v)
    {f : α → (rest : Cursor) → rest.size < n → Parsed β (rest.size + 1)}
    (hf : ∀ value rest fewer, rest.Over v → (f value rest fewer).Blames v) :
    (p.bindLoose f).Blames v := by
  cases p with
  | ok value rest fewer => exact (hf value rest fewer hp).widen fewer
  | error cause stop => exact hp

end Parsed

open Parsed Cursor

section Tokens

variable {c : Cursor} {v : Vocabulary}

theorem Cursor.Over.expectKind (h : c.Over v) {k : TokenKind} (hk : v.AdmitsKind k) :
    (c.expectKind k).Blames v := by
  unfold Cursor.expectKind
  split
  · next heat => exact h.after (spans_of_eatKind? heat)
  · exact ⟨hk, h.kind⟩

theorem Cursor.Over.expect (h : c.Over v) (sign : Punctuator) : (c.expect sign).Blames v :=
  h.expectKind (k := .punctuator sign) trivial

theorem Cursor.Over.expectName (h : c.Over v) : c.expectName.Blames v := by
  unfold Cursor.expectName
  split
  · next heat => exact h.after (spans_of_eatName? heat).2
  · exact h.kind

theorem Cursor.Over.endStatement (h : c.Over v) : c.endStatement.Blames v := by
  unfold Cursor.endStatement
  split
  · next heat => exact h.after (spans_of_eatKind? heat)
  · split
    · exact blames_done h
    · exact blames_unexpected h

end Tokens

namespace Grammar

variable {v : Vocabulary}

/-! ## Expressions -/

theorem propertyKey_blames {c : Cursor} (hc : c.Over v) : (propertyKey c).Blames v := by
  unfold propertyKey
  split
  · next hnext => exact hc.after (spans_of_next? hnext)
  · next hnext => exact hc.after (spans_of_next? hnext)
  · exact hc.expectName.map

mutual

theorem expression_blames (c : Cursor) (hc : c.Over v) : (expression c).Blames v := by
  rw [expression]
  refine (assignment_blames c hc).bindLoose fun first c₁ _ hc₁ => ?_
  exact (sequenceRest_blames c₁ hc₁).map
termination_by 16 * c.size + 10
decreasing_by all_goals omega

theorem sequenceRest_blames (c : Cursor) (hc : c.Over v) : (sequenceRest c).Blames v := by
  rw [sequenceRest]
  split
  · exact blames_done hc
  · next c₁ h₁ heat =>
    refine .relax (.resume ?_ h₁)
    refine (assignment_blames c₁ (hc.after (spans_of_eatKind? heat))).bindLoose
      fun item c₂ _ hc₂ => ?_
    exact (sequenceRest_blames c₂ hc₂).map
termination_by 16 * c.size
decreasing_by all_goals omega

theorem assignment_blames (c : Cursor) (hc : c.Over v) : (assignment c).Blames v := by
  rw [assignment]
  refine (conditional_blames c hc).bindLoose fun target c₁ _ hc₁ => ?_
  split
  · exact blames_done hc₁
  · next operator c₂ h₂ htake =>
    obtain ⟨_, -, hoperator⟩ := spans_of_take? htake
    split
    · exact .relax (.resume (assignment_blames c₂ (hc₁.after hoperator)).map h₂)
    · trivial
termination_by 16 * c.size + 9
decreasing_by all_goals omega

theorem conditional_blames (c : Cursor) (hc : c.Over v) : (conditional c).Blames v := by
  rw [conditional]
  refine (binary_blames .conditional c hc).bindLoose fun test c₁ _ hc₁ => ?_
  split
  · exact blames_done hc₁
  · next c₂ h₂ heat =>
    refine .relax (.resume ?_ h₂)
    refine (assignment_blames c₂ (hc₁.after (spans_of_eatKind? heat))).bind
      fun consequent c₃ _ hc₃ => ?_
    refine (hc₃.expect .colon).bind fun _ c₄ _ hc₄ => ?_
    exact (assignment_blames c₄ hc₄).map
termination_by 16 * c.size + 8
decreasing_by all_goals omega

theorem binary_blames (floor : Level) (c : Cursor) (hc : c.Over v) :
    (binary floor c).Blames v := by
  rw [binary]
  exact (exponent_blames c hc).bindLoose fun left c₁ _ hc₁ => binaryRest_blames floor left c₁ hc₁
termination_by 16 * c.size + 7
decreasing_by all_goals omega

theorem binaryRest_blames (floor : Level) (left : Expression) (c : Cursor) (hc : c.Over v) :
    (binaryRest floor left c).Blames v := by
  rw [binaryRest]
  split
  · exact blames_done hc
  · next operator c₁ h₁ htake =>
    obtain ⟨_, -, hoperator⟩ := spans_of_take? htake
    split
    · exact blames_done hc
    · refine .relax (.resume ?_ h₁)
      refine (binary_blames operator.level c₁ (hc.after hoperator)).bindLoose
        fun right c₂ _ hc₂ => ?_
      exact binaryRest_blames floor (.binary operator left right) c₂ hc₂
termination_by 16 * c.size
decreasing_by all_goals omega

theorem exponent_blames (c : Cursor) (hc : c.Over v) : (exponent c).Blames v := by
  rw [exponent]
  refine (unary_blames c hc).bindLoose fun base c₁ _ hc₁ => ?_
  split
  · exact blames_done hc₁
  · next c₂ h₂ heat =>
    split
    · trivial
    · exact .relax (.resume (exponent_blames c₂ (hc₁.after (spans_of_eatKind? heat))).map h₂)
termination_by 16 * c.size + 6
decreasing_by all_goals omega

theorem unary_blames (c : Cursor) (hc : c.Over v) : (unary c).Blames v := by
  rw [unary]
  split
  · next operator c₁ h₁ htake =>
    obtain ⟨_, -, hoperator⟩ := spans_of_take? htake
    refine .resume ?_ h₁
    refine (unary_blames c₁ (hc.after hoperator)).bindLoose fun argument c₂ _ hc₂ => ?_
    split
    · exact blames_done hc₂
    · trivial
  · split
    · next operator c₁ h₁ htake =>
      obtain ⟨_, -, hoperator⟩ := spans_of_take? htake
      exact .resume (unary_blames c₁ (hc.after hoperator)).map h₁
    · exact postfix_blames c hc
termination_by 16 * c.size + 5
decreasing_by all_goals omega

theorem postfix_blames (c : Cursor) (hc : c.Over v) : (postfix_ c).Blames v := by
  rw [postfix_]
  refine (call_blames c hc).bindLoose fun argument c₁ _ hc₁ => ?_
  split
  · exact blames_done hc₁
  · next operator c₂ h₂ htake =>
    obtain ⟨_, -, hoperator⟩ := spans_of_take? htake
    split
    · split
      · exact hc₁.after hoperator
      · trivial
    · exact blames_done hc₁
termination_by 16 * c.size + 4
decreasing_by all_goals omega

theorem call_blames (c : Cursor) (hc : c.Over v) : (call c).Blames v := by
  rw [call]
  exact (operand_blames c hc).bindLoose fun callee c₁ _ hc₁ => suffixes_blames true callee c₁ hc₁
termination_by 16 * c.size + 3
decreasing_by all_goals omega

theorem operand_blames (c : Cursor) (hc : c.Over v) : (operand c).Blames v := by
  rw [operand]
  split
  · exact primary_blames c hc
  · next c₁ h₁ heat =>
    refine .resume ?_ h₁
    refine (operand_blames c₁ (hc.after (spans_of_eatKind? heat))).bindLoose
      fun inner c₂ _ hc₂ => ?_
    refine (suffixes_blames false inner c₂ hc₂).bindLoose fun callee c₃ _ hc₃ => ?_
    split
    · exact blames_done hc₃
    · next c₄ h₄ heat₄ =>
      exact .relax (.resume (arguments_blames c₄ (hc₃.after (spans_of_eatKind? heat₄))).map h₄)
termination_by 16 * c.size + 2
decreasing_by all_goals omega

theorem suffixes_blames (calls : Bool) (object : Expression) (c : Cursor) (hc : c.Over v) :
    (suffixes calls object c).Blames v := by
  rw [suffixes]
  split
  · next c₁ h₁ hnext =>
    refine .relax (.resume ?_ h₁)
    refine (hc.after (spans_of_next? hnext)).expectName.bindLoose fun property c₂ _ hc₂ => ?_
    exact suffixes_blames calls (.member object property) c₂ hc₂
  · next c₁ h₁ hnext =>
    refine .relax (.resume ?_ h₁)
    refine (expression_blames c₁ (hc.after (spans_of_next? hnext))).bind
      fun property c₂ _ hc₂ => ?_
    refine (hc₂.expect .rightBracket).bindLoose fun _ c₃ _ hc₃ => ?_
    exact suffixes_blames calls (.index object property) c₃ hc₃
  · next c₁ h₁ hnext =>
    split
    · refine .relax (.resume ?_ h₁)
      refine (arguments_blames c₁ (hc.after (spans_of_next? hnext))).bindLoose
        fun items c₂ _ hc₂ => ?_
      exact suffixes_blames calls (.call object items) c₂ hc₂
    · exact blames_done hc
  · exact blames_done hc
termination_by 16 * c.size
decreasing_by all_goals omega

theorem arguments_blames (c : Cursor) (hc : c.Over v) : (arguments c).Blames v := by
  rw [arguments]
  split
  · next heat => exact hc.after (spans_of_eatKind? heat)
  · refine (assignment_blames c hc).bind fun item c₁ _ hc₁ => ?_
    split
    · next c₂ h₂ heat =>
      exact .resume (arguments_blames c₂ (hc₁.after (spans_of_eatKind? heat))).map h₂
    · exact (hc₁.expect .rightParen).map
termination_by 16 * c.size + 10
decreasing_by all_goals omega

theorem primary_blames (c : Cursor) (hc : c.Over v) : (primary c).Blames v := by
  rw [primary]
  split
  · next htake =>
    obtain ⟨_, -, hspans⟩ := spans_of_take? htake
    exact hc.after hspans
  · split
    · next hnext => exact hc.after (spans_of_next? hnext)
    · next hnext => exact hc.after (spans_of_next? hnext)
    · next c₁ h₁ hnext =>
      refine .resume ?_ h₁
      refine (expression_blames c₁ (hc.after (spans_of_next? hnext))).bind fun _ c₂ _ hc₂ => ?_
      exact (hc₂.expect .rightParen).map
    · next c₁ h₁ hnext =>
      exact .resume (elements_blames c₁ (hc.after (spans_of_next? hnext))).map h₁
    · next c₁ h₁ hnext =>
      exact .resume (properties_blames c₁ (hc.after (spans_of_next? hnext))).map h₁
    · exact blames_withoutRule (by simp [withoutRule])
    · exact blames_withoutRule (by simp [withoutRule])
    · exact blames_unexpected hc
termination_by 16 * c.size + 1
decreasing_by all_goals omega

theorem elements_blames (c : Cursor) (hc : c.Over v) : (elements c).Blames v := by
  rw [elements]
  split
  · next heat => exact hc.after (spans_of_eatKind? heat)
  · split
    · next c₁ h₁ heat =>
      exact .resume (elements_blames c₁ (hc.after (spans_of_eatKind? heat))).map h₁
    · refine (assignment_blames c hc).bind fun item c₁ _ hc₁ => ?_
      split
      · next heat => exact hc₁.after (spans_of_eatKind? heat)
      · refine (hc₁.expect .comma).bind fun _ c₂ _ hc₂ => ?_
        exact (elements_blames c₂ hc₂).map
termination_by 16 * c.size + 10
decreasing_by all_goals omega

theorem properties_blames (c : Cursor) (hc : c.Over v) : (properties c).Blames v := by
  rw [properties]
  split
  · next heat => exact hc.after (spans_of_eatKind? heat)
  · refine (propertyKey_blames hc).bind fun key c₁ _ hc₁ => ?_
    refine (hc₁.expect .colon).bind fun _ c₂ _ hc₂ => ?_
    refine (assignment_blames c₂ hc₂).bind fun value c₃ _ hc₃ => ?_
    split
    · next heat => exact hc₃.after (spans_of_eatKind? heat)
    · refine (hc₃.expect .comma).bind fun _ c₄ _ hc₄ => ?_
      exact (properties_blames c₄ hc₄).map
termination_by 16 * c.size + 10
decreasing_by all_goals omega

end

theorem parenthesized_blames {c : Cursor} (hc : c.Over v) : (parenthesized c).Blames v := by
  refine (hc.expect .leftParen).bind fun _ c₁ _ hc₁ => ?_
  refine (expression_blames c₁ hc₁).bind fun inner c₂ _ hc₂ => ?_
  exact (hc₂.expect .rightParen).map

/-! ## Parts without statements in them -/

theorem initializer_blames (kind : VariableKind) {c : Cursor} (hc : c.Over v) :
    (initializer kind c).Blames v := by
  unfold initializer
  split
  · next c₁ h₁ heat =>
    exact .relax (.resume (assignment_blames c₁ (hc.after (spans_of_eatKind? heat))).map h₁)
  · split
    · trivial
    · exact blames_done hc

theorem declarators_blames (kind : VariableKind) (c : Cursor) (hc : c.Over v) :
    (declarators kind c).Blames v := by
  rw [declarators]
  refine hc.expectName.bindLoose fun id c₁ _ hc₁ => ?_
  refine (initializer_blames kind hc₁).bindLoose fun init c₂ _ hc₂ => ?_
  split
  · exact blames_done hc₂
  · next c₃ h₃ heat =>
    exact .relax (.resume (declarators_blames kind c₃ (hc₂.after (spans_of_eatKind? heat))).map h₃)
termination_by c.size
decreasing_by all_goals omega

theorem declarationStatement_blames (kind : VariableKind) (line : ℕ) {c : Cursor}
    (hc : c.Over v) : (declarationStatement kind line c).Blames v :=
  (declarators_blames kind c hc).map.bindLoose fun _ _ _ hc₁ => hc₁.endStatement.map

theorem parameters_blames (c : Cursor) (hc : c.Over v) : (parameters c).Blames v := by
  rw [parameters]
  split
  · next heat => exact hc.after (spans_of_eatKind? heat)
  · refine hc.expectName.bind fun id c₁ _ hc₁ => ?_
    split
    · next c₂ h₂ heat =>
      exact .resume (parameters_blames c₂ (hc₁.after (spans_of_eatKind? heat))).map h₂
    · exact (hc₁.expect .rightParen).map
termination_by c.size
decreasing_by all_goals omega

theorem jump_blames (line : ℕ) {c : Cursor} (hc : c.Over v) : (jump line c).Blames v := by
  unfold jump
  split
  · next label c₁ h₁ heat =>
    split
    · exact .relax (.resumeLoose (hc.after (spans_of_eatName? heat).2).endStatement.map h₁)
    · exact hc.endStatement.map
  · exact hc.endStatement.map

theorem returned_blames (line : ℕ) {c : Cursor} (hc : c.Over v) :
    (returned line c).Blames v := by
  unfold returned
  split
  · exact hc.endStatement.map
  · refine .relax ((expression_blames c hc).bindLoose fun _ c₁ _ hc₁ => ?_)
    exact hc₁.endStatement.map

theorem thrown_blames (line : ℕ) {c : Cursor} (hc : c.Over v) : (thrown line c).Blames v := by
  unfold thrown
  split
  · trivial
  · refine .relax ((expression_blames c hc).bindLoose fun _ c₁ _ hc₁ => ?_)
    exact hc₁.endStatement.map

theorem expressionStatement_blames {c : Cursor} (hc : c.Over v) :
    (expressionStatement c).Blames v := by
  unfold expressionStatement
  split
  · exact blames_withoutRule (by simp [withoutRule])
  · exact (expression_blames c hc).bindLoose fun _ c₁ _ hc₁ => hc₁.endStatement.map

theorem forInit_blames {c : Cursor} (hc : c.Over v) : (forInit c).Blames v := by
  unfold forInit
  split
  · next kind c₁ h₁ htake =>
    obtain ⟨_, -, hword⟩ := spans_of_take? htake
    exact .relax (.resume (declarators_blames kind c₁ (hc.after hword)).map.map h₁)
  · split
    · exact blames_done hc
    · exact .relax (expression_blames c hc).map

theorem forClause_blames (close : Punctuator) {c : Cursor} (hc : c.Over v) :
    (forClause close c).Blames v := by
  unfold forClause
  split
  · next heat => exact hc.after (spans_of_eatKind? heat)
  · exact (expression_blames c hc).bind fun _ c₁ _ hc₁ => (hc₁.expect close).map

theorem mem_withoutRule_of_collectionLoop? {init : Option ForInit} {c : Cursor}
    {construct : String} (h : collectionLoop? init c = some construct) :
    construct ∈ withoutRule := by
  unfold collectionLoop? at h
  extract_lets isMembership at h
  split_ifs at h
  · obtain rfl := Option.some.inj h
    simp [withoutRule]
  · obtain rfl := Option.some.inj h
    simp [withoutRule]

theorem forHead_blames (line : ℕ) {c : Cursor} (hc : c.Over v) : (forHead line c).Blames v := by
  refine (hc.expect .leftParen).bindLoose fun _ c₁ _ hc₁ => ?_
  refine (forInit_blames hc₁).bind fun init c₂ _ hc₂ => ?_
  split
  · next hloop => exact blames_withoutRule (mem_withoutRule_of_collectionLoop? hloop)
  · refine (hc₂.expect .semicolon).bind fun _ c₃ _ hc₃ => ?_
    refine (forClause_blames .semicolon hc₃).bind fun test c₄ _ hc₄ => ?_
    exact (forClause_blames .rightParen hc₄).map

theorem caseTest_blames {c : Cursor} (hc : c.Over v) : (caseTest c).Blames v := by
  unfold caseTest
  split
  · next c₁ h₁ heat =>
    refine .resume ?_ h₁
    refine (expression_blames c₁ (hc.after (spans_of_eatKind? heat))).bind fun _ c₂ _ hc₂ => ?_
    exact (hc₂.expect .colon).map
  · split
    · next c₁ h₁ heat =>
      exact .resume ((hc.after (spans_of_eatKind? heat)).expect .colon).map h₁
    · exact blames_unexpected hc

theorem catchParameter_blames {c : Cursor} (hc : c.Over v) : (catchParameter c).Blames v := by
  unfold catchParameter
  split
  · exact blames_done hc
  · next c₁ h₁ heat =>
    refine .relax (.resume ?_ h₁)
    refine (hc.after (spans_of_eatKind? heat)).expectName.bind fun id c₂ _ hc₂ => ?_
    exact (hc₂.expect .rightParen).map

/-! ## Statements -/

mutual

theorem statement_blames (c : Cursor) (hc : c.Over v) : (statement c).Blames v := by
  rw [statement]
  split
  · next word c₁ h₁ hnext =>
    have hc₁ := hc.after (spans_of_next? hnext)
    split
    · exact .resume (declarationStatement_blames .var c.line hc₁) h₁
    · exact .resume (declarationStatement_blames .let_ c.line hc₁) h₁
    · exact .resume (declarationStatement_blames .const c.line hc₁) h₁
    · exact .resume (function_blames c.line c₁ hc₁) h₁
    · exact .resume (ifStatement_blames c.line c₁ hc₁) h₁
    · exact .resume (switch_blames c.line c₁ hc₁) h₁
    · refine .resume ((parenthesized_blames hc₁).bind fun _ c₂ _ hc₂ => ?_) h₁
      exact (body_blames c₂ hc₂).map
    · exact .resume (doWhile_blames c.line c₁ hc₁) h₁
    · refine .resume ((forHead_blames c.line hc₁).bind fun _ c₂ _ hc₂ => ?_) h₁
      exact (body_blames c₂ hc₂).map
    · exact .resumeLoose (returned_blames c.line hc₁).map h₁
    · exact .resumeLoose (jump_blames c.line hc₁).map h₁
    · exact .resumeLoose (jump_blames c.line hc₁).map h₁
    · exact .resumeLoose (thrown_blames c.line hc₁).map h₁
    · exact .resume (tryStatement_blames c.line c₁ hc₁) h₁
    · exact expressionStatement_blames hc
  · exact (block_blames c hc).map
  · next hnext => exact hc.after (spans_of_next? hnext)
  · exact expressionStatement_blames hc
termination_by 4 * c.size + 2
decreasing_by all_goals omega

theorem statements_blames (close : TokenKind) (c : Cursor) (hc : c.Over v) :
    (statements close c).Blames v := by
  rw [statements]
  split
  · exact blames_done hc
  · refine .relax ((statement_blames c hc).bindLoose fun first c₁ _ hc₁ => ?_)
    exact (statements_blames close c₁ hc₁).map
termination_by 4 * c.size + 3
decreasing_by all_goals omega

theorem block_blames (c : Cursor) (hc : c.Over v) : (block c).Blames v := by
  rw [block]
  refine (hc.expect .leftBrace).bindLoose fun _ c₁ _ hc₁ => ?_
  refine (statements_blames _ c₁ hc₁).bind fun inner c₂ _ hc₂ => ?_
  exact (hc₂.expect .rightBrace).map
termination_by 4 * c.size + 1
decreasing_by all_goals omega

theorem body_blames (c : Cursor) (hc : c.Over v) : (body c).Blames v := by
  rw [body]
  exact (statement_blames c hc).map
termination_by 4 * c.size + 3
decreasing_by all_goals omega

theorem function_blames (line : ℕ) (c : Cursor) (hc : c.Over v) :
    (function line c).Blames v := by
  rw [function]
  refine hc.expectName.bind fun id c₁ _ hc₁ => ?_
  refine (hc₁.expect .leftParen).bind fun _ c₂ _ hc₂ => ?_
  refine (parameters_blames c₂ hc₂).bind fun params c₃ _ hc₃ => ?_
  exact (block_blames c₃ hc₃).map
termination_by 4 * c.size
decreasing_by all_goals omega

theorem ifStatement_blames (line : ℕ) (c : Cursor) (hc : c.Over v) :
    (ifStatement line c).Blames v := by
  rw [ifStatement]
  refine (rung_blames line c hc).bindLoose fun first c₁ _ hc₁ => ?_
  exact (rungs_blames c₁ hc₁).map
termination_by 4 * c.size + 2
decreasing_by all_goals omega

theorem rung_blames (line : ℕ) (c : Cursor) (hc : c.Over v) : (rung line c).Blames v := by
  rw [rung]
  refine (parenthesized_blames hc).bind fun test c₁ _ hc₁ => ?_
  exact (body_blames c₁ hc₁).map
termination_by 4 * c.size + 1
decreasing_by all_goals omega

theorem rungs_blames (c : Cursor) (hc : c.Over v) : (rungs c).Blames v := by
  rw [rungs]
  split
  · exact blames_done hc
  · next c₁ h₁ heat =>
    have hc₁ := hc.after (spans_of_eatKind? heat)
    split
    · next c₂ h₂ heat₂ =>
      refine .relax (.resume (.resume ?_ h₂) h₁)
      refine (rung_blames c₁.line c₂ (hc₁.after (spans_of_eatKind? heat₂))).bindLoose
        fun first c₃ _ hc₃ => ?_
      exact (rungs_blames c₃ hc₃).map
    · exact .relax (.resume (body_blames c₁ hc₁).map h₁)
termination_by 4 * c.size
decreasing_by all_goals omega

theorem switch_blames (line : ℕ) (c : Cursor) (hc : c.Over v) : (switch line c).Blames v := by
  rw [switch]
  refine (parenthesized_blames hc).bind fun _ c₁ _ hc₁ => ?_
  refine (hc₁.expect .leftBrace).bind fun _ c₂ _ hc₂ => ?_
  exact (cases_blames c₂ hc₂).map
termination_by 4 * c.size
decreasing_by all_goals omega

theorem cases_blames (c : Cursor) (hc : c.Over v) : (cases c).Blames v := by
  rw [cases]
  split
  · next heat => exact hc.after (spans_of_eatKind? heat)
  · refine (caseTest_blames hc).bindLoose fun test c₁ _ hc₁ => ?_
    refine (caseBody_blames c₁ hc₁).bind fun consequent c₂ _ hc₂ => ?_
    exact (cases_blames c₂ hc₂).map
termination_by 4 * c.size
decreasing_by all_goals omega

theorem caseBody_blames (c : Cursor) (hc : c.Over v) : (caseBody c).Blames v := by
  rw [caseBody]
  split
  · exact blames_done hc
  · refine .relax ((statement_blames c hc).bindLoose fun first c₁ _ hc₁ => ?_)
    exact (caseBody_blames c₁ hc₁).map
termination_by 4 * c.size + 3
decreasing_by all_goals omega

theorem doWhile_blames (line : ℕ) (c : Cursor) (hc : c.Over v) : (doWhile line c).Blames v := by
  rw [doWhile]
  refine (body_blames c hc).bind fun inner c₁ _ hc₁ => ?_
  refine (hc₁.expectKind (k := .keyword .while_) trivial).bind fun _ c₂ _ hc₂ => ?_
  refine (parenthesized_blames hc₂).bindLoose fun test c₃ _ hc₃ => ?_
  split
  · next heat => exact hc₃.after (spans_of_eatKind? heat)
  · exact blames_done hc₃
termination_by 4 * c.size + 4
decreasing_by all_goals omega

theorem tryStatement_blames (line : ℕ) (c : Cursor) (hc : c.Over v) :
    (tryStatement line c).Blames v := by
  rw [tryStatement]
  refine (block_blames c hc).bindLoose fun inner c₁ _ hc₁ => ?_
  refine (handler_blames c₁ hc₁).bindLoose fun handler c₂ _ hc₂ => ?_
  refine (finalizer_blames c₂ hc₂).bindLoose fun finalizer c₃ _ hc₃ => ?_
  split
  · trivial
  · exact blames_done hc₃
termination_by 4 * c.size + 2
decreasing_by all_goals omega

theorem handler_blames (c : Cursor) (hc : c.Over v) : (handler c).Blames v := by
  rw [handler]
  split
  · exact blames_done hc
  · next c₁ h₁ heat =>
    refine .relax (.resumeLoose ?_ h₁)
    refine (catchParameter_blames (hc.after (spans_of_eatKind? heat))).bind
      fun param c₂ _ hc₂ => ?_
    exact (block_blames c₂ hc₂).map
termination_by 4 * c.size
decreasing_by all_goals omega

theorem finalizer_blames (c : Cursor) (hc : c.Over v) : (finalizer c).Blames v := by
  rw [finalizer]
  split
  · exact blames_done hc
  · next c₁ h₁ heat =>
    exact .relax (.resume (block_blames c₁ (hc.after (spans_of_eatKind? heat))).map h₁)
termination_by 4 * c.size
decreasing_by all_goals omega

end

/-- An error of the rule for programs speaks only of tokens that it was given. -/
theorem program_blames {c : Cursor} (hc : c.Over v) : (program c).Blames v :=
  statements_blames .endOfInput c hc

end Grammar

end ScriptSteps
