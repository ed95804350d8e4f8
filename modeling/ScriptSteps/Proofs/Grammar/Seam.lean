import Mathlib
import ScriptSteps.Proofs.Grammar.Joint

/-!
# Expressions inside a longer text

An expression is read the same in a longer text as on its own, up to the place where other tokens
begin, whichever seam is there. Rules that may read nothing stop at that place. Rules that have to
read something are not read there: in the text that ends they fail.

## Main statements

* `Joint.Reaches.strict`: a rule that has to read something starts before the place
* `Grammar.expression_reaches`: an expression is read the same in both texts
* `Grammar.expression_ends_foreign`: no text that ends with a foreign token is one expression
-/

namespace ScriptSteps

/-! ## Where no expression goes on -/

/-- No expression goes on with the next token, if there is one. -/
def Cursor.EndsExpression (c : Cursor) : Prop := ∀ t ∈ c.terminals.head?, t.kind.joins = none

namespace Cursor.EndsExpression

variable {c : Cursor}

theorem take? (h : c.EndsExpression) {α : Type} {meaning : TokenKind → Option α}
    (hmeaning : ∀ k value, meaning k = some value → k.joins ≠ none) : c.take? meaning = none := by
  obtain ⟨previous, terminals, endLine⟩ := c
  cases terminals with
  | nil => rfl
  | cons t ts =>
    cases hkind : meaning t.kind with
    | none => simp [Cursor.take?, Cursor.next?, hkind]
    | some value => exact absurd (h t rfl) (hmeaning t.kind value hkind)

theorem eat? (h : c.EndsExpression) {sign : Punctuator}
    (hsign : (TokenKind.punctuator sign).joins ≠ none) : c.eat? sign = none := by
  refine Cursor.eatKind?_eq_none fun hkind => hsign ?_
  obtain ⟨previous, terminals, endLine⟩ := c
  cases terminals with
  | nil => cases hkind
  | cons t ts =>
    rw [← hkind]
    exact h t rfl

end Cursor.EndsExpression

theorem Grammar.suffixes_of_endsExpression {c : Cursor} (h : c.EndsExpression) (calls : Bool)
    (object : Expression) :
    suffixes calls object c = .done object c := by
  obtain ⟨previous, terminals, endLine⟩ := c
  rw [suffixes]
  split
  case h_1 hnext | h_2 hnext | h_3 hnext =>
    cases terminals with
    | nil => cases hnext
    | cons t ts =>
      have hnone := h t rfl
      simp only [Cursor.next?, Option.some.injEq, Prod.mk.injEq] at hnext
      rw [hnext.1] at hnone
      cases hnone
  case h_4 => rfl

/-! ## The place where other tokens begin -/

variable {j : Joint} {s : Seam} {c c' d : Cursor}

namespace Joint.Reaches

/-- Before a token that both texts have. -/
theorem ahead (h : j.Reaches s c c') (hlt : d.size < c.size) : j.Ahead s c c' where
  toMeets := h.toMeets
  before hnil := by simp [Cursor.size, hnil] at hlt

theorem ahead_or_ends (h : j.Reaches s c c') :
    j.Ahead s c c' ∨ c.EndsExpression ∧ c'.EndsExpression := by
  by_cases hbefore : j.Before c
  · exact .inl ⟨h.toMeets, hbefore⟩
  · obtain ⟨hnil, hmore⟩ := Classical.not_imp.1 hbefore
    obtain rfl := h.place.resolve_right hbefore
    obtain ⟨t, ht, hjoins⟩ := h.seam.resolve_left hmore
    refine .inr ⟨by simp [Cursor.EndsExpression, hnil], fun t' ht' => ?_⟩
    rw [h.terminals, hnil] at ht'
    obtain rfl : t = t' := Option.some.inj (Option.mem_def.1 ht ▸ ht')
    exact hjoins

theorem take? {α : Type} (h : j.Reaches s c c') (meaning : TokenKind → Option α)
    (hmeaning : ∀ k value, meaning k = some value → k.joins ≠ none) :
    (c.take? meaning = none ∧ c'.take? meaning = none)
    ∨ ∃ value d hd d' hd', c.take? meaning = some (value, ⟨d, hd⟩)
      ∧ c'.take? meaning = some (value, ⟨d', hd'⟩) ∧ j.Reaches s d d' := by
  obtain hahead | ⟨hends, hends'⟩ := h.ahead_or_ends
  · have hnone : ∀ k, k.joins = none → meaning k = none := fun k hk =>
      Option.eq_none_iff_forall_ne_some.2 fun value hvalue => hmeaning k value hvalue hk
    exact hahead.take? meaning ⟨hnone _ rfl, hnone _ rfl⟩
  · exact .inl ⟨hends.take? hmeaning, hends'.take? hmeaning⟩

theorem eat? (h : j.Reaches s c c') (sign : Punctuator)
    (hsign : (TokenKind.punctuator sign).joins ≠ none) :
    (c.eat? sign = none ∧ c'.eat? sign = none)
    ∨ ∃ d hd d' hd', c.eat? sign = some ⟨d, hd⟩ ∧ c'.eat? sign = some ⟨d', hd'⟩
      ∧ j.Reaches s d d' := by
  obtain hahead | ⟨hends, hends'⟩ := h.ahead_or_ends
  · refine hahead.eat? sign ?_
    rintro rfl
    exact hsign rfl
  · exact .inl ⟨hends.eat? hsign, hends'.eat? hsign⟩

variable {α : Type} [HasLines α] {n : ℕ} {R : Cursor → Cursor → Prop}

/-- A rule that has to read something starts before the place where other tokens begin, or it fails
in the text that ends there. -/
theorem strict (h : j.Reaches s c c') {p : Parsed α c.size} {p' : Parsed α n}
    (hp : j.Ahead s c c' → p.Joined j R p') : p.Joined j R p' := by
  by_cases hbefore : j.Before c
  · exact hp ⟨h.toMeets, hbefore⟩
  · have hfails : (p.widen le_rfl).Joined j R p' := .of_not_before hbefore p le_rfl
    cases p <;> exact hfails

theorem joined_fault {m : ℕ} (h : j.Reaches s c c') (problem : Problem) {stop stop' : Cursor} :
    (.error (c.fault problem) stop : Parsed α m).Joined j R
      (.error (c'.fault problem) stop' : Parsed α n) := by
  intro hnone
  have hahead : j.Ahead s c c' := ⟨h.toMeets, fun _ => hnone⟩
  exact ⟨stop', by rw [hahead.fault]⟩

end Joint.Reaches

/-- What a rule gives in a text it gives in the longer one. -/
theorem Parsed.Gives.joined {α : Type} [HasLines α] {m n : ℕ} {R : Cursor → Cursor → Prop}
    {p : Parsed α m} {p' : Parsed α n} {value : α} {rest : Cursor} (h : p.Gives value rest)
    (hp : p.Joined j R p') : ∃ rest', p'.Gives (moved j.lines value) rest' ∧ R rest rest' := by
  obtain ⟨_, rfl⟩ := h
  obtain ⟨rest', _, rfl, hrest⟩ := hp
  exact ⟨rest', gives_ok _ _ _, hrest⟩

/-- One rule after another that has to read something. -/
theorem Parsed.Joined.bindAhead {α β : Type} [HasLines α] [HasLines β] {m n : ℕ}
    {R : Cursor → Cursor → Prop} {p : Parsed α m} {p' : Parsed α n}
    (hp : p.Joined j (j.Reaches s) p')
    {f : α → (rest : Cursor) → rest.size < m → Parsed β rest.size}
    {f' : α → (rest : Cursor) → rest.size < n → Parsed β rest.size}
    (hf : ∀ value rest rest' (fewer : rest.size < m) (fewer' : rest'.size < n),
      j.Ahead s rest rest' →
      (f value rest fewer).Joined j R (f' (moved j.lines value) rest' fewer')) :
    (p.bind f).Joined j R (p'.bind f') :=
  hp.bind fun value rest rest' fewer fewer' hrest =>
    hrest.strict (hf value rest rest' fewer fewer')

namespace Grammar

/-! ## Rules in two parts -/

/-- What comes after the test of a conditional, if it is one. -/
def conditionalRest (test : Expression) (c : Cursor) : Parsed Expression (c.size + 1) :=
  match c.eat? .question with
  | none => .done test c
  | some ⟨c₁, h₁⟩ =>
    .relax <| .resume h₁ <| (assignment c₁).bind fun consequent c₂ _ =>
    (c₂.expect .colon).bind fun _ c₃ _ =>
    (assignment c₃).map fun alternate => .conditional test consequent alternate

theorem conditional_eq_conditionalRest (c : Cursor) :
    conditional c = (binary .conditional c).bindLoose fun test c₁ _ => conditionalRest test c₁ := by
  rw [conditional]
  rfl

/-- What comes after the target of an assignment that starts on a line, if it is one. -/
def assignmentRest (line : ℕ) (target : Expression) (c : Cursor) :
    Parsed Expression (c.size + 1) :=
  match c.take? AssignmentOperator.ofKind? with
  | none => .done target c
  | some (operator, ⟨c₁, h₁⟩) =>
    if target.isTarget then
      .relax <| .resume h₁ <| (assignment c₁).map fun value =>
        .assignment operator target value line
    else .error (c.fault .assignmentTarget) c

theorem assignment_eq_assignmentRest (c : Cursor) :
    assignment c = (conditional c).bindLoose fun target c₁ _ =>
      assignmentRest c.line target c₁ := by
  rw [assignment]
  rfl

/-! ## Rules in both texts -/

theorem propertyKey_reaches (h : j.Ahead s c c') :
    (propertyKey c).Joined j (j.Reaches s) (propertyKey c') := by
  unfold propertyKey
  obtain ⟨hnext, hnext'⟩ | ⟨k, d, hd, d', hd', hnext, hnext', -, hafter⟩ := h.next?
  · rw [hnext, hnext']
    exact h.expectName.map fun _ => rfl
  · rw [hnext, hnext']
    cases k with
    | string value => exact Parsed.joined_ok (hafter (h.ne_last rfl)) rfl
    | number value => exact Parsed.joined_ok (hafter (h.ne_last rfl)) rfl
    | _ => exact h.expectName.map fun _ => rfl

mutual

theorem expression_reaches {c c' : Cursor} (h : j.Ahead s c c') :
    (expression c).Joined j (j.Reaches s) (expression c') := by
  rw [expression, expression]
  refine (assignment_reaches h).bindLoose fun first c₁ c₁' _ _ h₁ => ?_
  refine (sequenceRest_reaches h₁).map fun rest => ?_
  cases rest <;> simp
termination_by 16 * c.size + 10
decreasing_by all_goals omega

theorem sequenceRest_reaches {c c' : Cursor} (h : j.Reaches s c c') :
    (sequenceRest c).Joined j (j.Reaches s) (sequenceRest c') := by
  rw [sequenceRest, sequenceRest]
  obtain ⟨heat, heat'⟩ | ⟨c₁, h₁, c₁', h₁', heat, heat', hcomma⟩ := h.eat? .comma (by decide)
  · rw [heat, heat']
    exact Parsed.joined_done h rfl
  · rw [heat, heat']
    refine .relax (.resume ?_)
    refine (hcomma.strict fun h₀ => assignment_reaches h₀).bindLoose fun item c₂ c₂' _ _ h₂ => ?_
    exact (sequenceRest_reaches h₂).map fun rest => rfl
termination_by 16 * c.size
decreasing_by all_goals omega

theorem assignment_reaches {c c' : Cursor} (h : j.Ahead s c c') :
    (assignment c).Joined j (j.Reaches s) (assignment c') := by
  rw [assignment_eq_assignmentRest, assignment_eq_assignmentRest, h.line]
  exact (conditional_reaches h).bindLoose fun target c₁ c₁' _ _ h₁ =>
    assignmentRest_reaches c.line target h₁
termination_by 16 * c.size + 9
decreasing_by all_goals omega

theorem assignmentRest_reaches {c c' : Cursor} (line : ℕ) (target : Expression)
    (h : j.Reaches s c c') :
    (assignmentRest line target c).Joined j (j.Reaches s)
      (assignmentRest (line + j.lines) (moved j.lines target) c') := by
  rw [assignmentRest, assignmentRest]
  obtain ⟨htake, htake'⟩ | ⟨operator, c₁, h₁, c₁', h₁', htake, htake', hoperator⟩ :=
    h.take? AssignmentOperator.ofKind? fun _ _ h => by simp [joins_of_assignment h]
  · rw [htake, htake']
    exact Parsed.joined_done h rfl
  · rw [htake, htake']
    simp only [moved_expression, Expression.isTarget_addLines]
    split
    · refine .relax (.resume ?_)
      exact (hoperator.strict fun h₀ => assignment_reaches h₀).map fun value => by simp
    · exact h.joined_fault _
termination_by 16 * c.size
decreasing_by all_goals omega

theorem conditional_reaches {c c' : Cursor} (h : j.Ahead s c c') :
    (conditional c).Joined j (j.Reaches s) (conditional c') := by
  rw [conditional_eq_conditionalRest, conditional_eq_conditionalRest]
  exact (binary_reaches .conditional h).bindLoose fun test c₁ c₁' _ _ h₁ =>
    conditionalRest_reaches test h₁
termination_by 16 * c.size + 8
decreasing_by all_goals omega

theorem conditionalRest_reaches {c c' : Cursor} (test : Expression) (h : j.Reaches s c c') :
    (conditionalRest test c).Joined j (j.Reaches s)
      (conditionalRest (moved j.lines test) c') := by
  rw [conditionalRest, conditionalRest]
  obtain ⟨heat, heat'⟩ | ⟨c₁, h₁, c₁', h₁', heat, heat', hquestion⟩ := h.eat? .question (by decide)
  · rw [heat, heat']
    exact Parsed.joined_done h rfl
  · rw [heat, heat']
    refine .relax (.resume ?_)
    refine (hquestion.strict fun h₀ => assignment_reaches h₀).bindAhead
      fun consequent c₂ c₂' _ _ h₂ => ?_
    refine (h₂.expect .colon (by decide)).bindAhead fun _ c₃ c₃' _ _ h₃ => ?_
    exact (assignment_reaches h₃).map fun alternate => rfl
termination_by 16 * c.size
decreasing_by all_goals omega

theorem binary_reaches {c c' : Cursor} (floor : Level) (h : j.Ahead s c c') :
    (binary floor c).Joined j (j.Reaches s) (binary floor c') := by
  rw [binary, binary]
  exact (exponent_reaches h).bindLoose fun left c₁ c₁' _ _ h₁ => binaryRest_reaches floor left h₁
termination_by 16 * c.size + 7
decreasing_by all_goals omega

theorem binaryRest_reaches {c c' : Cursor} (floor : Level) (left : Expression)
    (h : j.Reaches s c c') :
    (binaryRest floor left c).Joined j (j.Reaches s)
      (binaryRest floor (moved j.lines left) c') := by
  rw [binaryRest, binaryRest]
  obtain ⟨htake, htake'⟩ | ⟨operator, c₁, h₁, c₁', h₁', htake, htake', hoperator⟩ :=
    h.take? BinaryOperator.ofKind? fun _ _ h => by simp [joins_of_binary h]
  · rw [htake, htake']
    exact Parsed.joined_done h rfl
  · rw [htake, htake']
    dsimp only
    split
    · exact Parsed.joined_done h rfl
    · refine .relax (.resume ?_)
      refine (hoperator.strict fun h₀ => binary_reaches operator.level h₀).bindLoose
        fun right c₂ c₂' _ _ h₂ => ?_
      exact binaryRest_reaches floor (.binary operator left right) h₂
termination_by 16 * c.size
decreasing_by all_goals omega

theorem exponent_reaches {c c' : Cursor} (h : j.Ahead s c c') :
    (exponent c).Joined j (j.Reaches s) (exponent c') := by
  rw [exponent, exponent]
  refine (unary_reaches h).bindLoose fun base c₁ c₁' _ _ h₁ => ?_
  obtain ⟨heat, heat'⟩ | ⟨c₂, h₂, c₂', h₂', heat, heat', hsign⟩ := h₁.eat? .starStar (by decide)
  · rw [heat, heat']
    exact Parsed.joined_done h₁ rfl
  · rw [heat, heat']
    dsimp only
    rw [h.kind]
    split
    · exact h₁.joined_fault _
    · refine .relax (.resume ?_)
      exact (hsign.strict fun h₀ => exponent_reaches h₀).map fun power => rfl
termination_by 16 * c.size + 6
decreasing_by all_goals omega

theorem unary_reaches {c c' : Cursor} (h : j.Ahead s c c') :
    (unary c).Joined j (j.Reaches s) (unary c') := by
  rw [unary, unary]
  obtain ⟨htake, htake'⟩ | ⟨operator, c₁, h₁, c₁', h₁', htake, htake', hoperator⟩ :=
    h.take? UpdateOperator.ofKind? ⟨rfl, rfl⟩
  · rw [htake, htake']
    dsimp only
    obtain ⟨htake, htake'⟩ | ⟨operator, c₁, h₁, c₁', h₁', htake, htake', hoperator⟩ :=
      h.take? UnaryOperator.ofKind? ⟨rfl, rfl⟩
    · rw [htake, htake']
      exact postfix_reaches h
    · rw [htake, htake']
      refine .resume ?_
      exact (hoperator.strict fun h₀ => unary_reaches h₀).map fun argument => rfl
  · rw [htake, htake']
    refine .resume ?_
    refine (hoperator.strict fun h₀ => unary_reaches h₀).bindLoose fun argument c₂ c₂' _ _ h₂ => ?_
    simp only [moved_expression, Expression.isTarget_addLines]
    split
    · exact Parsed.joined_done h₂ (by simp [h.line])
    · exact h₂.joined_fault _
termination_by 16 * c.size + 5
decreasing_by all_goals omega

theorem postfix_reaches {c c' : Cursor} (h : j.Ahead s c c') :
    (postfix_ c).Joined j (j.Reaches s) (postfix_ c') := by
  rw [postfix_, postfix_]
  refine (call_reaches h).bindLoose fun argument c₁ c₁' _ _ h₁ => ?_
  obtain ⟨htake, htake'⟩ | ⟨operator, c₂, h₂, c₂', h₂', htake, htake', hoperator⟩ :=
    h₁.take? UpdateOperator.ofKind? fun _ _ h => by simp [joins_of_update h]
  · rw [htake, htake']
    exact Parsed.joined_done h₁ rfl
  · have hline : c₁'.line = c₁'.previousLine ↔ c₁.line = c₁.previousLine := by
      rw [(h₁.ahead h₂).line, h₁.previousLine, Nat.add_right_cancel_iff]
    rw [htake, htake']
    simp only [moved_expression, hline, Expression.isTarget_addLines]
    split
    · split
      · exact Parsed.joined_ok hoperator (by simp [h.line])
      · exact h₁.joined_fault _
    · exact Parsed.joined_done h₁ rfl
termination_by 16 * c.size + 4
decreasing_by all_goals omega

theorem call_reaches {c c' : Cursor} (h : j.Ahead s c c') :
    (call c).Joined j (j.Reaches s) (call c') := by
  rw [call, call]
  exact (operand_reaches h).bindLoose fun callee c₁ c₁' _ _ h₁ => suffixes_reaches true callee h₁
termination_by 16 * c.size + 3
decreasing_by all_goals omega

theorem operand_reaches {c c' : Cursor} (h : j.Ahead s c c') :
    (operand c).Joined j (j.Reaches s) (operand c') := by
  rw [operand, operand]
  obtain ⟨heat, heat'⟩ | ⟨c₁, h₁, c₁', h₁', heat, heat', hnew⟩ := h.eatWord? .new
  · rw [heat, heat']
    exact primary_reaches h
  · rw [heat, heat']
    refine .resume ?_
    refine (hnew.strict fun h₀ => operand_reaches h₀).bindLoose fun inner c₂ c₂' _ _ h₂ => ?_
    refine (suffixes_reaches false inner h₂).bindLoose fun callee c₃ c₃' _ _ h₃ => ?_
    obtain ⟨heat, heat'⟩ | ⟨c₄, h₄, c₄', h₄', heat, heat', hopen⟩ := h₃.eat? .leftParen (by decide)
    · rw [heat, heat']
      exact Parsed.joined_done h₃ rfl
    · rw [heat, heat']
      refine .relax (.resume ((hopen.strict fun h₀ => arguments_reaches h₀).map fun items => ?_))
      simp
termination_by 16 * c.size + 2
decreasing_by all_goals omega

theorem suffixes_reaches {c c' : Cursor} (calls : Bool) (object : Expression)
    (h : j.Reaches s c c') :
    (suffixes calls object c).Joined j (j.Reaches s)
      (suffixes calls (moved j.lines object) c') := by
  obtain hahead | ⟨hends, hends'⟩ := h.ahead_or_ends
  · rw [suffixes, suffixes]
    obtain ⟨hnext, hnext'⟩ | ⟨k, c₁, h₁, c₁', h₁', hnext, hnext', -, hafter⟩ := hahead.next?
    · rw [hnext, hnext']
      exact Parsed.joined_done h rfl
    · rw [hnext, hnext']
      cases k with
      | punctuator sign =>
        cases sign with
        | dot =>
          have hdot := hafter (h.ne_last rfl)
          refine .relax (.resume ?_)
          refine (hdot.strict fun h₀ => h₀.expectName).bindLoose fun property c₂ c₂' _ _ h₂ => ?_
          exact suffixes_reaches calls (.member object property) h₂
        | leftBracket =>
          have hbracket := hafter (h.ne_last rfl)
          refine .relax (.resume ?_)
          refine (hbracket.strict fun h₀ => expression_reaches h₀).bindAhead
            fun property c₂ c₂' _ _ h₂ => ?_
          refine (h₂.expect .rightBracket (by decide)).bindLoose fun _ c₃ c₃' _ _ h₃ => ?_
          exact suffixes_reaches calls (.index object property) h₃
        | leftParen =>
          have hparen := hafter (h.ne_last rfl)
          dsimp only
          split
          · refine .relax (.resume ?_)
            refine (hparen.strict fun h₀ => arguments_reaches h₀).bindLoose
              fun items c₂ c₂' _ _ h₂ => ?_
            have hcall := suffixes_reaches calls (.call object items) h₂
            simpa using hcall
          · exact Parsed.joined_done h rfl
        | _ => exact Parsed.joined_done h rfl
      | _ => exact Parsed.joined_done h rfl
  · -- No access goes on with what is next.
    rw [suffixes_of_endsExpression hends, suffixes_of_endsExpression hends']
    exact Parsed.joined_done h rfl
termination_by 16 * c.size
decreasing_by all_goals omega

theorem arguments_reaches {c c' : Cursor} (h : j.Ahead s c c') :
    (arguments c).Joined j (j.Reaches s) (arguments c') := by
  rw [arguments, arguments]
  obtain ⟨heat, heat'⟩ | ⟨c₁, h₁, c₁', h₁', heat, heat', hclose⟩ := h.eat? .rightParen (by decide)
  · rw [heat, heat']
    refine (assignment_reaches h).bindAhead fun item c₁ c₁' _ _ h₁ => ?_
    obtain ⟨heat, heat'⟩ | ⟨c₂, h₂, c₂', h₂', heat, heat', hcomma⟩ := h₁.eat? .comma (by decide)
    · rw [heat, heat']
      exact (h₁.expect .rightParen (by decide)).map fun _ => rfl
    · rw [heat, heat']
      refine .resume ?_
      exact (hcomma.strict fun h₀ => arguments_reaches h₀).map fun items => rfl
  · rw [heat, heat']
    exact Parsed.joined_ok hclose rfl
termination_by 16 * c.size + 10
decreasing_by all_goals omega

theorem primary_reaches {c c' : Cursor} (h : j.Ahead s c c') :
    (primary c).Joined j (j.Reaches s) (primary c') := by
  rw [primary, primary]
  obtain ⟨htake, htake'⟩ | ⟨value, c₁, h₁, c₁', h₁', htake, htake', hliteral⟩ :=
    h.take? literalOf? ⟨rfl, rfl⟩
  · rw [htake, htake']
    dsimp only
    obtain ⟨hnext, hnext'⟩ | ⟨k, c₁, h₁, c₁', h₁', hnext, hnext', -, hafter⟩ := h.next?
    · rw [hnext, hnext']
      exact Parsed.joined_error h.unexpected
    · rw [hnext, hnext']
      cases k with
      | identifier name =>
        exact Parsed.joined_ok (hafter (h.ne_last rfl)) (by simp [h.line])
      | keyword word =>
        cases word with
        | this => exact Parsed.joined_ok (hafter (h.ne_last rfl)) rfl
        | function => exact Parsed.joined_error (by rw [h.line]; rfl)
        | class_ => exact Parsed.joined_error (by rw [h.line]; rfl)
        | _ => exact Parsed.joined_error h.unexpected
      | punctuator sign =>
        cases sign with
        | leftParen =>
          have hopen := hafter (h.ne_last rfl)
          refine .resume ?_
          refine (hopen.strict fun h₀ => expression_reaches h₀).bindAhead
            fun inner c₂ c₂' _ _ h₂ => ?_
          exact (h₂.expect .rightParen (by decide)).map fun _ => rfl
        | leftBracket =>
          have hopen := hafter (h.ne_last rfl)
          refine .resume ?_
          exact (hopen.strict fun h₀ => elements_reaches h₀).map fun items => by simp
        | leftBrace =>
          have hopen := hafter (h.ne_last rfl)
          refine .resume ?_
          exact (hopen.strict fun h₀ => properties_reaches h₀).map fun items => by simp
        | _ => exact Parsed.joined_error h.unexpected
      | _ => exact Parsed.joined_error h.unexpected
  · rw [htake, htake']
    exact Parsed.joined_ok hliteral rfl
termination_by 16 * c.size + 1
decreasing_by all_goals omega

theorem elements_reaches {c c' : Cursor} (h : j.Ahead s c c') :
    (elements c).Joined j (j.Reaches s) (elements c') := by
  rw [elements, elements]
  obtain ⟨heat, heat'⟩ | ⟨c₁, h₁, c₁', h₁', heat, heat', hclose⟩ := h.eat? .rightBracket (by decide)
  · rw [heat, heat']
    dsimp only
    obtain ⟨heat, heat'⟩ | ⟨c₁, h₁, c₁', h₁', heat, heat', hcomma⟩ := h.eat? .comma (by decide)
    · rw [heat, heat']
      refine (assignment_reaches h).bindAhead fun item c₁ c₁' _ _ h₁ => ?_
      obtain ⟨heat, heat'⟩ | ⟨c₂, h₂, c₂', h₂', heat, heat', hclose⟩ :=
        h₁.eat? .rightBracket (by decide)
      · rw [heat, heat']
        refine (h₁.expect .comma (by decide)).bindAhead fun _ c₂ c₂' _ _ h₂ => ?_
        exact (elements_reaches h₂).map fun rest => rfl
      · rw [heat, heat']
        exact Parsed.joined_ok hclose rfl
    · rw [heat, heat']
      refine .resume ?_
      exact (hcomma.strict fun h₀ => elements_reaches h₀).map fun rest => rfl
  · rw [heat, heat']
    exact Parsed.joined_ok hclose rfl
termination_by 16 * c.size + 10
decreasing_by all_goals omega

theorem properties_reaches {c c' : Cursor} (h : j.Ahead s c c') :
    (properties c).Joined j (j.Reaches s) (properties c') := by
  rw [properties, properties]
  obtain ⟨heat, heat'⟩ | ⟨c₁, h₁, c₁', h₁', heat, heat', hclose⟩ := h.eat? .rightBrace (by decide)
  · rw [heat, heat']
    refine (propertyKey_reaches h).bindAhead fun key c₁ c₁' _ _ h₁ => ?_
    refine (h₁.expect .colon (by decide)).bindAhead fun _ c₂ c₂' _ _ h₂ => ?_
    refine (assignment_reaches h₂).bindAhead fun value c₃ c₃' _ _ h₃ => ?_
    obtain ⟨heat, heat'⟩ | ⟨c₄, h₄, c₄', h₄', heat, heat', hclose⟩ :=
        h₃.eat? .rightBrace (by decide)
    · rw [heat, heat']
      refine (h₃.expect .comma (by decide)).bindAhead fun _ c₄ c₄' _ _ h₄ => ?_
      exact (properties_reaches h₄).map fun rest => rfl
    · rw [heat, heat']
      exact Parsed.joined_ok hclose rfl
  · rw [heat, heat']
    exact Parsed.joined_ok hclose rfl
termination_by 16 * c.size + 10
decreasing_by all_goals omega

end

/-! ## Foreign tokens -/

/-- A text that ends with a token that no expression has is not one expression. -/
theorem expression_ends_foreign {t : Terminal} (hlast : c.terminals.getLast? = some t)
    (hforeign : t.kind.isForeign = true) {value : Expression} {rest : Cursor}
    (h : (expression c).Gives value rest) : rest.terminals ≠ [] := by
  -- The text as its own longer text, of which nothing more is said.
  have hmeets : (⟨0, some [], c.endLine, nofun⟩ : Joint).Ahead (.last t.kind) c c := by
    have hstays : c.terminals = moved 0 c.terminals ++ [] := by
      rw [List.append_nil]
      exact (List.map_id _).symm
    refine ⟨⟨hstays, rfl, nofun, ?_, .inr ?_⟩, fun hnil => ?_⟩
    · rintro _ ⟨⟩
      exact hforeign
    · intro t' ht'
      rw [Option.some.inj (hlast.symm.trans ht')]
    · rw [hnil] at hlast
      cases hlast
  obtain ⟨rest', -, hreaches⟩ := h.joined (expression_reaches hmeets)
  intro hnil
  exact absurd (hreaches.place.resolve_left nofun hnil) nofun

end Grammar

end ScriptSteps
