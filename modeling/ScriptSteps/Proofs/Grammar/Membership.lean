import Mathlib
import ScriptSteps.Proofs.Grammar.Cascade
import ScriptSteps.Proofs.Grammar.Seam
import ScriptSteps.Proofs.Token.Front

/-!
# A name and `in` before an expression

With a name and `in` before it an expression is read in another way: `in` is an operator that takes
as much of the expression as binds tighter, and every operator after that part gets the membership,
or what has become of it, as its left operand. So what is read is a membership only if there is no
such operator, or the last of them to group is `in` again.

## Main definitions

* `Grammar.MakesMembership`: an expression that makes a membership together with a name and `in`

## Main statements

* `Grammar.expression_afterIn`: what a name, `in` and an expression are read as
-/

namespace ScriptSteps

/-- Whether an expression is a membership. -/
def Expression.isMembership : Expression → Bool
  | .binary .in_ _ _ => true
  | _ => false

theorem Expression.isMembership_moved (k : ℕ) (e : Expression) :
    (moved k e).isMembership = e.isMembership := by
  cases e with
  | binary operator left right => cases operator <;> rfl
  | _ => rfl

namespace Grammar

variable {c rest : Cursor} {value : Expression}

/-! ## Other operands before the same tokens -/

/-- Whatever stands on the left, a climb takes the same operators with the same right operands. -/
theorem binaryRest_gives_left {floor : Level} {left : Expression}
    (h : (binaryRest floor left c).Gives value rest) (left' : Expression) :
    (rest = c ∧ value = left ∧ (binaryRest floor left' c).Gives left' c)
    ∨ (rest.size < c.size ∧ ∃ operator first first' right, value = .binary operator first right
      ∧ (binaryRest floor left' c).Gives (.binary operator first' right) rest) := by
  induction c using (measure Cursor.size).wf.induction generalizing left left' with
  | _ c ih =>
    by_cases hsettles : c.Settles floor
    · rw [binaryRest_of_settles hsettles] at h
      rw [binaryRest_of_settles hsettles]
      obtain ⟨hvalue, hrest⟩ := h.of_done
      exact .inl ⟨hrest, hvalue, Parsed.gives_done _ _⟩
    · obtain ⟨operator, later, htake, hlt⟩ := Cursor.exists_of_not_settles hsettles
      rw [binaryRest_of_lt htake hlt] at h
      rw [binaryRest_of_lt htake hlt]
      obtain ⟨right, c₂, hright, fewer, hmore⟩ := h.of_widen.of_widen.of_bindLoose
      have hfewer : c₂.size < c.size := fewer.trans later.2
      obtain ⟨rfl, rfl, hmore'⟩ | ⟨hlater, other, first, first', last, hvalue, hmore'⟩ :=
        ih c₂ hfewer hmore (.binary operator left' right)
      · exact .inr ⟨hfewer, operator, left, left', right, rfl,
          ((hright.bindLoose fun _ => hmore').resume _).relax⟩
      · exact .inr ⟨hlater.trans hfewer, other, first, first', last, hvalue,
          ((hright.bindLoose fun _ => hmore').resume _).relax⟩

/-- Whatever the test is, the alternatives are the same. -/
theorem conditionalRest_gives_test {test : Expression}
    (h : (conditionalRest test c).Gives value rest) (test' : Expression) :
    (rest = c ∧ value = test ∧ (conditionalRest test' c).Gives test' c)
    ∨ (rest.size < c.size ∧ ∃ consequent alternate,
      (conditionalRest test' c).Gives (.conditional test' consequent alternate) rest) := by
  unfold conditionalRest at h ⊢
  split at h
  · obtain ⟨hvalue, hrest⟩ := h.of_done
    exact .inl ⟨hrest, hvalue, Parsed.gives_done _ _⟩
  · next c₁ h₁ heat =>
    obtain ⟨consequent, c₂, hconsequent, fewer, h⟩ := h.of_widen.of_widen.of_bind
    obtain ⟨_, c₃, hcolon, fewer', h⟩ := h.of_bind
    obtain ⟨alternate, halternate, -⟩ := h.of_map
    have hlater : rest.size < c.size := halternate.fewer.trans (fewer'.trans (fewer.trans h₁))
    refine .inr ⟨hlater, consequent, alternate, ?_⟩
    refine ((hconsequent.bind fun _ => ?_).resume _).relax
    exact hcolon.bind fun _ => halternate.map _

/-- An assignment reads an operator, or it is its own target. -/
theorem assignmentRest_gives {line : ℕ} {target : Expression}
    (h : (assignmentRest line target c).Gives value rest) :
    (c.take? AssignmentOperator.ofKind? = none ∧ value = target ∧ rest = c)
    ∨ (rest.size < c.size ∧ c.take? AssignmentOperator.ofKind? ≠ none) := by
  unfold assignmentRest at h
  split at h
  · next htake =>
    obtain ⟨hvalue, hrest⟩ := h.of_done
    exact .inl ⟨htake, hvalue, hrest⟩
  · next operator c₁ h₁ htake =>
    split at h
    · obtain ⟨_, hvalue, -⟩ := h.of_widen.of_widen.of_map
      exact .inr ⟨hvalue.fewer.trans h₁, by simp [htake]⟩
    · obtain ⟨_, h⟩ := h
      cases h

/-- A sequence without further items ends where it is. -/
theorem sequenceRest_gives {items : List Expression} (h : (sequenceRest c).Gives items rest) :
    (items = [] ∧ rest = c) ∨ (items ≠ [] ∧ rest.size < c.size) := by
  rw [sequenceRest] at h
  split at h
  · obtain ⟨hitems, hrest⟩ := h.of_done
    exact .inl ⟨hitems, hrest⟩
  · next c₁ h₁ heat =>
    obtain ⟨item, c₂, hitem, fewer, h⟩ := h.of_widen.of_widen.of_bindLoose
    obtain ⟨others, hothers, rfl⟩ := h.of_map
    have hlater := hothers.fewer
    exact .inr ⟨by simp, by omega⟩

/-! ## A name and `in` -/

theorem moved_binary (k : ℕ) (operator : BinaryOperator) (left right : Expression) :
    moved k (Expression.binary operator left right)
      = .binary operator (moved k left) (moved k right) := rfl

/-- Whether an expression makes a membership together with a name and `in` before it: it is one
operand of that `in`, or its loosest operator is `in` as well. -/
def MakesMembership (c : Cursor) : Prop :=
  (∃ operand rest, (binary .relational c).Gives operand rest ∧ rest.terminals = [])
    ∨ ∃ left right rest, (binary .conditional c).Gives (.binary .in_ left right) rest
      ∧ rest.terminals = []

theorem makesMembership_iff (h : (binary .conditional c).Gives value rest) :
    MakesMembership c ↔ rest.terminals = [] ∧ ((binary .relational c).Gives value rest
      ∨ ∃ left right, value = .binary .in_ left right) := by
  refine ⟨?_, ?_⟩
  · rintro (⟨operand, d, hoperand, hnil⟩ | ⟨left, right, d, hboth, hnil⟩)
    · -- An operand that is the whole expression is all that a climb reads.
      have hsettles : d.Settles .conditional := by
        intro operator later htake
        have hless := later.2
        simp [Cursor.size, hnil] at hless
      have hwhole : (binary .conditional c).Gives operand d := by
        rw [binary_eq_climb (by decide : Level.conditional ≤ .relational)]
        refine hoperand.bindLoose fun _ => ?_
        rw [binaryRest_of_settles hsettles]
        exact Parsed.gives_done _ _
      obtain ⟨rfl, rfl⟩ := hwhole.unique h
      exact ⟨hnil, .inl hoperand⟩
    · obtain ⟨rfl, rfl⟩ := hboth.unique h
      exact ⟨hnil, .inr ⟨left, right, rfl⟩⟩
  · rintro ⟨hnil, hoperand | ⟨left, right, rfl⟩⟩
    · exact .inl ⟨value, rest, hoperand, hnil⟩
    · exact .inr ⟨left, right, rest, h, hnil⟩

/-- A cursor at a name and `in`, with what another cursor reads after them. -/
def atName (name : String) (c : Cursor) : Cursor := (c.push (.keyword .in_)).push (.identifier name)

/-- A name before `in` is an operand. -/
theorem exponent_atName (name : String) (c : Cursor) :
    (exponent (atName name c)).Gives (.identifier ⟨name, c.previousLine⟩)
      (c.push (.keyword .in_)) := by
  have hprimary : (primary (atName name c)).Gives (.identifier ⟨name, c.previousLine⟩)
      (c.push (.keyword .in_)) := by
    rw [primary]
    exact ⟨Cursor.size_lt_push _ _, rfl⟩
  have hoperand : (operand (atName name c)).Gives (.identifier ⟨name, c.previousLine⟩)
      (c.push (.keyword .in_)) := by
    rw [operand]
    exact hprimary
  have hcall : (call (atName name c)).Gives (.identifier ⟨name, c.previousLine⟩)
      (c.push (.keyword .in_)) := by
    rw [call]
    refine hoperand.bindLoose fun _ => ?_
    rw [suffixes]
    exact Parsed.gives_done _ _
  have hpostfix : (postfix_ (atName name c)).Gives (.identifier ⟨name, c.previousLine⟩)
      (c.push (.keyword .in_)) := by
    rw [postfix_]
    exact hcall.bindLoose fun _ => Parsed.gives_done _ _
  have hunary : (unary (atName name c)).Gives (.identifier ⟨name, c.previousLine⟩)
      (c.push (.keyword .in_)) := by
    rw [unary]
    exact hpostfix
  rw [exponent]
  exact hunary.bindLoose fun _ => Parsed.gives_done _ _

/-- The first operator after a name, and its operand. -/
theorem binary_atName (name : String) {operand : Expression} {d : Cursor}
    (hoperand : (binary .relational c).Gives operand d)
    (hmore : (binaryRest .conditional
      (.binary .in_ (.identifier ⟨name, c.previousLine⟩) operand) d).Gives value rest) :
    (binary .conditional (atName name c)).Gives value rest := by
  have hless := c.size_lt_push (.keyword .in_)
  have htake : (c.push (.keyword .in_)).take? BinaryOperator.ofKind? = some (.in_, ⟨c, hless⟩) :=
    rfl
  rw [binary]
  refine (exponent_atName name c).bindLoose fun _ => ?_
  rw [binaryRest_of_lt htake (by decide)]
  exact ((hoperand.bindLoose fun _ => hmore).resume hless).relax

variable {j : Joint} {s : Seam} {c' : Cursor}

/-- Operators and operands after a name and `in`: another operator than `in` has the last word only
if the expression has it on its own. -/
theorem binary_afterIn (h : j.Ahead s c c') (hlines : j.lines = 0) (name : String)
    (hvalue : (binary .conditional c).Gives value rest) :
    ∃ operator left right rest',
      (binary .conditional (atName name c')).Gives
        (moved j.lines (Expression.binary operator left right)) rest'
      ∧ j.Reaches s rest rest'
      ∧ (operator = .in_ ↔ (binary .relational c).Gives value rest
          ∨ ∃ left right, value = .binary .in_ left right) := by
  have hname : moved j.lines (Expression.identifier ⟨name, c'.previousLine⟩)
      = .identifier ⟨name, c'.previousLine⟩ := by
    rw [hlines]
    rfl
  rw [binary_eq_climb (by decide : Level.conditional ≤ .relational)] at hvalue
  obtain ⟨operand, d, hoperand, _, hmore⟩ := hvalue.of_bindLoose
  obtain ⟨d', hoperand', hreaches⟩ := hoperand.joined (binary_reaches .relational h)
  have hjoined := fun first => binaryRest_reaches .conditional
    (.binary .in_ (.identifier ⟨name, c'.previousLine⟩) first) hreaches
  have hbinary : ∀ first, moved j.lines
      (Expression.binary .in_ (.identifier ⟨name, c'.previousLine⟩) first)
        = .binary .in_ (.identifier ⟨name, c'.previousLine⟩) (moved j.lines first) := by
    intro first
    rw [moved_binary, hname]
  simp only [hbinary] at hjoined
  obtain ⟨rfl, rfl, hmore'⟩ | ⟨hless, operator, first, first', right, rfl, hmore'⟩ :=
    binaryRest_gives_left hmore (.binary .in_ (.identifier ⟨name, c'.previousLine⟩) operand)
  · -- The expression is one operand of `in`.
    obtain ⟨rest', hrest', hafter⟩ := hmore'.joined (hjoined _)
    exact ⟨_, _, _, rest', binary_atName name hoperand' hrest', hafter,
      iff_of_true rfl (.inl hoperand)⟩
  · -- Another operator has the membership, or what has become of it, on its left.
    obtain ⟨rest', hrest', hafter⟩ := hmore'.joined (hjoined _)
    refine ⟨_, _, _, rest', binary_atName name hoperand' hrest', hafter, ?_, ?_⟩
    · rintro rfl
      exact .inr ⟨first, right, rfl⟩
    · rintro (hvalue | ⟨left, right', heq⟩)
      · obtain ⟨-, rfl⟩ := hvalue.unique hoperand
        exact absurd hless (lt_irrefl _)
      · exact (Expression.binary.inj heq).1

/-- Nothing can be assigned to what a name, `in` and a conditional are read as. It is a membership,
with nothing after it, if the conditional makes one. -/
theorem conditional_afterIn (h : j.Ahead s c c') (hlines : j.lines = 0) (name : String)
    (hvalue : (conditional c).Gives value rest) :
    ∃ target rest', (conditional (atName name c')).Gives target rest' ∧ j.Reaches s rest rest'
      ∧ target.isTarget = false
      ∧ (MakesMembership c ↔ rest.size = 0 ∧ target.isMembership = true) := by
  rw [conditional_eq_conditionalRest] at hvalue
  obtain ⟨test, d, htest, _, hvalue⟩ := hvalue.of_bindLoose
  obtain ⟨operator, left, right, d', htest', hreaches, hin⟩ := binary_afterIn h hlines name htest
  have hmakes : MakesMembership c ↔ d.size = 0 ∧ operator = .in_ := by
    rw [makesMembership_iff htest, hin]
    exact and_congr_left fun _ => List.length_eq_zero_iff.symm
  -- Whatever the alternatives are, the operator is the test.
  obtain ⟨target, htarget, hnot, hmember⟩ : ∃ target,
      (conditionalRest (.binary operator left right) d).Gives target rest
        ∧ target.isTarget = false
        ∧ (target.isMembership = true ↔ rest.size = d.size ∧ operator = .in_) := by
    obtain ⟨rfl, -, hsame⟩ | ⟨hless, consequent, alternate, hcondition⟩ :=
      conditionalRest_gives_test hvalue (.binary operator left right)
    · refine ⟨_, hsame, rfl, ?_⟩
      cases operator <;> simp [Expression.isMembership]
    · exact ⟨_, hcondition, rfl, by simp [Expression.isMembership, hless.ne]⟩
  have hle := htarget.fewer
  obtain ⟨rest', htarget', hafter⟩ := htarget.joined (conditionalRest_reaches _ hreaches)
  refine ⟨moved j.lines target, rest', ?_, hafter, by simpa using hnot, ?_⟩
  · rw [conditional_eq_conditionalRest]
    exact htest'.bindLoose fun _ => htarget'
  · have hsizes : rest.size = 0 ∧ rest.size = d.size ↔ d.size = 0 := by omega
    rw [hmakes, target.isMembership_moved, hmember, ← and_assoc, hsizes]

/-! ## What comes after a conditional -/

section Stages

variable {target first : Expression} {items : List Expression} {d₁ d₂ : Cursor}

theorem exists_stages (h : (expression c).Gives value rest) :
    ∃ target d₁ first d₂ items, (conditional c).Gives target d₁
      ∧ (assignmentRest c.line target d₁).Gives first d₂
      ∧ (sequenceRest d₂).Gives items rest := by
  rw [expression] at h
  obtain ⟨first, d₂, hfirst, _, h⟩ := h.of_bindLoose
  obtain ⟨items, hitems, -⟩ := h.of_map
  rw [assignment_eq_assignmentRest] at hfirst
  obtain ⟨target, d₁, htarget, _, hfirst⟩ := hfirst.of_bindLoose
  exact ⟨target, d₁, first, d₂, items, htarget, hfirst, hitems⟩

theorem expression_of_stages (htarget : (conditional c).Gives target d₁)
    (hfirst : (assignmentRest c.line target d₁).Gives first d₂)
    (hitems : (sequenceRest d₂).Gives items rest) :
    (expression c).Gives (if items.isEmpty then first else .sequence (first :: items)) rest := by
  have hassignment : (assignment c).Gives first d₂ := by
    rw [assignment_eq_assignmentRest]
    exact htarget.bindLoose fun _ => hfirst
  rw [expression]
  exact hassignment.bindLoose fun _ => hitems.map _

/-- Nothing is assigned to what is no target. -/
theorem expression_eq_error (htarget : (conditional c).Gives target d₁)
    (hnot : target.isTarget = false) (htake : d₁.take? AssignmentOperator.ofKind? ≠ none) :
    expression c = .error (d₁.fault .assignmentTarget) d₁ := by
  obtain ⟨⟨operator, d, hd⟩, htake⟩ := Option.ne_none_iff_exists'.1 htake
  obtain ⟨_, htarget⟩ := htarget
  rw [expression, assignment_eq_assignmentRest, htarget]
  simp [Parsed.bindLoose, assignmentRest, htake, hnot]

end Stages

/-- A name, `in` and a whole expression are read as a membership if the expression makes one. If
not, they are read as something else, or what is assigned to is no target. -/
theorem expression_afterIn (h : j.Ahead s c c') (hlines : j.lines = 0) (name : String)
    (hvalue : (expression c).Gives value rest) (hrest : rest.terminals = []) :
    (∃ result rest', (expression (atName name c')).Gives result rest' ∧ j.Reaches s rest rest'
        ∧ (result.isMembership = true ↔ MakesMembership c))
      ∨ ¬MakesMembership c
        ∧ ∃ d, expression (atName name c') = .error (d.fault .assignmentTarget) d := by
  have hempty : rest.size = 0 := by simp [Cursor.size, hrest]
  obtain ⟨_, d, first, e, items, hvalue, hfirst, hitems⟩ := exists_stages hvalue
  obtain ⟨target, d', htarget, hreaches, hnot, hmakes⟩ := conditional_afterIn h hlines name hvalue
  obtain ⟨hnone, hnone'⟩ | ⟨_, _, hless, _, _, hsome, hsome', -⟩ :=
    hreaches.take? AssignmentOperator.ofKind? fun _ _ h => by simp [joins_of_assignment h]
  · obtain ⟨-, -, rfl⟩ | ⟨-, hassigned⟩ := assignmentRest_gives hfirst
    · -- Nothing is assigned, and a membership remains one unless a sequence goes on.
      obtain ⟨rest', hitems', hafter⟩ := hitems.joined (sequenceRest_reaches hreaches)
      have hassign : (assignmentRest (atName name c').line target d').Gives target d' := by
        rw [assignmentRest, hnone']
        exact Parsed.gives_done _ _
      refine .inl ⟨_, rest', expression_of_stages htarget hassign hitems', hafter, ?_⟩
      rw [hmakes]
      obtain ⟨rfl, rfl⟩ | ⟨hne, hless⟩ := sequenceRest_gives hitems
      · simp [hempty]
      · have hopen : e.size ≠ 0 := by omega
        simp [hne, hopen, Expression.isMembership]
    · exact absurd hnone hassigned
  · -- An operator of assignment comes next, and something else than a target is before it.
    refine .inr ⟨fun hmember => ?_, d', expression_eq_error htarget hnot (by simp [hsome'])⟩
    have hdone := (hmakes.1 hmember).1
    omega

end Grammar

end ScriptSteps
