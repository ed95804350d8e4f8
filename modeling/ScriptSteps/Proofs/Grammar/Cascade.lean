import Mathlib
import ScriptSteps.Proofs.Grammar.Reads

/-!
# Precedence climbing as a cascade of levels

The textbook grammar of operators has one rule for each level: an operand of the next tighter level,
then, for every operator of exactly this level that comes next, one more such operand, grouped to
the left. Climbing reads the same expression, stops at the same token and meets the same errors, on
whatever tokens it is given.

A climb above a floor is a climb above the next level, followed by the loop of that level. This
rests on where a climb stops: the operator that comes next, if there is one, binds no tighter than
the floor, so the operators that one loop takes never get tighter.

## Main definitions

* `Level.tighter`: the next tighter level
* `Grammar.levelRule`: the rule of a level
* `Cursor.Settles`: no operator tighter than a level comes next

## Main statements

* `Grammar.settles_of_gives_binary`: where a climb stops
* `Grammar.binaryRest_eq_bindLoose`: a climb in two parts
* `Grammar.binary_eq_levelRule`: climbing above a level is the rule of the next tighter one
-/

namespace ScriptSteps

/-! ## Levels -/

namespace Level

/-- The next tighter level, for every level but the tightest. -/
def tighter : Level → Level
  | sequence => assignment
  | assignment => conditional
  | conditional => coalesce
  | coalesce => logicalOr
  | logicalOr => logicalAnd
  | logicalAnd => bitwiseOr
  | bitwiseOr => bitwiseXor
  | bitwiseXor => bitwiseAnd
  | bitwiseAnd => equality
  | equality => relational
  | relational => shift
  | shift => additive
  | additive => multiplicative
  | multiplicative => exponent
  | exponent => unary
  | unary => postfix_
  | postfix_ => call
  | call => new
  | new => member
  | member => primary
  | primary => primary

theorem rank_tighter {level : Level} (h : level ≤ .multiplicative) :
    level.tighter.rank = level.rank + 1 := by
  cases level <;> first | rfl | exact absurd h (by decide)

/-- Nothing is between a level and the next one. -/
theorem lt_tighter_iff {level other : Level} (h : level ≤ .multiplicative) :
    other < level.tighter ↔ other ≤ level := by
  rw [lt_iff_rank_lt, le_iff_rank_le, rank_tighter h, Nat.lt_succ_iff]

theorem tighter_le_multiplicative_iff (level : Level) :
    level.tighter ≤ .multiplicative ↔ level < .multiplicative := by
  cases level <;> decide

end Level

theorem BinaryOperator.level_le_of_ofKind? {kind : TokenKind} {operator : BinaryOperator}
    (h : ofKind? kind = some operator) : operator.level ≤ .multiplicative := by
  cases operator with
  | exponent =>
    unfold ofKind? at h
    split at h
    · exact absurd h (by decide)
    · exact absurd h (by decide)
    · split at h <;> exact absurd h (by decide)
    · exact absurd h (by decide)
  | _ => decide

/-! ## One rule after another -/

namespace Parsed

variable {α β γ : Type} {m n : ℕ}

theorem bindLoose_congr {p : Parsed α n}
    {f g : α → (rest : Cursor) → rest.size < n → Parsed β (rest.size + 1)}
    (h : ∀ value rest fewer, p.Gives value rest → f value rest fewer = g value rest fewer) :
    p.bindLoose f = p.bindLoose g := by
  cases p with
  | ok value rest fewer => simp only [bindLoose, h value rest fewer (gives_ok _ _ _)]
  | error cause stop => rfl

theorem bindLoose_done (p : Parsed α n) :
    p.bindLoose (fun value rest _ => done value rest) = p := by
  cases p <;> rfl

theorem done_bindLoose (value : α) (c : Cursor)
    (f : α → (rest : Cursor) → Parsed β (rest.size + 1)) :
    (done value c).bindLoose (fun value rest _ => f value rest) = f value c := by
  simp only [done, bindLoose]
  cases f value c <;> rfl

theorem bindLoose_assoc (p : Parsed α n)
    (f : α → (rest : Cursor) → Parsed β (rest.size + 1))
    (g : β → (rest : Cursor) → Parsed γ (rest.size + 1)) :
    (p.bindLoose fun value rest _ => f value rest).bindLoose (fun value rest _ => g value rest)
      = p.bindLoose fun value rest _ =>
          (f value rest).bindLoose fun value rest _ => g value rest := by
  cases p with
  | error cause stop => rfl
  | ok value rest fewer =>
    simp only [bindLoose]
    cases f value rest with
    | error cause stop => rfl
    | ok value' rest' fewer' =>
      simp only [widen_ok]
      cases g value' rest' <;> rfl

theorem bindLoose_widen (p : Parsed α m) (h : m ≤ n)
    (f : α → (rest : Cursor) → Parsed β (rest.size + 1)) :
    (p.widen h).bindLoose (fun value rest _ => f value rest)
      = (p.bindLoose fun value rest _ => f value rest).widen h := by
  cases p with
  | error cause stop => rfl
  | ok value rest fewer =>
    simp only [bindLoose, widen_ok]
    cases f value rest <;> rfl

end Parsed

/-! ## The rules of the levels -/

namespace Grammar

/-- The operators of one level after `left`, each with the operand after it; they group to the
left. -/
def levelRest (level : Level) (operand : (c : Cursor) → Parsed Expression c.size)
    (left : Expression) (c : Cursor) : Parsed Expression (c.size + 1) :=
  match c.take? BinaryOperator.ofKind? with
  | none => .done left c
  | some (operator, ⟨c₁, h₁⟩) =>
    if operator.level = level then
      .relax <| .resume h₁ <| (operand c₁).bindLoose fun right c₂ _ =>
      levelRest level operand (.binary operator left right) c₂
    else .done left c
termination_by c.size

/-- Operands of the next tighter level, joined by operators of exactly this level. Beyond the
multiplicative level, operands are bases with an optional exponent. -/
def levelRule (level : Level) (c : Cursor) : Parsed Expression c.size :=
  if level ≤ .multiplicative then
    (levelRule level.tighter c).bindLoose fun left c₁ _ =>
    levelRest level (fun d => levelRule level.tighter d) left c₁
  else exponent c
termination_by Level.exponent.rank - level.rank
decreasing_by
  all_goals
    have hnext := Level.rank_tighter ‹level ≤ .multiplicative›
    have hrank : level.rank ≤ Level.multiplicative.rank := ‹level ≤ .multiplicative›
    have hbound : Level.multiplicative.rank < Level.exponent.rank := by decide
    omega

theorem levelRule_of_le {level : Level} (h : level ≤ .multiplicative) (c : Cursor) :
    levelRule level c
      = (levelRule level.tighter c).bindLoose fun left c₁ _ =>
          levelRest level (fun d => levelRule level.tighter d) left c₁ := by
  rw [levelRule, if_pos h]

theorem levelRule_of_lt {level : Level} (h : .multiplicative < level) (c : Cursor) :
    levelRule level c = exponent c := by
  rw [levelRule, if_neg (not_le_of_gt h)]

end Grammar

/-! ## Where a climb stops -/

/-- The operator that comes next, if there is one, binds no tighter than the level. -/
def Cursor.Settles (level : Level) (c : Cursor) : Prop :=
  ∀ operator later, c.take? BinaryOperator.ofKind? = some (operator, later) →
    operator.level ≤ level

theorem Cursor.settles_multiplicative (c : Cursor) : c.Settles .multiplicative := by
  intro operator later h
  unfold Cursor.take? at h
  split at h
  · obtain ⟨_, hkind, heq⟩ := Option.map_eq_some_iff.1 h
    obtain ⟨rfl, -⟩ := Prod.mk.inj heq
    exact BinaryOperator.level_le_of_ofKind? hkind
  · cases h

theorem Cursor.Settles.mono {level other : Level} {c : Cursor} (h : c.Settles level)
    (hle : level ≤ other) : c.Settles other :=
  fun operator later htake => (h operator later htake).trans hle

theorem Cursor.exists_of_not_settles {level : Level} {c : Cursor} (h : ¬ c.Settles level) :
    ∃ operator later, c.take? BinaryOperator.ofKind? = some (operator, later) ∧
      level < operator.level := by
  simpa only [Cursor.Settles, not_forall, exists_prop, not_le] using h

namespace Grammar

theorem binaryRest_of_settles {floor : Level} {c : Cursor} (h : c.Settles floor)
    (left : Expression) : binaryRest floor left c = .done left c := by
  rw [binaryRest]
  split
  · rfl
  · next operator c₁ h₁ htake => rw [if_pos (h operator _ htake)]

theorem binaryRest_of_lt {floor : Level} {c : Cursor} {operator : BinaryOperator} {later : c.Later}
    (htake : c.take? BinaryOperator.ofKind? = some (operator, later)) (h : floor < operator.level)
    (left : Expression) :
    binaryRest floor left c
      = .relax (.resume later.2 ((binary operator.level later.1).bindLoose fun right c₂ _ =>
          binaryRest floor (.binary operator left right) c₂)) := by
  rw [binaryRest, htake]
  exact if_neg (not_le_of_gt h)

theorem levelRest_of_forall_ne {level : Level} {c : Cursor}
    (h : ∀ operator later, c.take? BinaryOperator.ofKind? = some (operator, later) →
      operator.level ≠ level)
    (operand : (c : Cursor) → Parsed Expression c.size) (left : Expression) :
    levelRest level operand left c = .done left c := by
  rw [levelRest]
  split
  · rfl
  · next operator c₁ h₁ htake => rw [if_neg (h operator _ htake)]

theorem levelRest_of_eq {c : Cursor} {operator : BinaryOperator} {later : c.Later}
    (htake : c.take? BinaryOperator.ofKind? = some (operator, later))
    (operand : (c : Cursor) → Parsed Expression c.size) (left : Expression) :
    levelRest operator.level operand left c
      = .relax (.resume later.2 ((operand later.1).bindLoose fun right c₂ _ =>
          levelRest operator.level operand (.binary operator left right) c₂)) := by
  rw [levelRest, htake]
  exact if_pos rfl

/-- A climb goes on until the operator that comes next binds no tighter than the floor. -/
theorem settles_of_gives_binaryRest {floor : Level} {left e : Expression} {c rest : Cursor}
    (h : (binaryRest floor left c).Gives e rest) : rest.Settles floor := by
  induction hsize : c.size using Nat.strong_induction_on generalizing left c with
  | _ size ih =>
    by_cases hsettles : c.Settles floor
    · rw [binaryRest_of_settles hsettles] at h
      obtain ⟨-, rfl⟩ := h.of_done
      exact hsettles
    · obtain ⟨operator, later, htake, hlt⟩ := Cursor.exists_of_not_settles hsettles
      rw [binaryRest_of_lt htake hlt] at h
      obtain ⟨right, c₂, -, fewer, hrest⟩ := h.of_widen.of_widen.of_bindLoose
      have hsmaller : c₂.size < size := by
        rw [← hsize]
        exact fewer.trans later.2
      exact ih _ hsmaller hrest rfl

theorem settles_of_gives_binary {floor : Level} {e : Expression} {c rest : Cursor}
    (h : (binary floor c).Gives e rest) : rest.Settles floor := by
  rw [binary] at h
  obtain ⟨left, c₁, -, -, hrest⟩ := h.of_bindLoose
  exact settles_of_gives_binaryRest hrest

/-! ## A climb in two parts -/

/-- A climb above a floor climbs above the next level first, and then takes the operators of that
level. -/
theorem binaryRest_eq_bindLoose {floor : Level} (hfloor : floor ≤ .multiplicative)
    (left : Expression) (c : Cursor) :
    binaryRest floor left c
      = (binaryRest floor.tighter left c).bindLoose fun left c₁ _ =>
          levelRest floor.tighter (fun d => binary floor.tighter d) left c₁ := by
  induction c using (measure Cursor.size).wf.induction generalizing left with
  | _ c ih =>
    have hbelow : ∀ level, level < floor.tighter ↔ level ≤ floor :=
      fun _ => Level.lt_tighter_iff hfloor
    by_cases hsettles : c.Settles floor
    · have htighter : c.Settles floor.tighter := hsettles.mono ((hbelow _).2 le_rfl).le
      rw [binaryRest_of_settles hsettles, binaryRest_of_settles htighter, Parsed.done_bindLoose,
        levelRest_of_forall_ne]
      exact fun operator later htake => ((hbelow _).2 (hsettles operator later htake)).ne
    · obtain ⟨operator, later, htake, hlt⟩ := Cursor.exists_of_not_settles hsettles
      have hle : floor.tighter ≤ operator.level :=
        not_lt.1 fun h => not_le_of_gt hlt ((hbelow _).1 h)
      rw [binaryRest_of_lt htake hlt]
      rcases hle.eq_or_lt with heq | hlt'
      · -- The operator is of the level of the loop: the tighter climb before it is at its end, and
        -- so is the one after its right operand.
        have hdone : c.Settles floor.tighter := by
          intro other later' htake'
          obtain ⟨rfl, -⟩ := Prod.mk.inj (Option.some.inj (htake'.symm.trans htake))
          exact heq.ge
        rw [binaryRest_of_settles hdone, Parsed.done_bindLoose, heq, levelRest_of_eq htake]
        congr 2
        refine Parsed.bindLoose_congr fun right c₂ fewer hgives => ?_
        rw [ih c₂ (fewer.trans later.2), heq,
          binaryRest_of_settles (settles_of_gives_binary hgives), Parsed.done_bindLoose]
      · -- The operator is tighter: both climbs take it.
        rw [binaryRest_of_lt htake hlt', Parsed.relax, Parsed.relax, Parsed.resume, Parsed.resume,
          Parsed.bindLoose_widen, Parsed.bindLoose_widen, Parsed.bindLoose_assoc]
        congr 2
        exact Parsed.bindLoose_congr fun right c₂ fewer _ => ih c₂ (fewer.trans later.2) _

/-- A climb above a floor starts with a climb above any tighter floor. -/
theorem binaryRest_eq_climb {floor tight : Level} (hle : floor ≤ tight) (left : Expression)
    (c : Cursor) :
    binaryRest floor left c
      = (binaryRest tight left c).bindLoose fun left c₁ _ => binaryRest floor left c₁ := by
  induction c using (measure Cursor.size).wf.induction generalizing left with
  | _ c ih =>
    by_cases hsettles : c.Settles tight
    · rw [binaryRest_of_settles hsettles, Parsed.done_bindLoose]
    · obtain ⟨operator, later, htake, hlt⟩ := Cursor.exists_of_not_settles hsettles
      rw [binaryRest_of_lt htake hlt, binaryRest_of_lt htake (hle.trans_lt hlt), Parsed.relax,
        Parsed.relax, Parsed.resume, Parsed.resume, Parsed.bindLoose_widen,
        Parsed.bindLoose_widen, Parsed.bindLoose_assoc]
      congr 2
      exact Parsed.bindLoose_congr fun right c₂ fewer _ => ih c₂ (fewer.trans later.2) _

theorem binary_eq_climb {floor tight : Level} (hle : floor ≤ tight) (c : Cursor) :
    binary floor c
      = (binary tight c).bindLoose fun left c₁ _ => binaryRest floor left c₁ := by
  rw [binary, binary, Parsed.bindLoose_assoc]
  exact Parsed.bindLoose_congr fun left c₁ _ _ => binaryRest_eq_climb hle left c₁

/-- Above the multiplicative level a climb takes no operator. -/
theorem binary_of_multiplicative_le {floor : Level} (h : .multiplicative ≤ floor) (c : Cursor) :
    binary floor c = exponent c := by
  rw [binary]
  conv_rhs => rw [← Parsed.bindLoose_done (exponent c)]
  exact Parsed.bindLoose_congr fun left c₁ _ _ =>
    binaryRest_of_settles (c₁.settles_multiplicative.mono h) left

theorem binary_eq_bindLoose {floor : Level} (h : floor ≤ .multiplicative) (c : Cursor) :
    binary floor c
      = (binary floor.tighter c).bindLoose fun left c₁ _ =>
          levelRest floor.tighter (fun d => binary floor.tighter d) left c₁ := by
  rw [binary, binary, Parsed.bindLoose_assoc]
  exact Parsed.bindLoose_congr fun left c₁ _ _ => binaryRest_eq_bindLoose h left c₁

/-- Climbing above a level is the rule of the next tighter level: it gives the same expression or
the same error, at the same cursor. -/
theorem binary_eq_levelRule (floor : Level) (c : Cursor) :
    binary floor c = levelRule floor.tighter c := by
  -- From the tightest level to the loosest: the rule of a level calls that of the next.
  induction hgap : Level.multiplicative.rank - floor.rank generalizing floor c with
  | zero =>
    have hfloor : .multiplicative ≤ floor := Nat.le_of_sub_eq_zero hgap
    have htighter : .multiplicative < floor.tighter :=
      not_le.1 fun h => not_lt_of_ge hfloor (floor.tighter_le_multiplicative_iff.1 h)
    rw [binary_of_multiplicative_le hfloor, levelRule_of_lt htighter]
  | succ gap ih =>
    have hfloor : floor < .multiplicative := Nat.lt_of_sub_eq_succ hgap
    have htighter : floor.tighter ≤ .multiplicative :=
      floor.tighter_le_multiplicative_iff.2 hfloor
    have hih : ∀ d, binary floor.tighter d = levelRule floor.tighter.tighter d := by
      refine fun d => ih floor.tighter d ?_
      rw [Level.rank_tighter hfloor.le]
      omega
    rw [binary_eq_bindLoose hfloor.le, levelRule_of_le htighter]
    simp only [hih]

end Grammar

end ScriptSteps
