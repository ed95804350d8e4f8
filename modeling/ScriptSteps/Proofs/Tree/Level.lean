import Mathlib
import ScriptSteps.Tree.Operator

/-!
# The order of the binding levels

Levels are ordered by how tightly they bind, and no two bind equally.

## Main statements

* `Level.rank_injective`: the rank of a level determines it
* the levels are a linear order
-/

namespace ScriptSteps.Level

theorem rank_injective : Function.Injective rank := by
  intro a b h
  cases a <;> cases b <;> first | rfl | exact absurd h (by decide)

theorem le_iff_rank_le {a b : Level} : a ≤ b ↔ a.rank ≤ b.rank := Iff.rfl

theorem lt_iff_rank_lt {a b : Level} : a < b ↔ a.rank < b.rank := Iff.rfl

instance : LinearOrder Level where
  le_refl a := Nat.le_refl a.rank
  le_trans _ _ _ := Nat.le_trans
  le_antisymm _ _ hab hba := rank_injective (Nat.le_antisymm hab hba)
  lt_iff_le_not_ge _ _ := Nat.lt_iff_le_and_not_ge
  le_total a b := Nat.le_total a.rank b.rank
  toDecidableLE := inferInstance
  toDecidableEq := inferInstance
  toDecidableLT := inferInstance

/-- What is above a level is at least the next level. -/
theorem next_le {a b l : Level} (hnext : b.rank = a.rank + 1) (h : a < l) : b ≤ l := by
  rw [le_iff_rank_le, hnext]
  exact h

end ScriptSteps.Level

namespace ScriptSteps.BinaryOperator

theorem coalesce_le_level (operator : BinaryOperator) : .coalesce ≤ operator.level := by
  cases operator <;> decide

theorem level_le_exponent (operator : BinaryOperator) : operator.level ≤ .exponent := by
  cases operator <;> decide

end ScriptSteps.BinaryOperator
