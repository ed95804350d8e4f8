/-!
# Sets of characters given by ranges

The character classes of the Unicode standard are long lists of code point intervals. `Ranges`
holds such a list and `Ranges.has` decides membership.

## Main definitions

* `Ranges`: inclusive intervals of code points
* `Ranges.has`: whether a character lies in one of them
-/

namespace ScriptSteps.Text

/-- Inclusive intervals of code points. -/
abbrev Ranges := List (Nat × Nat)

namespace Ranges

/-- Whether some interval holds the character. -/
def has (ranges : Ranges) (c : Char) : Bool :=
  ranges.any fun range => range.1 ≤ c.toNat && c.toNat ≤ range.2

theorem has_iff {ranges : Ranges} {c : Char} :
    ranges.has c = true ↔ ∃ range ∈ ranges, range.1 ≤ c.toNat ∧ c.toNat ≤ range.2 := by
  simp [has]

@[simp] theorem has_nil (c : Char) : has [] c = false := rfl

theorem has_append (left right : Ranges) (c : Char) :
    has (left ++ right) c = (has left c || has right c) := by
  simp [has]

end Ranges

end ScriptSteps.Text
