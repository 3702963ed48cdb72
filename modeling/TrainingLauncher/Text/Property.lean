/-
Character properties given by ranges of code points.
-/

namespace TrainingLauncher.Text

/-- The first and the last code point of a run of characters. -/
abbrev CodeRange := Nat × Nat

/-- A character has a property when its code point lies in one of the property's ranges. -/
def inRanges (ranges : List CodeRange) (char : Char) : Bool :=
  ranges.any fun range => range.1 ≤ char.toNat && char.toNat ≤ range.2

theorem inRanges_iff (ranges : List CodeRange) (char : Char) :
    inRanges ranges char = true ↔
      ∃ range ∈ ranges, range.1 ≤ char.toNat ∧ char.toNat ≤ range.2 := by
  simp [inRanges]

end TrainingLauncher.Text
