import Memoryless.Text.CodePoints

/-!
# Blanks

The characters that Unicode counts as white space.
-/

namespace Memoryless.Text

/-- The code points with the property White_Space in Unicode 17. -/
def blanks : List CodePoints := [
  ⟨0x09, 0x0d⟩, ⟨0x20, 0x20⟩, ⟨0x85, 0x85⟩, ⟨0xa0, 0xa0⟩, ⟨0x1680, 0x1680⟩, ⟨0x2000, 0x200a⟩,
  ⟨0x2028, 0x2029⟩, ⟨0x202f, 0x202f⟩, ⟨0x205f, 0x205f⟩, ⟨0x3000, 0x3000⟩]

/-- Is the character a blank? -/
def isBlank (c : Char) : Bool :=
  CodePoints.anyContains blanks c

theorem isBlank_of_isAlphanum {c : Char} (letter : c.isAlphanum = true) : isBlank c = false := by
  have classes : (decide ('A'.val ≤ c.val ∧ c.val ≤ 'Z'.val) || ('a'.val ≤ c.val && c.val ≤ 'z'.val) ||
      ('0'.val ≤ c.val && c.val ≤ '9'.val)) = true := letter
  simp only [Bool.or_eq_true, Bool.and_eq_true, decide_eq_true_eq, UInt32.le_iff_toNat_le] at classes
  have between : 0x30 ≤ c.toNat ∧ c.toNat ≤ 0x7a := by
    rcases classes with (⟨h₁, h₂⟩ | ⟨h₁, h₂⟩) | ⟨h₁, h₂⟩
    · exact ⟨Nat.le_trans (by decide) h₁, Nat.le_trans h₂ (by decide)⟩
    · exact ⟨Nat.le_trans (by decide) h₁, h₂⟩
    · exact ⟨h₁, Nat.le_trans h₂ (by decide)⟩
  refine List.any_eq_false.2 fun range hmem => ?_
  have outside : range.last < 0x30 ∨ 0x7a < range.first := by
    revert range
    decide
  simp only [CodePoints.contains, Bool.and_eq_true, decide_eq_true_eq]
  omega

end Memoryless.Text
