/-!
# Ranges of code points

A class of characters as a table: ranges of code points, ascending and with gaps between them.
-/

namespace Memoryless.Text

/-- Consecutive code points. -/
structure CodePoints where
  first : Nat
  last : Nat
  deriving DecidableEq, Repr

namespace CodePoints

/-- Is the code point in the range? -/
def contains (range : CodePoints) (n : Nat) : Bool :=
  range.first ≤ n && n ≤ range.last

/-- Is the character in one of the ranges? -/
def anyContains (ranges : List CodePoints) (c : Char) : Bool :=
  ranges.any fun range => range.contains c.toNat

theorem anyContains_of_mem {ranges : List CodePoints} {range : CodePoints} {c : Char}
    (hmem : range ∈ ranges) (hfirst : range.first ≤ c.toNat) (hlast : c.toNat ≤ range.last) :
    anyContains ranges c = true :=
  List.any_eq_true.2 ⟨range, hmem, by simp [contains, hfirst, hlast]⟩

end CodePoints

end Memoryless.Text
