/-! # Classes of characters as ranges of code points -/

namespace SqlAdvisor.Text

/-- Whether the character's code point lies in one of the ranges, which hold both their ends. -/
def inRanges (ranges : List (Nat × Nat)) (c : Char) : Bool :=
  ranges.any fun range => range.1 ≤ c.toNat && c.toNat ≤ range.2

end SqlAdvisor.Text
