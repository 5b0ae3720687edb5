/-! # Ranges — classes of characters as closed ranges of code points -/

namespace FaultResponse.Text

/-- Whether the code point of a character lies in one of the ranges. -/
def liesIn (ranges : List (Nat × Nat)) (c : Char) : Bool :=
  ranges.any fun range => decide (range.1 ≤ c.toNat) && decide (c.toNat ≤ range.2)

end FaultResponse.Text
