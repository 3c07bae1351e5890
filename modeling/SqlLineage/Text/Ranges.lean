/-!
# Sets of characters

A property of characters is written as the list of the code point ranges that have it, in
ascending order.
-/

namespace SqlLineage.Text

/-- Whether a character lies in one of the ranges; both ends of a range belong to it. -/
def inRanges (ranges : List (Nat × Nat)) (c : Char) : Bool :=
  ranges.any (fun range => range.1 ≤ c.toNat && c.toNat ≤ range.2)

end SqlLineage.Text
