/-!
Sets of code points given as ranges in ascending order.
-/

namespace CodeIndex.Text

/-- The code point lies in one of the closed ranges. -/
def inRanges (table : Array (Nat × Nat)) (n : Nat) : Bool :=
  table.any fun r => r.1 ≤ n && n ≤ r.2

end CodeIndex.Text
