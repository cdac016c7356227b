/-!
# Ranges of code points
-/

namespace WarehouseAdapter

def inRanges (ranges : List (Nat × Nat)) (c : Char) : Bool :=
  ranges.any fun r => r.1 ≤ c.toNat && c.toNat ≤ r.2

end WarehouseAdapter
