/-! # Ranges of characters

A property of characters that only a table can tell is given as ranges of code points.
-/

namespace ImportCycles.Text

/-- Ranges of code points, each with its first and its last. -/
abbrev Ranges := List (Nat × Nat)

/-- Is the character in one of the ranges? -/
def Ranges.cover (ranges : Ranges) (c : Char) : Bool :=
  ranges.any fun (first, last) => first ≤ c.toNat && c.toNat ≤ last

end ImportCycles.Text
