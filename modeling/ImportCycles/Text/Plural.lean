/-! # Words that follow a number -/

namespace ImportCycles.Text

/-- The word as it follows a count: alone after one, with an `s` after any other number. -/
def plural (word : String) (count : Nat) : String :=
  if count = 1 then word else word ++ "s"

end ImportCycles.Text
