import ImportCycles.FileId

/-! # Cycles

A cycle is written as its members, the file that triggered the search first. The import from the
last member back to the first is implied.
-/

namespace ImportCycles

/-- The members of a circular import, starting with the file it was found from. -/
structure Cycle where
  members : List FileId
  deriving DecidableEq, Repr, Inhabited

namespace Cycle

/-- The file the cycle starts and ends at. -/
def trigger? (cycle : Cycle) : Option FileId :=
  cycle.members.head?

/-- The number of members, which is the number of imports. -/
def size (cycle : Cycle) : Nat :=
  cycle.members.length

/-- The imports of the cycle, the closing one last. -/
def links (cycle : Cycle) : List (FileId × FileId) :=
  cycle.members.zip (cycle.members.drop 1 ++ cycle.members.take 1)

/-- The members followed by the first one again, divided by arrows and shown relative to `root`. -/
def render (cycle : Cycle) (root : Option Octets) : String :=
  " -> ".intercalate ((cycle.members ++ cycle.members.take 1).map (·.shown root))

end Cycle

end ImportCycles
