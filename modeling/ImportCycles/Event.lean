/-! # What happens during a run

A run tells what it does as a list of events, in the order in which they happen. Who watches the run
decides what to make of them: a person at a terminal sees all of them, otherwise only what may need
attention is written down.
-/

namespace ImportCycles

/-- Something that happens during a run. -/
inductive Event where
  /-- The search for source files begins. -/
  | searchBegins
  /-- A path to search does not exist. -/
  | pathMissing (path : String)
  /-- A path is searched. -/
  | searching (path : String)
  /-- The search has found `count` files. -/
  | searchEnds (count : Nat)
  /-- The reading of `count` files begins. -/
  | readingBegins (count : Nat)
  /-- A file cannot be read; the path is its absolute one. -/
  | fileUnreadable (path : String)
  /-- All files are read. -/
  | readingEnds
  /-- The linting of `count` files begins. -/
  | lintingBegins (count : Nat)
  /-- A file is linted. -/
  | linting (shown : String)
  /-- All files are linted. -/
  | lintingEnds
  /-- So many cycles are found in all. -/
  | cyclesFound (count : Nat)
  /-- A command says something of its own. -/
  | said (text : String)
  deriving DecidableEq, Repr

/-- Is the event told even if nobody watches? -/
def Event.isNotice : Event → Bool
  | .pathMissing _ | .fileUnreadable _ | .said _ => true
  | _ => false

end ImportCycles
