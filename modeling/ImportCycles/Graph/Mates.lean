import ImportCycles.Graph.Reach

/-! # The search for the files on cycles with a file

The files that lie on a cycle with a file can be found in two passes. The first goes forward along
imports and notes for every import it comes upon who the importer is. The second goes backward along
these notes only, and starts from the importers of the file itself. Both go round by round with a
stack of files that wait. A round takes the top of the stack. If the pass has visited it, it is
dropped; otherwise it is visited, and whatever it leads to goes onto the stack, visited or not. So a
file may wait several times.
-/

namespace ImportCycles

/-- The pass that a search is in: the files that wait, the top of the stack first, the files that
the pass has visited, and the importers that were noted for each file, the latest first. -/
inductive MateSearch where
  | forward (waiting : List FileId) (visited : FileSet) (noted : Steps)
  | backward (waiting : List FileId) (visited : FileSet) (noted : Steps)

namespace MateSearch

/-- What a round comes to: an answer, or a search that goes on. -/
inductive Round where
  | answer (mates : FileSet)
  | next (search : MateSearch)

/-- Before the first round the file itself waits. -/
def start (home : FileId) : MateSearch :=
  .forward [home] ∅ ∅

/-- Notes `file` as an importer of each of `targets`. -/
def note (file : FileId) (targets : List FileId) (noted : Steps) : Steps :=
  targets.foldl (fun noted target => noted.add target file) noted

/-- One round of the search for the files on cycles with `home`. -/
def round (graph : ImportGraph) (home : FileId) : MateSearch → Round
  | .forward [] _ noted => .next (.backward (noted.next home) ∅ noted)
  | .forward (file :: rest) visited noted =>
    if visited.contains file then .next (.forward rest visited noted)
    else
      let targets := graph.targets file
      .next (.forward (targets.reverse ++ rest) (visited.insert file) (note file targets noted))
  | .backward [] visited _ => .answer visited
  | .backward (file :: rest) visited noted =>
    if visited.contains file then .next (.backward rest visited noted)
    else .next (.backward (noted.next file ++ rest) (visited.insert file) noted)

/-- The answer that the search gives within a number of rounds, if it ends in them. -/
def answer? (graph : ImportGraph) (home : FileId) : Nat → MateSearch → Option FileSet
  | 0, _ => none
  | rounds + 1, search =>
    match search.round graph home with
    | .answer mates => some mates
    | .next search => answer? graph home rounds search

end MateSearch

end ImportCycles
