import ImportCycles.Graph.Reach

/-! # The search for a way back

Whether a file leads back to itself can be asked without visiting everything it leads to. This search
goes round by round. It keeps a stack of files that wait and the set of files it has been to. A round
takes the top of the stack: if it is the file itself, a way back is found; a file that was visited is
dropped; any other one is visited, and the files it imports go onto the stack unless they were visited
too. A file may wait several times, and whether it is the one looked for is asked before anything else.
-/

namespace ImportCycles

/-- The files that wait, the top of the stack first, and the files that were visited. -/
structure WayBack where
  waiting : List FileId
  visited : FileSet

namespace WayBack

/-- What a round comes to: an answer, or a search that goes on. -/
inductive Round where
  | answer (found : Bool)
  | next (search : WayBack)

/-- Before the first round the imports of `home` wait, the last one on top. -/
def start (graph : ImportGraph) (home : FileId) : WayBack :=
  ⟨(graph.targets home).reverse, ∅⟩

/-- Visits `file`, with `rest` below it on the stack: the files it imports take its place, except those
that were visited. -/
def visit (graph : ImportGraph) (file : FileId) (rest : List FileId) (visited : FileSet) : WayBack :=
  let visited := visited.insert file
  let nexts := (graph.targets file).filter fun next => !visited.contains next
  ⟨nexts.reverse ++ rest, visited⟩

/-- One round of the search for a way back to `home`. -/
def round (graph : ImportGraph) (home : FileId) (search : WayBack) : Round :=
  match search.waiting with
  | [] => .answer false
  | file :: rest =>
    if file = home then .answer true
    else if search.visited.contains file then .next { search with waiting := rest }
    else .next (visit graph file rest search.visited)

/-- The answer that the search gives within a number of rounds, if it ends in them. -/
def answer? (graph : ImportGraph) (home : FileId) : Nat → WayBack → Option Bool
  | 0, _ => none
  | rounds + 1, search =>
    match search.round graph home with
    | .answer found => some found
    | .next search => answer? graph home rounds search

end WayBack

end ImportCycles
