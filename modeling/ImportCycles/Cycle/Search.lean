import ImportCycles.Cycle.Basic
import ImportCycles.Graph.Reach

/-! # The shortest cycles through a file

The shortest cycle through each import of a file is kept, and the shortest through each import into
it. Each is found by a breadth-first search of bounded depth that tries imports in the order they
are written, so of several shortest paths the one that comes first in that order wins.
-/

namespace ImportCycles

/-- A path that a search has walked, its newest file first. -/
abbrev Trail := List FileId

namespace Steps

/-- Does the newest file of the trail lead to `goal`? -/
def leadsTo (steps : Steps) (goal : FileId) : Trail → Bool
  | [] => false
  | file :: _ => (steps.next file).contains goal

/-- Extends a trail by each of `nexts` that is allowed and not seen yet. Gives the new trails, the
latest first, and the files seen. -/
def extend (allowed : FileId → Bool) (trail : Trail) :
    List FileId → List Trail × FileSet → List Trail × FileSet
  | [], found => found
  | next :: rest, (trails, seen) =>
    if allowed next && !(seen.contains next) then
      extend allowed trail rest ((next :: trail) :: trails, seen.insert next)
    else extend allowed trail rest (trails, seen)

/-- Extends every trail of a level by the steps from its newest file. -/
def extendLevel (steps : Steps) (allowed : FileId → Bool) :
    List Trail → List Trail × FileSet → List Trail × FileSet
  | [], found => found
  | [] :: level, found => steps.extendLevel allowed level found
  | (file :: trail) :: level, found =>
    steps.extendLevel allowed level (extend allowed (file :: trail) (steps.next file) found)

/-- Walks level by level, at most `budget` steps further, until a trail leads to `goal`. -/
def searchLevels (steps : Steps) (goal : FileId) (allowed : FileId → Bool) :
    Nat → List Trail → FileSet → Option Trail
  | 0, _, _ => none
  | budget + 1, level, seen =>
    match level.find? (steps.leadsTo goal) with
    | some trail => some trail
    | none =>
      if level.isEmpty then none
      else
        let (trails, seen) := steps.extendLevel allowed level ([], seen)
        steps.searchLevels goal allowed budget trails.reverse seen

/-- The shortest path from `start` to `goal` of at most `maxSteps` steps through `allowed` files,
without `goal` itself. Among shortest paths the first in the order of the steps is taken. -/
def shortestPath? (steps : Steps) (start goal : FileId) (allowed : FileId → Bool)
    (maxSteps : Nat) : Option (List FileId) :=
  (steps.searchLevels goal allowed maxSteps [[start]] ((∅ : FileSet).insert start)).map List.reverse

end Steps

namespace ImportGraph

/-- The shortest way round through each import of `file`. -/
def cyclesByImport (graph : ImportGraph) (file : FileId) (mates : FileSet) (maxSteps : Nat) :
    List (List FileId) :=
  let outgoing := graph.outgoing
  (graph.targets file).filterMap fun next =>
    if next = file then some [file]
    else if mates.contains next then
      (outgoing.shortestPath? next file mates.contains maxSteps).map (file :: ·)
    else none

/-- The shortest way round through each file that imports `file`, in path order. -/
def cyclesByImporter (graph : ImportGraph) (file : FileId) (mates : FileSet) (maxSteps : Nat) :
    List (List FileId) :=
  let outgoing := graph.outgoing
  let importers := (graph.importers file).filter fun importer =>
    importer ≠ file && mates.contains importer
  (FileId.sorted importers).filterMap fun importer =>
    (outgoing.shortestPath? file importer mates.contains maxSteps).map (· ++ [importer])

/-- The cycles of at most `depthLimit` imports that start at `file`: the shortest through each of
its imports and each of its importers, every one once, shortest first. -/
def shortestCycles (graph : ImportGraph) (file : FileId) (depthLimit : Nat) : List Cycle :=
  if depthLimit = 0 then []
  else
    let mates := graph.cycleMates file
    if mates.isEmpty then []
    else
      let found := graph.cyclesByImport file mates (depthLimit - 1) ++
        graph.cyclesByImporter file mates (depthLimit - 1)
      (Sorted.sortBy (fun a b => a.length ≤ b.length) (Sorted.firstOccurrences found)).map Cycle.mk

end ImportGraph

end ImportCycles
