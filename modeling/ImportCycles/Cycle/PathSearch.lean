import ImportCycles.Graph.Reach

/-! # The search for a shortest path with a queue

Files wait in a queue with their distances from the start. A round takes the first one and looks
through its imports in order: an import of the goal ends the search, and any other allowed file that
was not seen before gets the importer as its parent and joins the queue. Files that are as far away
as the limit allows are passed over. From a file that imports the goal the search climbs from parent
to parent, one in each round, and puts the path together. It is done at a file without a parent.
-/

namespace ImportCycles

/-- The files that wait, the first in front, with their distances; the files seen; and the parent of
each file that joined the queue later than the start. -/
structure SearchTree where
  queue : List (FileId × Nat)
  seen : FileSet
  parents : Std.TreeMap FileId FileId

namespace SearchTree

/-- Puts `next` at the end of the queue, with `file` as its parent. -/
def join (tree : SearchTree) (file next : FileId) (distance : Nat) : SearchTree where
  queue := tree.queue ++ [(next, distance)]
  seen := tree.seen.insert next
  parents := tree.parents.insert next file

/-- Looks through imports of `file`, which is `distance` away from the start, until one of them is
`goal`. Tells whether there was one. -/
def look (goal : FileId) (allowed : FileId → Bool) (file : FileId) (distance : Nat) :
    List FileId → SearchTree → Bool × SearchTree
  | [], tree => (false, tree)
  | next :: rest, tree =>
    if next = goal then (true, tree)
    else if allowed next && !tree.seen.contains next then
      look goal allowed file distance rest (tree.join file next (distance + 1))
    else look goal allowed file distance rest tree

end SearchTree

/-- A search is under way as long as the goal was not met. Then it climbs; `path` is what comes
behind `file`. -/
inductive PathSearch where
  | underway (tree : SearchTree)
  | climbing (parents : Std.TreeMap FileId FileId) (file : FileId) (path : List FileId)

namespace PathSearch

/-- What a round comes to: an answer, or a search that goes on. -/
inductive Round where
  | answer (path : Option (List FileId))
  | next (search : PathSearch)

/-- Before the first round the start waits. -/
def start (file : FileId) : PathSearch :=
  .underway ⟨[(file, 0)], (∅ : FileSet).insert file, ∅⟩

/-- One round of the search for a shortest path to `goal` of at most `maxSteps` imports. -/
def round (graph : ImportGraph) (goal : FileId) (allowed : FileId → Bool) (maxSteps : Nat) :
    PathSearch → Round
  | .underway tree =>
    match tree.queue with
    | [] => .answer none
    | (file, distance) :: queue =>
      if maxSteps ≤ distance then .next (.underway { tree with queue })
      else
        match { tree with queue }.look goal allowed file distance (graph.targets file) with
        | (true, tree) => .next (.climbing tree.parents file [])
        | (false, tree) => .next (.underway tree)
  | .climbing parents file path =>
    match parents[file]? with
    | some parent => .next (.climbing parents parent (file :: path))
    | none => .answer (some (file :: path))

/-- The answer that the search gives within a number of rounds, if it ends in them. -/
def answer? (graph : ImportGraph) (goal : FileId) (allowed : FileId → Bool) (maxSteps : Nat) :
    Nat → PathSearch → Option (Option (List FileId))
  | 0, _ => none
  | rounds + 1, search =>
    match search.round graph goal allowed maxSteps with
    | .answer path => some path
    | .next search => answer? graph goal allowed maxSteps rounds search

end PathSearch

end ImportCycles
