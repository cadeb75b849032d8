import ImportCycles.Graph.Basic

/-! # Numbered snapshots

A snapshot numbers the files of a graph in path order and lists its imports by these numbers, sorted
by importing and then by imported file.
-/

namespace ImportCycles

/-- One import between numbered files. -/
structure NumberedEdge where
  source : Nat
  target : Nat
  location : Location
  deriving DecidableEq, Repr

/-- The files of a graph in path order, and its imports by the numbers of these files. -/
structure Snapshot where
  files : List FileId
  edges : List NumberedEdge
  deriving DecidableEq, Repr

/-- The snapshot of a graph. -/
def ImportGraph.snapshot (graph : ImportGraph) : Snapshot :=
  let files := graph.files
  { files
    edges := graph.sortedEdges.map fun edge =>
      ⟨files.idxOf edge.source, files.idxOf edge.target, edge.location⟩ }

end ImportCycles
