import ImportCycles.Graph.Reach

/-! # Strongly connected components

The files of a graph fall into components: two files share one when each leads to the other. A
component is written as the list of its files in path order.
-/

namespace ImportCycles.ImportGraph

/-- The files that `file` leads to and that lead back to it, by zero or more steps. -/
def componentOf (outgoing incoming : Steps) (file : FileId) : List FileId :=
  let backward := incoming.reachable [file]
  FileId.sorted ((outgoing.reachable [file]).filter backward.contains).toList

/-- Adds the component of `file` unless it is there already. -/
def addComponent (outgoing incoming : Steps) (found : List (List FileId)) (file : FileId) :
    List (List FileId) :=
  if found.any (·.contains file) then found else found ++ [componentOf outgoing incoming file]

/-- The components of the graph, each once, by their first files. -/
def components (graph : ImportGraph) : List (List FileId) :=
  let outgoing := graph.outgoing
  let incoming := graph.incoming
  graph.files.foldl (addComponent outgoing incoming) []

/-- A component holds a cycle if it has several files or one that imports itself. -/
def isCyclicComponent (graph : ImportGraph) : List FileId → Bool
  | [] => false
  | [file] => graph.hasEdge file file
  | _ :: _ :: _ => true

/-- The files of those components that hold a cycle. -/
def cyclicFiles (graph : ImportGraph) (components : List (List FileId)) : List FileId :=
  (components.filter graph.isCyclicComponent).flatten

/-- The number of the component that holds `file`. -/
def componentIndex (components : List (List FileId)) (file : FileId) : Nat :=
  components.findIdx (·.contains file)

end ImportCycles.ImportGraph
