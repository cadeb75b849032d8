import ImportCycles.Graph.Basic
import Std.Data.TreeMap

/-! # Steps along imports

The imports of a graph arranged by file, so that a search finds what a file leads to without a look
at all the others. There are two ways to go: from a file to those that it imports, and to those by
which it is imported.
-/

namespace ImportCycles

/-- For each file that leads anywhere, the files it leads to. -/
abbrev Steps := Std.TreeMap FileId (List FileId)

namespace Steps

/-- The files that `file` leads to. -/
def next (steps : Steps) (file : FileId) : List FileId :=
  steps.getD file []

/-- Adds a step in front of those that `source` has. -/
def add (steps : Steps) (source target : FileId) : Steps :=
  steps.insert source (target :: steps.next source)

/-- A step is added to its source only. -/
theorem next_add (steps : Steps) (source target file : FileId) :
    (steps.add source target).next file =
      if source = file then target :: steps.next file else steps.next file := by
  by_cases same : source = file
  · subst same
    simp [next, add]
  · simp [next, add, same, Std.TreeMap.getD_insert]

end Steps

namespace ImportGraph

/-- The files that import `file`. -/
def importers (graph : ImportGraph) (file : FileId) : List FileId :=
  (graph.edges.filter (·.target = file)).map (·.source)

/-- The steps from each file to those it imports. -/
def outgoing (graph : ImportGraph) : Steps :=
  graph.edges.foldr (fun edge steps => steps.add edge.source edge.target) ∅

/-- The steps from each file to those that import it. -/
def incoming (graph : ImportGraph) : Steps :=
  graph.edges.foldr (fun edge steps => steps.add edge.target edge.source) ∅

/-- The outgoing steps of a file are its imports, in their order. -/
theorem next_outgoing (graph : ImportGraph) (file : FileId) :
    graph.outgoing.next file = graph.targets file := by
  obtain ⟨edges⟩ := graph
  induction edges with
  | nil => simp [outgoing, targets, edgesFrom, Steps.next]
  | cons edge rest ih =>
    simp only [outgoing, targets, edgesFrom, List.foldr_cons, Steps.next_add] at ih ⊢
    by_cases same : edge.source = file <;> simp [same, ih]

/-- The incoming steps of a file are its importers, in their order. -/
theorem next_incoming (graph : ImportGraph) (file : FileId) :
    graph.incoming.next file = graph.importers file := by
  obtain ⟨edges⟩ := graph
  induction edges with
  | nil => simp [incoming, importers, Steps.next]
  | cons edge rest ih =>
    simp only [incoming, importers, List.foldr_cons, Steps.next_add] at ih ⊢
    by_cases same : edge.target = file <;> simp [same, ih]

end ImportGraph

end ImportCycles
