import ImportCycles.Graph.Component
import ImportCycles.Graph.Snapshot

/-! # Pictures of the import graph

What a drawing shows, before it is written in some format: a label for every file and a line for
every import, each marked if it is on a cycle. Files are numbered in path order.
-/

namespace ImportCycles

namespace Drawing

/-- A file in a picture. -/
structure Node where
  label : String
  cyclic : Bool
  deriving DecidableEq, Repr

/-- An import in a picture, by the numbers of its files. -/
structure Link where
  source : Nat
  target : Nat
  cyclic : Bool
  deriving DecidableEq, Repr

/-- The files and imports that a drawing shows. -/
structure Picture where
  nodes : List Node
  links : List Link
  deriving DecidableEq, Repr

/-- How a graph is drawn. -/
structure Style where
  /-- Are files and imports on cycles marked? -/
  highlight : Bool := true
  /-- The directory that labels are relative to. -/
  root : Option Octets := none
  deriving DecidableEq, Repr

/-- Is this import on a cycle? Its files then share a component, and the component holds a cycle. -/
def isCyclicEdge (components : List (List FileId)) (cyclic : List FileId) (edge : Edge) : Bool :=
  cyclic.contains edge.source &&
    ImportGraph.componentIndex components edge.source ==
      ImportGraph.componentIndex components edge.target

/-- The picture of a graph. -/
def picture (style : Style) (graph : ImportGraph) : Picture :=
  let files := graph.files
  let components := graph.components
  let cyclic := graph.cyclicFiles components
  { nodes := files.map fun file =>
      ⟨file.shown style.root, style.highlight && cyclic.contains file⟩
    links := graph.sortedEdges.map fun edge =>
      ⟨files.idxOf edge.source, files.idxOf edge.target,
        style.highlight && isCyclicEdge components cyclic edge⟩ }

/-- Lines as a text, each ended by a line feed. -/
def unlines (lines : List String) : String :=
  String.join (lines.map (· ++ "\n"))

/-! One palette serves all formats: blue for the rest, orange for cycles. -/

/-- The fill colour of a file. -/
def fillColor (cyclic : Bool) : String := if cyclic then "#FFF3E0" else "#E3F2FD"

/-- The border colour of a file. -/
def strokeColor (cyclic : Bool) : String := if cyclic then "#F57C00" else "#1976D2"

/-- The colour of an import. -/
def linkColor (cyclic : Bool) : String := if cyclic then "#FF6500" else "#64B5F6"

end Drawing

end ImportCycles
