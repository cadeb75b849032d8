import ImportCycles.FileId

/-! # The import graph

The graph is its list of imports, in the order they were first seen. A file's imports are the ones
that leave it; analysing a file again means taking them out and putting in the new ones: what an
edit removed never lingers. Imports into a file stay when the file itself is cleared.
-/

namespace ImportCycles

/-- Where an import statement stands in its source: byte offset and length, and the line and column
that are shown. Lines and columns count from one, and are zero where they are not known. -/
structure Location where
  offset : Nat := 0
  length : Nat := 0
  line : Nat := 0
  column : Nat := 0
  deriving DecidableEq, Repr, Inhabited

/-- One file importing another, and the statement that does it. -/
structure Edge where
  source : FileId
  target : FileId
  location : Location := {}
  deriving DecidableEq, Repr, Inhabited

/-- The files that import each other. -/
structure ImportGraph where
  edges : List Edge := []
  deriving DecidableEq, Repr, Inhabited

namespace ImportGraph

/-- The graph without imports. -/
def empty : ImportGraph := {}

/-- The imports of `file`, in the order they were first added. -/
def edgesFrom (graph : ImportGraph) (file : FileId) : List Edge :=
  graph.edges.filter (·.source = file)

/-- The files that `file` imports, in the order of its imports. -/
def targets (graph : ImportGraph) (file : FileId) : List FileId :=
  (graph.edgesFrom file).map (·.target)

/-- The import of `target` by `source`. -/
def find? (graph : ImportGraph) (source target : FileId) : Option Edge :=
  (graph.edgesFrom source).find? (·.target = target)

/-- Does `source` import `target`? -/
def hasEdge (graph : ImportGraph) (source target : FileId) : Bool :=
  (graph.find? source target).isSome

/-- Adds an import at the end, or gives the one that is there its new location. -/
def insertEdge (edge : Edge) : List Edge → List Edge
  | [] => [edge]
  | old :: rest =>
    if old.source = edge.source ∧ old.target = edge.target then edge :: rest
    else old :: insertEdge edge rest

/-- Records that `source` imports `target` at `location`. -/
def insert (graph : ImportGraph) (source target : FileId) (location : Location) : ImportGraph :=
  ⟨insertEdge ⟨source, target, location⟩ graph.edges⟩

/-- Takes out every import of `file`. -/
def eraseFrom (graph : ImportGraph) (file : FileId) : ImportGraph :=
  ⟨graph.edges.filter (·.source ≠ file)⟩

/-- How many imports `eraseFrom` takes out. -/
def outDegree (graph : ImportGraph) (file : FileId) : Nat :=
  (graph.edgesFrom file).length

/-- The number of imports. -/
def size (graph : ImportGraph) : Nat :=
  graph.edges.length

/-- Is there no import at all? -/
def isEmpty (graph : ImportGraph) : Bool :=
  graph.size == 0

/-- Both ends of every import, as often as they occur. -/
def endpoints (graph : ImportGraph) : List FileId :=
  graph.edges.flatMap fun edge => [edge.source, edge.target]

/-- Every file that imports or is imported, in path order. -/
def files (graph : ImportGraph) : List FileId :=
  FileId.sorted graph.endpoints

/-- The order of imports: by importing file, then by imported file. -/
def edgeBefore (a b : Edge) : Bool :=
  FileId.lt a.source b.source || (a.source == b.source && !FileId.lt b.target a.target)

/-- Every import, sorted by importing and then by imported file. -/
def sortedEdges (graph : ImportGraph) : List Edge :=
  Sorted.sortBy edgeBefore graph.edges

end ImportGraph

end ImportCycles
