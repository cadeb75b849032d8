import ImportCycles.Proofs.Runs

/-! # Graphs with the same imports

A graph keeps the imports of all files in one list, and how those of different files are mixed there
depends on the order of the analyses. Nothing that is asked of a graph tells the difference: the
searches go by the imports of each file, and importers, whose order does depend on the mixture, are
put into path order before they are tried.
-/

namespace ImportCycles

namespace Steps

variable {steps others : Steps} {goal start : FileId} {allowed : FileId → Bool}

theorem leadsTo_congr (same : ∀ file, steps.next file = others.next file) :
    steps.leadsTo goal = others.leadsTo goal := by
  funext trail
  cases trail with
  | nil => rfl
  | cons file trail => simp only [leadsTo, same]

theorem extendLevel_congr (same : ∀ file, steps.next file = others.next file) (level : List Trail)
    (found : List Trail × FileSet) :
    steps.extendLevel allowed level found = others.extendLevel allowed level found := by
  induction level generalizing found with
  | nil => rfl
  | cons trail level ih =>
    cases trail with
    | nil => exact ih found
    | cons file trail =>
      simp only [extendLevel, same]
      exact ih _

theorem searchLevels_congr (same : ∀ file, steps.next file = others.next file) (budget : Nat)
    (level : List Trail) (seen : FileSet) :
    steps.searchLevels goal allowed budget level seen =
      others.searchLevels goal allowed budget level seen := by
  induction budget generalizing level seen with
  | zero => rfl
  | succ budget ih =>
    simp only [searchLevels, leadsTo_congr same, extendLevel_congr same]
    rw [ih]

/-- A search depends only on what each file leads to. -/
theorem shortestPath?_congr (same : ∀ file, steps.next file = others.next file) (maxSteps : Nat) :
    steps.shortestPath? start goal allowed maxSteps =
      others.shortestPath? start goal allowed maxSteps := by
  unfold shortestPath?
  rw [searchLevels_congr same]

end Steps

namespace ImportGraph

/-- Every file has the same imports in both graphs: the same targets in the same order, at the same
places. -/
def SameImports (graph other : ImportGraph) : Prop :=
  ∀ file, graph.edgesFrom file = other.edgesFrom file

namespace SameImports

variable {graph other : ImportGraph}

theorem targets (same : graph.SameImports other) (file : FileId) :
    graph.targets file = other.targets file := by
  rw [ImportGraph.targets, same, ImportGraph.targets]

theorem find? (same : graph.SameImports other) (source target : FileId) :
    graph.find? source target = other.find? source target := by
  rw [ImportGraph.find?, same, ImportGraph.find?]

theorem imports (same : graph.SameImports other) : graph.Imports = other.Imports := by
  funext source target
  rw [Imports, hasEdge, same.find?, Imports, hasEdge]

theorem next_outgoing (same : graph.SameImports other) (file : FileId) :
    graph.outgoing.next file = other.outgoing.next file := by
  rw [ImportGraph.next_outgoing, same.targets, ImportGraph.next_outgoing]

theorem mem_importers (same : graph.SameImports other) (file importer : FileId) :
    importer ∈ graph.importers file ↔ importer ∈ other.importers file := by
  rw [← imports_iff_mem_importers, same.imports, imports_iff_mem_importers]

theorem mem_cycleMates (same : graph.SameImports other) (file x : FileId) :
    x ∈ graph.cycleMates file ↔ x ∈ other.cycleMates file := by
  rw [ImportGraph.mem_cycleMates, same.imports, ← ImportGraph.mem_cycleMates]

theorem contains_cycleMates (same : graph.SameImports other) (file : FileId) :
    (graph.cycleMates file).contains = (other.cycleMates file).contains := by
  funext x
  rw [Bool.eq_iff_iff, Std.TreeSet.contains_iff_mem, Std.TreeSet.contains_iff_mem]
  exact same.mem_cycleMates file x

theorem isEmpty_cycleMates (same : graph.SameImports other) (file : FileId) :
    (graph.cycleMates file).isEmpty = (other.cycleMates file).isEmpty := by
  rw [Bool.eq_iff_iff, Std.TreeSet.isEmpty_iff_forall_not_mem,
    Std.TreeSet.isEmpty_iff_forall_not_mem]
  exact forall_congr' fun x => not_congr (same.mem_cycleMates file x)

theorem cyclesByImport (same : graph.SameImports other) (file : FileId) (maxSteps : Nat) :
    graph.cyclesByImport file (graph.cycleMates file) maxSteps =
      other.cyclesByImport file (other.cycleMates file) maxSteps := by
  unfold ImportGraph.cyclesByImport
  rw [same.targets, same.contains_cycleMates]
  simp only [Steps.shortestPath?_congr same.next_outgoing]

theorem cyclesByImporter (same : graph.SameImports other) (file : FileId) (maxSteps : Nat) :
    graph.cyclesByImporter file (graph.cycleMates file) maxSteps =
      other.cyclesByImporter file (other.cycleMates file) maxSteps := by
  -- The importers stand in different orders before they are sorted.
  have sorted : FileId.sorted ((graph.importers file).filter fun importer =>
        importer ≠ file && (other.cycleMates file).contains importer) =
      FileId.sorted ((other.importers file).filter fun importer =>
        importer ≠ file && (other.cycleMates file).contains importer) := by
    apply FileId.sorted_congr
    intro importer
    rw [List.mem_filter, List.mem_filter, same.mem_importers]
  unfold ImportGraph.cyclesByImporter
  rw [same.contains_cycleMates]
  simp only [Steps.shortestPath?_congr same.next_outgoing, sorted]

/-- The same cycles are found in both graphs, in the same order. -/
theorem shortestCycles (same : graph.SameImports other) (file : FileId) (depthLimit : Nat) :
    graph.shortestCycles file depthLimit = other.shortestCycles file depthLimit := by
  unfold ImportGraph.shortestCycles
  simp only [same.isEmpty_cycleMates, same.cyclesByImport, same.cyclesByImporter]

end SameImports

end ImportGraph

/-- Sessions with the same imports and the same limit give the same cycles through every file,
whatever was reported in them. -/
theorem Session.cyclesAt_congr {session other : Session}
    (same : session.graph.SameImports other.graph) (limit : session.depthLimit = other.depthLimit)
    (file : FileId) : session.cyclesAt file = other.cyclesAt file := by
  rw [cyclesAt_eq_shortestCycles, cyclesAt_eq_shortestCycles, same.shortestCycles, limit]

namespace Linter

variable {linter other : Linter}

theorem diagnose_congr (same : linter.graph.SameImports other.graph) (root : linter.root = other.root)
    (source : String) : linter.diagnose source = other.diagnose source := by
  funext cycle
  have entrance : linter.entrance cycle = other.entrance cycle := by
    simp only [Linter.entrance, same.find?]
  rw [diagnose, entrance, root, diagnose]

/-- Linters with the same imports, limit and root put the same cycles into the spotlight. -/
theorem spotlight_congr (same : linter.graph.SameImports other.graph)
    (limit : linter.session.depthLimit = other.session.depthLimit) (root : linter.root = other.root)
    (file : FileId) (source : String) :
    linter.spotlight file source = other.spotlight file source := by
  rw [spotlight, Session.cyclesAt_congr same limit, diagnose_congr same root, spotlight]

end Linter

end ImportCycles
