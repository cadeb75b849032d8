import ImportCycles.Proofs.Order
import ImportCycles.Proofs.Walk
import ImportCycles.Session
import Mathlib.Data.List.Perm.Subperm

/-! # The imports that an analysis leaves

Adding or taking out the imports of one file does not touch those of the others, and what an analysis
leaves for its file depends on the import list alone: the targets in the order of their first
mention, each with the place of its last.
-/

namespace ImportCycles

namespace ImportGraph

variable {graph : ImportGraph} {source target file : FileId} {location : Location}

/-- The files of a graph are both ends of its imports. -/
theorem mem_files : file ∈ graph.files ↔
    ∃ edge ∈ graph.edges, file = edge.source ∨ file = edge.target := by
  simp [files, FileId.mem_sorted, endpoints]

/-- Sorting keeps every import. -/
theorem mem_sortedEdges {edge : Edge} : edge ∈ graph.sortedEdges ↔ edge ∈ graph.edges :=
  (Sorted.sortBy_perm _ _).mem_iff

theorem imports_iff_mem_edges : graph.Imports source target ↔
    ∃ edge ∈ graph.edges, edge.source = source ∧ edge.target = target := by
  rw [imports_iff_mem_targets]
  simp [targets, edgesFrom, and_assoc]

theorem imports_of_mem {edge : Edge} (mem : edge ∈ graph.edges) :
    graph.Imports edge.source edge.target :=
  imports_iff_mem_edges.2 ⟨edge, mem, rfl, rfl⟩

/-- A simple cycle has no more members than the graph has files. -/
theorem ClosedWalk.length_le_files {members : List FileId} (closed : graph.ClosedWalk file members)
    (nodup : members.Nodup) : members.length ≤ graph.files.length := by
  refine (List.subperm_of_subset nodup ?_).length_le
  intro x mem
  obtain ⟨next, step⟩ := closed.2.exists_link mem
  obtain ⟨edge, inGraph, atSource, _⟩ := imports_iff_mem_edges.1 step
  exact mem_files.2 ⟨edge, inGraph, .inl atSource.symm⟩

theorem filter_insertEdge (edge : Edge) (edges : List Edge) (file : FileId) :
    (insertEdge edge edges).filter (·.source = file) =
      if file = edge.source then insertEdge edge (edges.filter (·.source = file))
      else edges.filter (·.source = file) := by
  induction edges with
  | nil =>
    by_cases here : file = edge.source
    · simp [insertEdge, here]
    · simp [insertEdge, here, Ne.symm here]
  | cons old rest ih =>
    by_cases here : file = edge.source
    · subst here
      rw [if_pos rfl] at ih ⊢
      by_cases ours : old.source = edge.source
      · by_cases same : old.target = edge.target
        · simp [insertEdge, ours, same]
        · simp [insertEdge, ours, same, ih]
      · simp [insertEdge, ours, ih]
    · rw [if_neg here] at ih ⊢
      simp only [insertEdge]
      split
      · rename_i same
        -- The import that is replaced has the same source, so `file` keeps neither of the two.
        have notOld : old.source ≠ file := fun atFile => here (atFile ▸ same.1)
        simp [notOld, Ne.symm here]
      · simp only [List.filter_cons, ih]

/-- Adding an import changes the imports of its source only. -/
theorem edgesFrom_insert (graph : ImportGraph) (source target : FileId) (location : Location)
    (file : FileId) :
    (graph.insert source target location).edgesFrom file =
      if file = source then insertEdge ⟨source, target, location⟩ (graph.edgesFrom file)
      else graph.edgesFrom file :=
  filter_insertEdge ⟨source, target, location⟩ graph.edges file

/-- Clearing a file takes out its imports and no others. -/
theorem edgesFrom_eraseFrom (graph : ImportGraph) (gone file : FileId) :
    (graph.eraseFrom gone).edgesFrom file = if file = gone then [] else graph.edgesFrom file := by
  simp only [edgesFrom, eraseFrom, List.filter_filter]
  by_cases here : file = gone
  · simp [here]
  · rw [if_neg here]
    refine List.filter_congr ?_
    intro edge _
    by_cases atFile : edge.source = file
    · simp [atFile, here]
    · simp [atFile]

theorem eq_or_mem_of_mem_insertEdge {edge other : Edge} {edges : List Edge}
    (mem : other ∈ insertEdge edge edges) : other = edge ∨ other ∈ edges := by
  induction edges with
  | nil => exact .inl (List.mem_singleton.1 mem)
  | cons old rest ih =>
    simp only [insertEdge] at mem
    split at mem
    · rcases List.mem_cons.1 mem with rfl | mem
      · exact .inl rfl
      · exact .inr (List.mem_cons_of_mem _ mem)
    · rcases List.mem_cons.1 mem with rfl | mem
      · exact .inr (by simp)
      · exact (ih mem).imp_right (List.mem_cons_of_mem _)

theorem mem_targets_insertEdge (edge : Edge) (edges : List Edge)
    (ours : ∀ old ∈ edges, old.source = edge.source) (x : FileId) :
    x ∈ (insertEdge edge edges).map (·.target) ↔ x = edge.target ∨ x ∈ edges.map (·.target) := by
  induction edges with
  | nil => simp [insertEdge]
  | cons old rest ih =>
    have ih := ih fun other mem => ours other (List.mem_cons_of_mem _ mem)
    have atSource := ours old (by simp)
    by_cases same : old.target = edge.target
    · simp [insertEdge, atSource, same]
    · simp only [insertEdge, atSource, same, and_false, if_false, List.map_cons, List.mem_cons, ih]
      rw [or_left_comm]

/-- Adding an import adds it, and nothing else. -/
theorem imports_insert {location : Location} :
    (graph.insert source target location).Imports x y ↔
      (x = source ∧ y = target) ∨ graph.Imports x y := by
  rw [imports_iff_mem_targets, imports_iff_mem_targets, targets, edgesFrom_insert]
  split
  · rename_i same
    subst same
    have ours : ∀ old ∈ graph.edgesFrom x, old.source = x := by
      intro old mem
      exact of_decide_eq_true (List.mem_filter.1 mem).2
    rw [mem_targets_insertEdge _ _ ours, targets]
    simp
  · rename_i apart
    simp [apart, targets]

end ImportGraph

/-- The imports that a file has after an analysis with the given import list. -/
def importEdges (file : FileId) (imports : List (FileId × Location)) : List Edge :=
  imports.foldl (fun edges (target, location) =>
    ImportGraph.insertEdge ⟨file, target, location⟩ edges) []

namespace Session

variable {session : Session} {file : FileId} {imports : List (FileId × Location)}

/-- Recording imports one after the other adds them to what their source has already. -/
theorem edgesFrom_recordImports (session : Session) (file other : FileId)
    (imports : List (FileId × Location)) :
    (imports.foldl (fun s (target, location) => s.recordImport file target location)
        session).graph.edgesFrom other =
      if other = file then imports.foldl (fun edges (target, location) =>
        ImportGraph.insertEdge ⟨file, target, location⟩ edges) (session.graph.edgesFrom other)
      else session.graph.edgesFrom other := by
  induction imports generalizing session with
  | nil => simp
  | cons first rest ih =>
    obtain ⟨target, location⟩ := first
    simp only [List.foldl_cons]
    rw [ih, recordImport, ImportGraph.edgesFrom_insert]
    by_cases here : other = file
    · simp [here]
    · simp [here]

/-- An analysis replaces the imports of its file and leaves those of the others alone. -/
theorem edgesFrom_analyse (session : Session) (file other : FileId)
    (imports : List (FileId × Location)) :
    (session.analyse file imports).2.graph.edgesFrom other =
      if other = file then importEdges file imports else session.graph.edgesFrom other := by
  have recorded := edgesFrom_recordImports (session.forgetImports file) file other imports
  rw [forgetImports, ImportGraph.edgesFrom_eraseFrom] at recorded
  by_cases here : other = file
  · rw [if_pos here, if_pos here] at recorded
    rw [if_pos here]
    exact recorded
  · rw [if_neg here, if_neg here] at recorded
    rw [if_neg here]
    exact recorded

theorem mem_targets_foldl_insertEdge (file : FileId) (imports : List (FileId × Location))
    {edges : List Edge} (ours : ∀ edge ∈ edges, edge.source = file) (x : FileId) :
    x ∈ (imports.foldl (fun edges (target, location) =>
        ImportGraph.insertEdge ⟨file, target, location⟩ edges) edges).map (·.target) ↔
      x ∈ edges.map (·.target) ∨ x ∈ imports.map (·.1) := by
  induction imports generalizing edges with
  | nil => simp
  | cons first rest ih =>
    obtain ⟨target, location⟩ := first
    have stillOurs : ∀ edge ∈ ImportGraph.insertEdge ⟨file, target, location⟩ edges,
        edge.source = file := by
      intro edge mem
      rcases ImportGraph.eq_or_mem_of_mem_insertEdge mem with rfl | mem
      · rfl
      · exact ours edge mem
    rw [List.foldl_cons, ih stillOurs, ImportGraph.mem_targets_insertEdge _ _ ours]
    simp only [List.map_cons, List.mem_cons, or_assoc]
    rw [or_left_comm]

/-- After an analysis its file imports what the import list names, and nothing else has changed. -/
theorem imports_analyse {source target : FileId} :
    (session.analyse file imports).2.graph.Imports source target ↔
      if source = file then target ∈ imports.map (·.1) else session.graph.Imports source target := by
  rw [ImportGraph.imports_iff_mem_targets, ImportGraph.targets, edgesFrom_analyse]
  by_cases here : source = file
  · rw [if_pos here, if_pos here, importEdges, mem_targets_foldl_insertEdge file imports (by simp)]
    simp
  · rw [if_neg here, if_neg here, ImportGraph.imports_iff_mem_targets, ImportGraph.targets]

end Session

end ImportCycles
