import ImportCycles.Graph.Numbering
import ImportCycles.Proofs.ReadingBack
import ImportCycles.Proofs.SlotStore

/-! # Snapshots of a store

The entries of a store come in no particular order, and the imports of a file in the order in which
they were added. Neither shows in a snapshot: any two imports differ in the files they connect, so
sorting by these files leaves no choice, and every look-up finds the number that was given. However
the entries come, the snapshot of the store is that of its graph.
-/

namespace ImportCycles

/-- The files that an import connects. -/
def Edge.ends (edge : Edge) : FileId × FileId :=
  (edge.source, edge.target)

namespace ImportGraph

variable {graph : ImportGraph} {edge : Edge} {edges : List Edge} {source target : FileId}

theorem mem_map_ends : (source, target) ∈ edges.map Edge.ends ↔
    ∃ edge ∈ edges, edge.source = source ∧ edge.target = target := by
  simp [Edge.ends]

theorem hasEdge_iff_mem_ends :
    graph.hasEdge source target = true ↔ (source, target) ∈ graph.edges.map Edge.ends :=
  imports_iff_mem_edges.trans mem_map_ends.symm

theorem hasEdge_iff_mem_sorted :
    graph.hasEdge source target = true ↔ (source, target) ∈ graph.sortedEdges.map Edge.ends :=
  hasEdge_iff_mem_ends.trans ((Sorted.sortBy_perm _ graph.edges).map Edge.ends).mem_iff.symm

theorem map_ends_insertEdge : (insertEdge edge edges).map Edge.ends =
    if edge.ends ∈ edges.map Edge.ends then edges.map Edge.ends
    else edges.map Edge.ends ++ [edge.ends] := by
  induction edges with
  | nil => rfl
  | cons old rest ih =>
    simp only [insertEdge, List.map_cons, List.mem_cons]
    by_cases same : old.source = edge.source ∧ old.target = edge.target
    · have alike : edge.ends = old.ends := Prod.ext same.1.symm same.2.symm
      simp [same, alike]
    · have apart : edge.ends ≠ old.ends :=
        fun alike => same ⟨congrArg Prod.fst alike.symm, congrArg Prod.snd alike.symm⟩
      rw [if_neg same, List.map_cons, ih]
      by_cases there : edge.ends ∈ rest.map Edge.ends
      · simp [there]
      · simp [there, apart]

/-- A change leaves no two imports between the same files. -/
theorem nodup_ends_change (distinct : (graph.edges.map Edge.ends).Nodup) (change : Change) :
    ((graph.change change).edges.map Edge.ends).Nodup := by
  cases change with
  | add source target location =>
    change ((insertEdge ⟨source, target, location⟩ graph.edges).map Edge.ends).Nodup
    rw [map_ends_insertEdge]
    split
    · exact distinct
    · rename_i new
      exact (List.perm_append_singleton _ _).nodup_iff.2 (List.nodup_cons.2 ⟨new, distinct⟩)
  | clearFrom file => exact distinct.sublist (List.filter_sublist.map Edge.ends)
  | clear => exact .nil

/-- After any history no two imports connect the same files. -/
theorem nodup_ends_after (history : List Change) :
    ((after history).edges.map Edge.ends).Nodup := by
  induction history using List.reverseRecOn with
  | nil => exact .nil
  | append_singleton history last ih =>
    rw [after_concat]
    exact nodup_ends_change ih last

/-- The strict order of imports: by importing file, then by imported file. -/
def endsBefore (pair other : FileId × FileId) : Bool :=
  FileId.lt pair.1 other.1 || (pair.1 == other.1 && FileId.lt pair.2 other.2)

theorem endsBefore_isStrictOrder : Sorted.IsStrictOrder endsBefore :=
  FileId.lt_isStrictOrder.pairs

theorem edgeBefore_eq (a b : Edge) : edgeBefore a b = !endsBefore b.ends a.ends := by
  have order := FileId.lt_isStrictOrder
  simp only [edgeBefore, endsBefore, Edge.ends]
  by_cases same : a.source = b.source
  · simp [same, order.irrefl]
  · cases before : FileId.lt a.source b.source with
    | true => simp [order.asymm before, Ne.symm same]
    | false =>
      have after : FileId.lt b.source a.source = true := by
        rw [← Bool.not_eq_false]
        exact fun notAfter => same (order.connected before notAfter)
      simp [after, same]

/-- The sorted imports stand in strict order. -/
theorem sortedEdges_pairwise (distinct : (graph.edges.map Edge.ends).Nodup) :
    graph.sortedEdges.Pairwise fun a b => endsBefore a.ends b.ends = true :=
  endsBefore_isStrictOrder.sortBy_pairwise edgeBefore_eq distinct

theorem source_mem_files (mem : edge ∈ graph.edges) : edge.source ∈ graph.files :=
  mem_files.2 ⟨edge, mem, .inl rfl⟩

theorem target_mem_files (mem : edge ∈ graph.edges) : edge.target ∈ graph.files :=
  mem_files.2 ⟨edge, mem, .inr rfl⟩

theorem files_pairwise (graph : ImportGraph) : graph.files.Pairwise (FileId.lt · ·) :=
  Sorted.sortNew_pairwise FileId.lt_isStrictOrder _

theorem files_nodup (graph : ImportGraph) : graph.files.Nodup :=
  Sorted.sortNew_nodup FileId.lt_isStrictOrder _

end ImportGraph

namespace Numbering

variable {files : List FileId} {file : FileId}

theorem ofFiles_concat (files : List FileId) (last : FileId) :
    ofFiles (files ++ [last]) = (ofFiles files).add last :=
  List.foldl_concat _ _ _ _

@[simp] theorem files_ofFiles (files : List FileId) : (ofFiles files).files = files := by
  induction files using List.reverseRecOn with
  | nil => rfl
  | append_singleton files last ih => rw [ofFiles_concat, add, ih]

/-- Every file gets as its number the place where it stands. -/
theorem index_ofFiles (nodup : files.Nodup) (mem : file ∈ files) :
    (ofFiles files).index[file]? = some (files.idxOf file) := by
  induction files using List.reverseRecOn with
  | nil => simp at mem
  | append_singleton files last ih =>
    obtain ⟨nodup, _, apart⟩ := List.nodup_append.1 nodup
    have new : last ∉ files := fun there => apart last there last (by simp) rfl
    rw [ofFiles_concat, add, files_ofFiles, Std.TreeMap.getElem?_insert]
    by_cases same : last = file
    · subst same
      simp [List.idxOf_append_of_notMem new]
    · have there : file ∈ files := by
        simpa [Ne.symm same] using mem
      simp [same, ih nodup there, List.idxOf_append_of_mem there]

theorem edge?_ofFiles (nodup : files.Nodup) {edge : Edge} (source : edge.source ∈ files)
    (target : edge.target ∈ files) : (ofFiles files).edge? edge =
      some ⟨files.idxOf edge.source, files.idxOf edge.target, edge.location⟩ := by
  rw [edge?, index_ofFiles nodup source, index_ofFiles nodup target]
  rfl

end Numbering

namespace SlotStore

variable {store : SlotStore} {graph : ImportGraph}

theorem Holds.edges_perm (holds : store.Holds graph) (listing : store.Listing) :
    listing.edges.Perm graph.edges :=
  (listing.perm.flatMap_right _).trans holds.flatMap_perm

theorem Holds.files_listing (holds : store.Holds graph) (listing : store.Listing) :
    listing.files = graph.files := by
  rw [← holds.files_eq]
  refine FileId.sorted_congr fun file => ?_
  exact ((listing.perm.filter _).flatMap_right _).mem_iff

/-- However the entries of a store come, its snapshot is that of the graph, and no look-up fails. -/
theorem Holds.snapshot?_eq (holds : store.Holds graph)
    (distinct : (graph.edges.map Edge.ends).Nodup) (listing : store.Listing) :
    listing.snapshot? = some graph.snapshot := by
  have perm := holds.edges_perm listing
  have sorted : Sorted.sortBy ImportGraph.edgeBefore listing.edges = graph.sortedEdges :=
    ImportGraph.endsBefore_isStrictOrder.sortBy_congr ImportGraph.edgeBefore_eq
      ((perm.map Edge.ends).nodup_iff.2 distinct) perm
  have numbered : ∀ edge ∈ graph.sortedEdges, (Numbering.ofFiles graph.files).edge? edge =
      some ⟨graph.files.idxOf edge.source, graph.files.idxOf edge.target, edge.location⟩ := by
    intro edge mem
    have mem := ImportGraph.mem_sortedEdges.1 mem
    exact Numbering.edge?_ofFiles graph.files_nodup (ImportGraph.source_mem_files mem)
      (ImportGraph.target_mem_files mem)
  rw [Listing.snapshot?, holds.files_listing listing, sorted, Text.mapM_eq_some_map numbered,
    Numbering.files_ofFiles]
  rfl

end SlotStore

/-- The numbered import is this one. -/
structure Snapshot.Shows (snapshot : Snapshot) (edge : Edge) (numbered : NumberedEdge) : Prop where
  source : snapshot.files[numbered.source]? = some edge.source
  target : snapshot.files[numbered.target]? = some edge.target
  location : numbered.location = edge.location

/-- The snapshot has each file of the graph once, in path order, and each import once, sorted by
importing and then by imported file. -/
structure Snapshot.Numbers (snapshot : Snapshot) (graph : ImportGraph) : Prop where
  files_sorted : snapshot.files.Pairwise (FileId.lt · ·)
  mem_files_iff : ∀ file, file ∈ snapshot.files ↔
    ∃ other, graph.hasEdge file other = true ∨ graph.hasEdge other file = true
  edges_sorted : ∃ imports : List Edge,
    imports.Pairwise (fun a b => ImportGraph.endsBefore a.ends b.ends) ∧
      (∀ edge, edge ∈ imports ↔ graph.find? edge.source edge.target = some edge) ∧
      List.Forall₂ snapshot.Shows imports snapshot.edges

namespace ImportGraph

variable {graph : ImportGraph} {file : FileId}

theorem mem_files_iff_hasEdge : file ∈ graph.files ↔
    ∃ other, graph.hasEdge file other = true ∨ graph.hasEdge other file = true := by
  simp only [hasEdge_iff_mem_ends, mem_map_ends, mem_files]
  constructor
  · rintro ⟨edge, mem, rfl | rfl⟩
    · exact ⟨edge.target, .inl ⟨edge, mem, rfl, rfl⟩⟩
    · exact ⟨edge.source, .inr ⟨edge, mem, rfl, rfl⟩⟩
  · rintro ⟨_, ⟨edge, mem, rfl, rfl⟩ | ⟨edge, mem, rfl, rfl⟩⟩
    · exact ⟨edge, mem, .inl rfl⟩
    · exact ⟨edge, mem, .inr rfl⟩

theorem shows_snapshot {edge : Edge} (mem : edge ∈ graph.edges) :
    graph.snapshot.Shows edge
      ⟨graph.files.idxOf edge.source, graph.files.idxOf edge.target, edge.location⟩ where
  source := List.getElem?_idxOf (source_mem_files mem)
  target := List.getElem?_idxOf (target_mem_files mem)
  location := rfl

theorem snapshot_numbers (history : List Change) :
    (after history).snapshot.Numbers (after history) where
  files_sorted := (after history).files_pairwise
  mem_files_iff := fun _ => mem_files_iff_hasEdge
  edges_sorted := by
    refine ⟨(after history).sortedEdges, sortedEdges_pairwise (nodup_ends_after history), ?_, ?_⟩
    · intro edge
      rw [mem_sortedEdges, find?_eq_some_iff_of_after, mem_edgesFrom]
      simp
    · refine List.forall₂_map_right_iff.2 (List.forall₂_same.2 ?_)
      exact fun edge mem => shows_snapshot (mem_sortedEdges.1 mem)

end ImportGraph

end ImportCycles
