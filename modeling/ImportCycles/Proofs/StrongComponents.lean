import ImportCycles.Graph.Component
import ImportCycles.Proofs.Edges
import ImportCycles.Proofs.Reach

/-! # The components of a graph

The components that are computed divide the files of a graph by the relation of leading to each
other. Any such division, in whatever order it lists the components and their files, answers two
questions alike: a file belongs to a component with a cycle exactly if it is on a cycle, and two
files have the same component number exactly if they are connected.
-/

namespace ImportCycles.ImportGraph

/-- The lists hold every file of the graph, and each is a strongly connected component, its files
listed once. -/
structure Divides (graph : ImportGraph) (components : List (List FileId)) : Prop where
  covers : ∀ file ∈ graph.files, ∃ component ∈ components, file ∈ component
  whole : ∀ component ∈ components, ∀ a ∈ component, ∀ b, b ∈ component ↔ graph.Connected a b
  nodup : ∀ component ∈ components, component.Nodup

variable {graph : ImportGraph} {components : List (List FileId)} {file a b : FileId}

theorem Connected.refl (graph : ImportGraph) (a : FileId) : graph.Connected a a :=
  ⟨.refl, .refl⟩

theorem Connected.symm (connected : graph.Connected a b) : graph.Connected b a :=
  ⟨connected.2, connected.1⟩

theorem mem_componentOf :
    b ∈ componentOf graph.outgoing graph.incoming a ↔ graph.Connected a b := by
  simp only [componentOf, FileId.mem_sorted, Std.TreeSet.mem_toList, Std.TreeSet.mem_filter,
    Std.TreeSet.get_eq, exists_prop, Std.TreeSet.contains_iff_mem, Steps.mem_reachable,
    leads_outgoing, leads_incoming, List.mem_singleton, exists_eq_left, Connected,
    Relation.reflTransGen_swap]

theorem componentOf_nodup (outgoing incoming : Steps) (a : FileId) :
    (componentOf outgoing incoming a).Nodup :=
  Sorted.sortNew_nodup FileId.lt_isStrictOrder _

/-- Whatever is found while the files are gone through is the component of some file, and the files
gone through have theirs. -/
theorem foldl_addComponent (graph : ImportGraph) (files : List FileId) (found : List (List FileId))
    (old : ∀ component ∈ found,
      ∃ file, component = componentOf graph.outgoing graph.incoming file) :
    (∀ component ∈ files.foldl (addComponent graph.outgoing graph.incoming) found,
        ∃ file, component = componentOf graph.outgoing graph.incoming file) ∧
      (∀ component ∈ found,
        component ∈ files.foldl (addComponent graph.outgoing graph.incoming) found) ∧
      ∀ file ∈ files, ∃ component ∈ files.foldl (addComponent graph.outgoing graph.incoming) found,
        file ∈ component := by
  induction files generalizing found with
  | nil => exact ⟨old, fun _ mem => mem, by simp⟩
  | cons first rest ih =>
    by_cases there : found.any (·.contains first) = true
    · -- The first file has its component already.
      obtain ⟨component, mem, inside⟩ := List.any_eq_true.1 there
      have same : addComponent graph.outgoing graph.incoming found first = found := if_pos there
      obtain ⟨origin, kept, covered⟩ := ih found old
      rw [List.foldl_cons, same]
      refine ⟨origin, kept, ?_⟩
      intro file memFile
      rcases List.mem_cons.1 memFile with rfl | memFile
      · exact ⟨component, kept component mem, List.contains_iff_mem.1 inside⟩
      · exact covered file memFile
    · have grown : addComponent graph.outgoing graph.incoming found first =
          found ++ [componentOf graph.outgoing graph.incoming first] := if_neg there
      have oldGrown : ∀ component ∈ found ++ [componentOf graph.outgoing graph.incoming first],
          ∃ file, component = componentOf graph.outgoing graph.incoming file := by
        intro component mem
        rcases List.mem_append.1 mem with mem | mem
        · exact old component mem
        · exact ⟨first, List.mem_singleton.1 mem⟩
      obtain ⟨origin, kept, covered⟩ := ih _ oldGrown
      rw [List.foldl_cons, grown]
      refine ⟨origin, fun component mem => kept component (List.mem_append_left _ mem), ?_⟩
      intro file memFile
      rcases List.mem_cons.1 memFile with rfl | memFile
      · exact ⟨_, kept _ (by simp), mem_componentOf.2 (.refl graph file)⟩
      · exact covered file memFile

/-- The computed components divide the files of the graph. -/
theorem divides_components (graph : ImportGraph) : graph.Divides graph.components := by
  obtain ⟨origin, _, covered⟩ := foldl_addComponent graph graph.files [] (by simp)
  refine ⟨covered, ?_, ?_⟩
  · intro component mem a inside b
    obtain ⟨file, rfl⟩ := origin component mem
    rw [mem_componentOf] at inside ⊢
    exact ⟨inside.symm.trans, inside.trans⟩
  · intro component mem
    obtain ⟨file, rfl⟩ := origin component mem
    exact componentOf_nodup _ _ file

/-- The lists are components of files of the graph, and no file is in two of them. -/
structure Parts (graph : ImportGraph) (found : List (List FileId)) : Prop where
  origin : ∀ component ∈ found,
    ∃ file ∈ graph.files, component = componentOf graph.outgoing graph.incoming file
  disjoint : found.Pairwise List.Disjoint

theorem Parts.addComponent {found : List (List FileId)} (parts : graph.Parts found)
    (mem : file ∈ graph.files) :
    graph.Parts (addComponent graph.outgoing graph.incoming found file) := by
  unfold ImportGraph.addComponent
  split
  · exact parts
  · rename_i missing
    refine ⟨?_, List.pairwise_append.2 ⟨parts.disjoint, List.pairwise_singleton _ _, ?_⟩⟩
    · intro component inside
      rcases List.mem_append.1 inside with inside | inside
      · exact parts.origin component inside
      · exact ⟨file, mem, List.mem_singleton.1 inside⟩
    · intro component inside last isLast other shared sharedLast
      obtain ⟨first, _, rfl⟩ := parts.origin component inside
      rw [List.mem_singleton.1 isLast, mem_componentOf] at sharedLast
      rw [mem_componentOf] at shared
      -- A component that shares a file with that of `file` would have had `file` in it.
      have there : file ∈ componentOf graph.outgoing graph.incoming first :=
        mem_componentOf.2 (shared.trans sharedLast.symm)
      exact missing (List.any_eq_true.2 ⟨_, inside, List.contains_iff_mem.2 there⟩)

theorem Parts.foldl_addComponent {files : List FileId} {found : List (List FileId)}
    (parts : graph.Parts found) (mem : ∀ file ∈ files, file ∈ graph.files) :
    graph.Parts (files.foldl (ImportGraph.addComponent graph.outgoing graph.incoming) found) := by
  induction files generalizing found with
  | nil => exact parts
  | cons file files ih =>
    obtain ⟨here, later⟩ := List.forall_mem_cons.1 mem
    exact ih (parts.addComponent here) later

/-- The computed components have each file of the graph exactly once. -/
theorem flatten_components_nodup (graph : ImportGraph) : graph.components.flatten.Nodup := by
  have parts : graph.Parts graph.components :=
    Parts.foldl_addComponent ⟨nofun, .nil⟩ fun _ mem => mem
  exact List.nodup_flatten.2 ⟨(divides_components graph).nodup, parts.disjoint⟩

theorem mem_files_of_connected (mem : a ∈ graph.files) (connected : graph.Connected a b) :
    b ∈ graph.files := by
  rcases Relation.ReflTransGen.cases_tail connected.1 with same | ⟨_, _, step⟩
  · exact same ▸ mem
  · obtain ⟨edge, inGraph, _, atTarget⟩ := imports_iff_mem_edges.1 step
    exact mem_files.2 ⟨edge, inGraph, .inr atTarget.symm⟩

theorem mem_flatten_components : file ∈ graph.components.flatten ↔ file ∈ graph.files := by
  rw [List.mem_flatten]
  constructor
  · have parts : graph.Parts graph.components :=
      Parts.foldl_addComponent ⟨nofun, .nil⟩ fun _ mem => mem
    rintro ⟨component, found, inside⟩
    obtain ⟨first, mem, rfl⟩ := parts.origin component found
    exact mem_files_of_connected mem (mem_componentOf.1 inside)
  · exact (divides_components graph).covers file

theorem isOnCycle_of_connected (connected : graph.Connected a b) (apart : a ≠ b) :
    graph.isOnCycle a = true := by
  obtain ⟨there, back⟩ := connected
  rw [isOnCycle_iff]
  rcases Relation.reflTransGen_iff_eq_or_transGen.1 there with same | there
  · exact absurd same.symm apart
  · exact Relation.TransGen.trans_left there back

/-- A component holds a cycle exactly if each of its files is on one. -/
theorem Divides.isCyclicComponent_iff (divides : graph.Divides components)
    {component : List FileId} (mem : component ∈ components) (inside : file ∈ component) :
    graph.isCyclicComponent component = true ↔ graph.isOnCycle file = true := by
  have whole := divides.whole component mem
  have nodup := divides.nodup component mem
  match component with
  | [] => simp at inside
  | [only] =>
    obtain rfl := List.mem_singleton.1 inside
    rw [isCyclicComponent, isOnCycle_iff]
    constructor
    · exact fun step => .single step
    · intro round
      -- The next file on the way round is in the component too, so it is the file itself.
      obtain ⟨next, step, back⟩ := Relation.TransGen.head'_iff.1 round
      have here : next ∈ [file] := (whole file inside next).2 ⟨.single step, back⟩
      rwa [List.mem_singleton.1 here] at step
  | first :: second :: rest =>
    have apart : first ≠ second := by
      intro same
      simp [same] at nodup
    refine iff_of_true rfl ?_
    by_cases atFirst : file = first
    · have toSecond := (whole file inside second).1 (by simp)
      exact isOnCycle_of_connected toSecond (atFirst ▸ apart)
    · have toFirst := (whole file inside first).1 (by simp)
      exact isOnCycle_of_connected toFirst atFirst

/-- The files of the components that hold a cycle are the files on a cycle. -/
theorem Divides.contains_cyclicFiles (divides : graph.Divides components)
    (mem : file ∈ graph.files) :
    (graph.cyclicFiles components).contains file = graph.isOnCycle file := by
  rw [Bool.eq_iff_iff, List.contains_iff_mem, cyclicFiles, List.mem_flatten]
  constructor
  · rintro ⟨component, found, inside⟩
    obtain ⟨found, cyclic⟩ := List.mem_filter.1 found
    exact (divides.isCyclicComponent_iff found inside).1 cyclic
  · intro onCycle
    obtain ⟨component, found, inside⟩ := divides.covers file mem
    refine ⟨component, List.mem_filter.2 ⟨found, ?_⟩, inside⟩
    exact (divides.isCyclicComponent_iff found inside).2 onCycle

/-- A component that holds a file holds whatever is connected with it. -/
theorem Divides.contains_of_connected (divides : graph.Divides components)
    (connected : graph.Connected a b) :
    ∀ component ∈ components, component.contains a = true → component.contains b = true := by
  intro component found inside
  rw [List.contains_iff_mem] at inside ⊢
  exact (divides.whole component found a inside b).2 connected

/-- Two files have the same component number exactly if they are connected. -/
theorem Divides.componentIndex_eq_iff (divides : graph.Divides components)
    (memA : a ∈ graph.files) :
    componentIndex components a = componentIndex components b ↔ graph.Connected a b := by
  constructor
  · intro same
    obtain ⟨component, found, inside⟩ := divides.covers a memA
    have below : componentIndex components a < components.length :=
      List.findIdx_lt_length.2 ⟨component, found, List.contains_iff_mem.2 inside⟩
    have holdsA : components[componentIndex components a].contains a = true := List.findIdx_getElem
    have holdsB : components[componentIndex components a].contains b = true := by
      simp only [same]
      exact List.findIdx_getElem
    rw [List.contains_iff_mem] at holdsA holdsB
    exact (divides.whole _ (List.getElem_mem below) a holdsA b).1 holdsB
  · intro connected
    apply Nat.le_antisymm
    · exact List.findIdx_le_findIdx (divides.contains_of_connected connected.symm)
    · exact List.findIdx_le_findIdx (divides.contains_of_connected connected)

end ImportCycles.ImportGraph
