import ImportCycles.Drawing.Numbered
import ImportCycles.Proofs.CycleMarks
import ImportCycles.Proofs.Numberings
import ImportCycles.Proofs.ShortestCycles
import Mathlib.Data.List.GetD

/-! # Drawings of the same imports

A drawing is made from a snapshot of the store and from the strongly connected components of the
numbered files. The entries of the store come in any order, so do the components and the files in
them, and the imports of a file stand in the order of their history. None of it shows in the text: a
drawing depends only on which files import which.
-/

namespace ImportCycles

open FileId (inRoot)

namespace Snapshot

/-- File number `source` imports file number `target`. -/
def Links (snapshot : Snapshot) (source target : Nat) : Prop :=
  snapshot.hasEdge source target = true

/-- Imports lead from the one numbered file to the other and back. -/
def Connected (snapshot : Snapshot) (m n : Nat) : Prop :=
  Relation.ReflTransGen snapshot.Links m n ∧ Relation.ReflTransGen snapshot.Links n m

/-- The lists have every numbered file once, and each is a strongly connected component. Nothing is
said about the order of the lists, or the order in them. -/
structure Divides (snapshot : Snapshot) (components : List (List Nat)) : Prop where
  mem_flatten_iff : ∀ n, n ∈ components.flatten ↔ n < snapshot.files.length
  nodup : components.flatten.Nodup
  whole : ∀ component ∈ components, ∀ m ∈ component, ∀ n,
    n ∈ component ↔ snapshot.Connected m n

variable {snapshot other : Snapshot} {components : List (List Nat)} {m n : Nat}

/-- A file that stands in one component only has its number. -/
theorem getElem?_componentOf (nodup : components.flatten.Nodup) {place : Nat} {component : List Nat}
    (here : components[place]? = some component) (mem : n ∈ component) :
    (componentOf components)[n]? = some place := by
  have keys : (components.zipIdx.flatMap fun entry => entry.1.map (·, entry.2)).map Prod.fst =
      components.flatten := by
    rw [List.map_flatMap]
    simp only [List.map_map, Function.comp_def, List.map_id']
    rw [List.flatMap_def, List.zipIdx_map_fst]
  refine Std.TreeMap.getElem?_ofList_of_mem Std.ReflCmp.compare_self ?_ ?_
  · rw [← keys] at nodup
    exact (List.pairwise_map.1 nodup).imp fun apart same =>
      apart (Std.LawfulEqCmp.eq_of_compare same)
  · exact List.mem_flatMap.2
      ⟨(component, place), List.mem_zipIdx_iff_getElem?.2 here, List.mem_map_of_mem mem⟩

theorem Divides.exists_place (divides : snapshot.Divides components)
    (below : n < snapshot.files.length) :
    ∃ (place : Nat) (component : List Nat),
      components[place]? = some component ∧ n ∈ component := by
  obtain ⟨component, mem, inside⟩ := List.mem_flatten.1 ((divides.mem_flatten_iff n).2 below)
  obtain ⟨place, here⟩ := List.mem_iff_getElem?.1 mem
  exact ⟨place, component, here, inside⟩

/-- Two files have the same component number exactly if they are connected. -/
theorem Divides.componentOf_eq_iff (divides : snapshot.Divides components)
    (belowM : m < snapshot.files.length) (belowN : n < snapshot.files.length) :
    (componentOf components)[m]? = (componentOf components)[n]? ↔ snapshot.Connected m n := by
  obtain ⟨place, component, here, mem⟩ := divides.exists_place belowM
  rw [getElem?_componentOf divides.nodup here mem]
  have whole := divides.whole component (List.mem_of_getElem? here) m mem n
  constructor
  · intro same
    obtain ⟨placeN, componentN, hereN, memN⟩ := divides.exists_place belowN
    rw [getElem?_componentOf divides.nodup hereN memN, Option.some.injEq] at same
    subst same
    rw [Option.some.inj (here.symm.trans hereN)] at whole
    exact whole.1 memN
  · intro connected
    exact (getElem?_componentOf divides.nodup here (whole.2 connected)).symm

theorem Divides.lt_length (divides : snapshot.Divides components) {component : List Nat}
    (mem : component ∈ components) : ∀ n ∈ component, n < snapshot.files.length :=
  fun n inside => (divides.mem_flatten_iff n).1 (List.mem_flatten.2 ⟨component, mem, inside⟩)

end Snapshot

namespace ImportGraph

variable {graph : ImportGraph} {a b file : FileId} {m n : Nat} {components : List (List Nat)}

/-- The file with the given number. -/
def fileAt (graph : ImportGraph) (n : Nat) : FileId :=
  graph.files.getD n .root

theorem fileAt_mem (below : n < graph.files.length) : graph.fileAt n ∈ graph.files := by
  rw [fileAt, List.getD_eq_getElem _ _ below]
  exact List.getElem_mem below

theorem idxOf_fileAt (below : n < graph.files.length) :
    graph.files.idxOf (graph.fileAt n) = n := by
  rw [fileAt, List.getD_eq_getElem _ _ below]
  exact graph.files_nodup.idxOf_getElem n below

theorem fileAt_idxOf (mem : file ∈ graph.files) :
    graph.fileAt (graph.files.idxOf file) = file := by
  rw [fileAt, List.getD_eq_getElem _ _ (List.idxOf_lt_length_iff.2 mem)]
  exact List.getElem_idxOf _

theorem mem_map_fileAt {numbers : List Nat} (below : ∀ n ∈ numbers, n < graph.files.length)
    (mem : file ∈ graph.files) :
    file ∈ numbers.map graph.fileAt ↔ graph.files.idxOf file ∈ numbers := by
  rw [List.mem_map]
  constructor
  · rintro ⟨n, inside, rfl⟩
    rwa [idxOf_fileAt (below n inside)]
  · exact fun inside => ⟨_, inside, fileAt_idxOf mem⟩

theorem hasEdge_snapshot_iff : graph.snapshot.hasEdge m n = true ↔
    ∃ edge ∈ graph.edges,
      graph.files.idxOf edge.source = m ∧ graph.files.idxOf edge.target = n := by
  simp [Snapshot.hasEdge, snapshot, mem_sortedEdges]

theorem links_idxOf (step : graph.Imports a b) :
    graph.snapshot.Links (graph.files.idxOf a) (graph.files.idxOf b) := by
  obtain ⟨edge, mem, rfl, rfl⟩ := imports_iff_mem_edges.1 step
  exact hasEdge_snapshot_iff.2 ⟨edge, mem, rfl, rfl⟩

theorem imports_fileAt (link : graph.snapshot.Links m n) :
    graph.Imports (graph.fileAt m) (graph.fileAt n) := by
  obtain ⟨edge, mem, rfl, rfl⟩ := hasEdge_snapshot_iff.1 link
  rw [fileAt_idxOf (source_mem_files mem), fileAt_idxOf (target_mem_files mem)]
  exact imports_of_mem mem

/-- Numbered files import each other as the files do. -/
theorem hasEdge_fileAt (belowM : m < graph.files.length) (belowN : n < graph.files.length) :
    graph.snapshot.hasEdge m n = graph.hasEdge (graph.fileAt m) (graph.fileAt n) := by
  rw [Bool.eq_iff_iff]
  constructor
  · exact imports_fileAt
  · intro step
    have link := links_idxOf step
    rwa [idxOf_fileAt belowM, idxOf_fileAt belowN] at link

theorem reaches_idxOf (memA : a ∈ graph.files) (memB : b ∈ graph.files) :
    Relation.ReflTransGen graph.snapshot.Links (graph.files.idxOf a) (graph.files.idxOf b) ↔
      Relation.ReflTransGen graph.Imports a b := by
  constructor
  · intro reaches
    have named : Relation.ReflTransGen graph.Imports (graph.fileAt (graph.files.idxOf a))
        (graph.fileAt (graph.files.idxOf b)) :=
      reaches.lift graph.fileAt fun _ _ => imports_fileAt
    rwa [fileAt_idxOf memA, fileAt_idxOf memB] at named
  · exact fun reaches => reaches.lift graph.files.idxOf fun _ _ => links_idxOf

theorem connected_idxOf (memA : a ∈ graph.files) (memB : b ∈ graph.files) :
    graph.snapshot.Connected (graph.files.idxOf a) (graph.files.idxOf b) ↔ graph.Connected a b :=
  and_congr (reaches_idxOf memA memB) (reaches_idxOf memB memA)

theorem lt_length_of_reaches (below : m < graph.files.length)
    (reaches : Relation.ReflTransGen graph.snapshot.Links m n) : n < graph.files.length := by
  rcases Relation.ReflTransGen.cases_tail reaches with same | ⟨_, _, link⟩
  · exact same ▸ below
  · obtain ⟨edge, mem, _, rfl⟩ := hasEdge_snapshot_iff.1 link
    exact List.idxOf_lt_length_iff.2 (target_mem_files mem)

/-- The components of the numbered files, with the names of these. -/
def named (graph : ImportGraph) (components : List (List Nat)) : List (List FileId) :=
  components.map fun component => component.map graph.fileAt

/-- The components of the numbered files are those of the files. -/
theorem divides_named (divides : graph.snapshot.Divides components) :
    graph.Divides (graph.named components) where
  covers := by
    intro file mem
    have below : graph.files.idxOf file < graph.files.length := List.idxOf_lt_length_iff.2 mem
    obtain ⟨component, found, inside⟩ :=
      List.mem_flatten.1 ((divides.mem_flatten_iff _).2 below)
    exact ⟨_, List.mem_map_of_mem found,
      (mem_map_fileAt (divides.lt_length found) mem).2 inside⟩
  whole := by
    intro _ listed a insideA b
    obtain ⟨component, found, rfl⟩ := List.mem_map.1 listed
    have below := divides.lt_length found
    obtain ⟨m, insideM, rfl⟩ := List.mem_map.1 insideA
    have memA := fileAt_mem (below m insideM)
    have whole := divides.whole component found m insideM
    rw [← idxOf_fileAt (below m insideM)] at whole
    constructor
    · intro insideB
      obtain ⟨n, insideN, rfl⟩ := List.mem_map.1 insideB
      rw [← connected_idxOf memA (fileAt_mem (below n insideN)), ← whole,
        idxOf_fileAt (below n insideN)]
      exact insideN
    · intro connected
      have memB := mem_files_of_connected memA connected
      exact (mem_map_fileAt below memB).2 ((whole _).2 ((connected_idxOf memA memB).2 connected))
  nodup := by
    intro _ listed
    obtain ⟨component, found, rfl⟩ := List.mem_map.1 listed
    have below := divides.lt_length found
    refine (List.nodup_flatten.1 divides.nodup).1 component found |>.map_on ?_
    intro m insideM n insideN same
    rw [← idxOf_fileAt (below m insideM), same, idxOf_fileAt (below n insideN)]

/-- The components of a graph, their files numbered, divide its snapshot. -/
theorem divides_numbered (graph : ImportGraph) : graph.snapshot.Divides
    (graph.components.map fun component => component.map graph.files.idxOf) where
  mem_flatten_iff := by
    intro n
    rw [← List.map_flatten, List.mem_map]
    constructor
    · rintro ⟨file, mem, rfl⟩
      exact List.idxOf_lt_length_iff.2 (mem_flatten_components.1 mem)
    · exact fun below =>
        ⟨_, mem_flatten_components.2 (fileAt_mem below), idxOf_fileAt below⟩
  nodup := by
    rw [← List.map_flatten]
    refine graph.flatten_components_nodup.map_on ?_
    intro a memA b _ same
    exact (List.idxOf_inj (mem_flatten_components.1 memA)).1 same
  whole := by
    intro _ listed m insideM n
    obtain ⟨component, found, rfl⟩ := List.mem_map.1 listed
    have inGraph : ∀ file ∈ component, file ∈ graph.files := fun file inside =>
      mem_flatten_components.1 (List.mem_flatten.2 ⟨component, found, inside⟩)
    obtain ⟨a, insideA, rfl⟩ := List.mem_map.1 insideM
    have whole := (divides_components graph).whole component found a insideA
    constructor
    · intro insideN
      obtain ⟨b, insideB, rfl⟩ := List.mem_map.1 insideN
      exact (connected_idxOf (inGraph a insideA) (inGraph b insideB)).2 ((whole b).1 insideB)
    · intro connected
      have below := lt_length_of_reaches
        (List.idxOf_lt_length_iff.2 (inGraph a insideA)) connected.1
      rw [← idxOf_fileAt below] at connected ⊢
      rw [connected_idxOf (inGraph a insideA) (fileAt_mem below)] at connected
      exact List.mem_map_of_mem ((whole _).2 connected)

/-- A component holds a cycle by its numbers exactly if it does by its files. -/
theorem isCyclicComponent_map {component : List Nat}
    (below : ∀ n ∈ component, n < graph.files.length) :
    graph.snapshot.isCyclicComponent component =
      graph.isCyclicComponent (component.map graph.fileAt) := by
  match component with
  | [] => rfl
  | [n] => exact hasEdge_fileAt (below n (by simp)) (below n (by simp))
  | _ :: _ :: _ => rfl

theorem cyclicFiles_named (divides : graph.snapshot.Divides components) :
    graph.cyclicFiles (graph.named components) =
      (graph.snapshot.cyclicFiles components).map graph.fileAt := by
  have alike : ∀ component ∈ components, graph.snapshot.isCyclicComponent component =
      graph.isCyclicComponent (component.map graph.fileAt) :=
    fun _ mem => isCyclicComponent_map (divides.lt_length mem)
  rw [Snapshot.cyclicFiles, List.filter_congr alike, List.map_flatten, cyclicFiles, named,
    List.filter_map]
  rfl

theorem contains_cyclicFiles_snapshot (divides : graph.snapshot.Divides components)
    (mem : file ∈ graph.files) :
    (graph.snapshot.cyclicFiles components).contains (graph.files.idxOf file) =
      (graph.cyclicFiles (graph.named components)).contains file := by
  have below : ∀ n ∈ graph.snapshot.cyclicFiles components, n < graph.files.length := by
    intro n inside
    obtain ⟨component, found, inside⟩ := List.mem_flatten.1 inside
    exact divides.lt_length (List.mem_filter.1 found).1 n inside
  rw [Bool.eq_iff_iff, List.contains_iff_mem, List.contains_iff_mem, cyclicFiles_named divides,
    mem_map_fileAt below mem]

end ImportGraph

namespace Drawing

variable {graph other : ImportGraph} {style : Style} {components : List (List Nat)}

theorem isCyclicEdge_snapshot (divides : graph.snapshot.Divides components) {edge : Edge}
    (mem : edge ∈ graph.edges) :
    Snapshot.isCyclicEdge (Snapshot.componentOf components) (graph.snapshot.cyclicFiles components)
        ⟨graph.files.idxOf edge.source, graph.files.idxOf edge.target, edge.location⟩ =
      isCyclicEdge graph.components (graph.cyclicFiles graph.components) edge := by
  have source := ImportGraph.source_mem_files mem
  have target := ImportGraph.target_mem_files mem
  have step := ImportGraph.imports_of_mem mem
  have named := ImportGraph.divides_named divides
  have sameComponent : (Snapshot.componentOf components)[graph.files.idxOf edge.source]? =
        (Snapshot.componentOf components)[graph.files.idxOf edge.target]? ↔
      ImportGraph.componentIndex (graph.named components) edge.source =
        ImportGraph.componentIndex (graph.named components) edge.target := by
    rw [named.componentIndex_eq_iff source, ← ImportGraph.connected_idxOf source target]
    exact divides.componentOf_eq_iff (List.idxOf_lt_length_iff.2 source)
      (List.idxOf_lt_length_iff.2 target)
  rw [Bool.eq_iff_iff, isCyclicEdge_iff (ImportGraph.divides_components graph) step,
    ← isCyclicEdge_iff named step, isCyclicEdge, Snapshot.isCyclicEdge,
    ImportGraph.contains_cyclicFiles_snapshot divides source, Bool.and_eq_true, Bool.and_eq_true,
    beq_iff_eq, beq_iff_eq, sameComponent]

/-- Whichever way the components of a snapshot are listed, its picture is that of the graph. -/
theorem picture_snapshot (divides : graph.snapshot.Divides components) (style : Style) :
    graph.snapshot.picture style components = picture style graph := by
  have node : ∀ entry ∈ graph.files.zipIdx,
      (graph.snapshot.cyclicFiles components).contains entry.2 =
        (graph.cyclicFiles graph.components).contains entry.1 := by
    rintro ⟨file, n⟩ mem
    have found : graph.files[n]? = some file := List.mem_zipIdx_iff_getElem?.1 mem
    obtain ⟨below, rfl⟩ := List.getElem?_eq_some_iff.1 found
    have inGraph := List.getElem_mem below
    have contains := ImportGraph.contains_cyclicFiles_snapshot divides inGraph
    rw [graph.files_nodup.idxOf_getElem n below,
      (ImportGraph.divides_named divides).contains_cyclicFiles inGraph,
      ← (ImportGraph.divides_components graph).contains_cyclicFiles inGraph] at contains
    exact contains
  have nodes : graph.files.zipIdx.map (fun entry => (⟨entry.1.shown style.root,
        style.highlight && (graph.snapshot.cyclicFiles components).contains entry.2⟩ : Node)) =
      graph.files.map fun file => ⟨file.shown style.root,
        style.highlight && (graph.cyclicFiles graph.components).contains file⟩ := by
    conv_rhs => rw [← List.zipIdx_map_fst 0 graph.files, List.map_map]
    exact List.map_congr_left fun entry mem => by rw [node entry mem, Function.comp_apply]
  have links : graph.snapshot.edges.map (fun edge => (⟨edge.source, edge.target,
        style.highlight && Snapshot.isCyclicEdge (Snapshot.componentOf components)
          (graph.snapshot.cyclicFiles components) edge⟩ : Link)) =
      graph.sortedEdges.map fun edge => ⟨graph.files.idxOf edge.source,
        graph.files.idxOf edge.target, style.highlight &&
          isCyclicEdge graph.components (graph.cyclicFiles graph.components) edge⟩ := by
    rw [ImportGraph.snapshot, List.map_map]
    refine List.map_congr_left fun edge mem => ?_
    rw [← isCyclicEdge_snapshot divides (ImportGraph.mem_sortedEdges.1 mem)]
    rfl
  exact congr (congrArg Picture.mk nodes) links

/-- The marks that a drawing has in a style. -/
def Marks.ofStyle (style : Style) (graph : ImportGraph) : Marks where
  onFile file := style.highlight && (ofComponents graph).onFile file
  onImport source target := style.highlight && (ofComponents graph).onImport source target

theorem picture_eq_ofStyle (style : Style) (graph : ImportGraph) :
    picture style graph = (Marks.ofStyle style graph).picture style.root graph := rfl

theorem Marks.agree_ofStyle (same : graph.Imports = other.Imports) (files : graph.files = other.files)
    (style : Style) : (ofStyle style graph).Agree graph (ofStyle style other) := by
  have divides := ImportGraph.divides_components graph
  have divides' := ImportGraph.divides_components other
  refine ⟨?_, ?_⟩
  · intro file mem
    have onFile : (graph.cyclicFiles graph.components).contains file =
        (other.cyclicFiles other.components).contains file := by
      rw [divides.contains_cyclicFiles mem, divides'.contains_cyclicFiles (files ▸ mem),
        Bool.eq_iff_iff, ImportGraph.isOnCycle_iff, ImportGraph.isOnCycle_iff, same]
    exact congrArg (style.highlight && ·) onFile
  · intro edge mem
    have imports := ImportGraph.imports_of_mem mem
    let plain : Edge := ⟨edge.source, edge.target, {}⟩
    have step : graph.Imports plain.source plain.target := imports
    have onImport : isCyclicEdge graph.components (graph.cyclicFiles graph.components) plain =
        isCyclicEdge other.components (other.cyclicFiles other.components) plain := by
      rw [Bool.eq_iff_iff, isCyclicEdge_iff divides step, isCyclicEdge_iff divides' (same ▸ step),
        same]
    exact congrArg (style.highlight && ·) onImport

theorem Marks.picture_congr (marks : Marks) (root : Option Octets)
    (files : graph.files = other.files)
    (ends : graph.sortedEdges.map Edge.ends = other.sortedEdges.map Edge.ends) :
    marks.picture root graph = marks.picture root other := by
  have links : ∀ graph : ImportGraph, graph.sortedEdges.map (marks.link graph) =
      (graph.sortedEdges.map Edge.ends).map fun pair =>
        ⟨graph.files.idxOf pair.1, graph.files.idxOf pair.2, marks.onImport pair.1 pair.2⟩ :=
    fun _ => by rw [List.map_map]; rfl
  rw [picture, picture, links, links, files, ends]

/-- The picture of a graph depends on nothing but which files import which. -/
theorem picture_congr (distinct : (graph.edges.map Edge.ends).Nodup)
    (distinctOther : (other.edges.map Edge.ends).Nodup)
    (same : ∀ source target, graph.hasEdge source target = other.hasEdge source target)
    (style : Style) : picture style graph = picture style other := by
  have imports : graph.Imports = other.Imports := by
    funext source target
    rw [ImportGraph.Imports, ImportGraph.Imports, same]
  have files : graph.files = other.files := by
    refine FileId.lt_isStrictOrder.eq_of_pairwise graph.files_pairwise other.files_pairwise ?_
    intro file
    simp only [ImportGraph.mem_files_iff_hasEdge, same]
  have ends : graph.sortedEdges.map Edge.ends = other.sortedEdges.map Edge.ends := by
    refine ImportGraph.endsBefore_isStrictOrder.eq_of_pairwise
      (List.pairwise_map.2 (ImportGraph.sortedEdges_pairwise distinct))
      (List.pairwise_map.2 (ImportGraph.sortedEdges_pairwise distinctOther)) ?_
    rintro ⟨source, target⟩
    rw [← ImportGraph.hasEdge_iff_mem_sorted, ← ImportGraph.hasEdge_iff_mem_sorted, same]
  calc picture style graph
      = (Marks.ofStyle style graph).picture style.root graph := picture_eq_ofStyle style graph
    _ = (Marks.ofStyle style other).picture style.root graph :=
        (Marks.agree_ofStyle imports files style).picture_eq
    _ = (Marks.ofStyle style other).picture style.root other := Marks.picture_congr _ _ files ends
    _ = picture style other := (picture_eq_ofStyle style other).symm

end Drawing

namespace SlotStore

open Drawing

/-- The store may be drawn as this text. Its entries come in some order, and so do the components of
the snapshot and the files in them. -/
def Draws (store : SlotStore) (format : Format) (style : Style) (text : String) : Prop :=
  ∃ (listing : store.Listing) (snapshot : Snapshot) (components : List (List Nat)),
    listing.snapshot? = some snapshot ∧ snapshot.Divides components ∧
      text = (snapshot.picture style components).write format

/-- There is one text that a store is drawn as, and it is the drawing of its graph. -/
theorem Holds.draws_iff {store : SlotStore} {graph : ImportGraph} (holds : store.Holds graph)
    (distinct : (graph.edges.map Edge.ends).Nodup) (format : Format) (style : Style)
    (text : String) : store.Draws format style text ↔ text = draw format style graph := by
  constructor
  · rintro ⟨listing, snapshot, components, taken, divides, rfl⟩
    rw [holds.snapshot?_eq distinct listing, Option.some.injEq] at taken
    subst taken
    rw [picture_snapshot divides, draw]
  · rintro rfl
    let listing : store.Listing := ⟨store.slots.toList, .refl _⟩
    have divides := ImportGraph.divides_numbered graph
    refine ⟨listing, graph.snapshot, _, holds.snapshot?_eq distinct listing, divides, ?_⟩
    rw [picture_snapshot divides, draw]

end SlotStore

namespace Drawing

/-- A drawing depends only on which files import which. Where two histories of changes leave the same
imports, in whatever order and with whatever places, both stores are drawn as the same text and as no
other, in every format and style, however their entries and the components of their files are
listed. The snapshots that drawings are made from have each file once, in path order, and each import
once, by importing and then by imported file, and no look-up in them fails. -/
theorem drawings_of_same_imports {history other : List Change}
    (same : ∀ source target, (ImportGraph.after history).hasEdge source target =
      (ImportGraph.after other).hasEdge source target) :
    ∃ store otherStore, SlotStore.after? history = some store ∧
      SlotStore.after? other = some otherStore ∧
      (∀ format style,
        draw format style (.after history) = draw format style (.after other) ∧
          ∀ text,
            (store.Draws format style text ↔ text = draw format style (.after history)) ∧
              (otherStore.Draws format style text ↔
                text = draw format style (.after history))) ∧
      ∀ listing : store.Listing, ∃ snapshot,
        listing.snapshot? = some snapshot ∧ snapshot.Numbers (.after history) := by
  obtain ⟨store, reached, holds⟩ := SlotStore.exists_after? history
  obtain ⟨otherStore, reachedOther, holdsOther⟩ := SlotStore.exists_after? other
  have distinct := ImportGraph.nodup_ends_after history
  have distinctOther := ImportGraph.nodup_ends_after other
  refine ⟨store, otherStore, reached, reachedOther, ?_, ?_⟩
  · intro format style
    have drawn : draw format style (.after history) = draw format style (.after other) := by
      rw [draw, picture_congr distinct distinctOther same, draw]
    refine ⟨drawn, fun text => ⟨holds.draws_iff distinct format style text, ?_⟩⟩
    rw [drawn]
    exact holdsOther.draws_iff distinctOther format style text
  · intro listing
    exact ⟨_, holds.snapshot?_eq distinct listing, ImportGraph.snapshot_numbers history⟩

/-- Two imports of a file and one of another. -/
def straight : List Change :=
  [.add (inRoot "a") (inRoot "b") { line := 1 }, .add (inRoot "a") (inRoot "c") { line := 2 },
    .add (inRoot "b") (inRoot "a") { line := 1 }]

/-- The same imports by another way: in another order, at other places, after others were cleared. -/
def roundabout : List Change :=
  [.add (inRoot "c") (inRoot "c") {}, .clear, .add (inRoot "b") (inRoot "a") { line := 7 },
    .add (inRoot "a") (inRoot "d") {}, .clearFrom (inRoot "a"),
    .add (inRoot "a") (inRoot "c") { line := 3 }, .add (inRoot "a") (inRoot "b") { line := 4 },
    .add (inRoot "a") (inRoot "c") { line := 5 }]

/-- The histories leave different graphs, which are drawn alike. -/
theorem drawings_of_same_imports_roundabout :
    (ImportGraph.after straight).edges ≠ (ImportGraph.after roundabout).edges ∧
      ∀ format style,
        draw format style (.after straight) = draw format style (.after roundabout) := by
  have perm : ((ImportGraph.after straight).edges.map Edge.ends).Perm
      ((ImportGraph.after roundabout).edges.map Edge.ends) := by decide
  have same : ∀ source target, (ImportGraph.after straight).hasEdge source target =
      (ImportGraph.after roundabout).hasEdge source target := by
    intro source target
    rw [Bool.eq_iff_iff, ImportGraph.hasEdge_iff_mem_ends, ImportGraph.hasEdge_iff_mem_ends,
      perm.mem_iff]
  obtain ⟨_, _, _, _, drawn, _⟩ := drawings_of_same_imports same
  exact ⟨by decide, fun format style => (drawn format style).1⟩

end Drawing

end ImportCycles
