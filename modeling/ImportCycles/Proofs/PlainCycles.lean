import ImportCycles.Proofs.Edges
import ImportCycles.Proofs.PrunedSearch
import ImportCycles.Proofs.ShortestCycles

/-! # Cycles without pruning

The search for the cycles through a file keeps to the file's mates. The plain search does not: it
tries every import of the file and every importer, and looks for the way back among all files. Both
give the same cycles in the same order. For the same reason an import that is on no closed walk
through the file can be added or taken out: the mates stay the same, and so do the imports among
them.
-/

namespace ImportCycles

open FileId (inRoot)

namespace ImportGraph

/-- The shortest way round through the import of `next`, by a search among all files. -/
def plainRoundByImport (graph : ImportGraph) (file : FileId) (maxSteps : Nat) (next : FileId) :
    Option (List FileId) :=
  if next = file then some [file]
  else (graph.outgoing.shortestPath? next file (fun _ => true) maxSteps).map (file :: ·)

/-- The shortest way round through the import by `importer`, by a search among all files. -/
def plainRoundByImporter (graph : ImportGraph) (file : FileId) (maxSteps : Nat)
    (importer : FileId) : Option (List FileId) :=
  (graph.outgoing.shortestPath? file importer (fun _ => true) maxSteps).map (· ++ [importer])

/-- The cycles of at most `depthLimit` imports that start at `file`, found without asking which files
are on a cycle with it: by all its imports in their order, then by all other files that import it, in
path order. A file that imports itself has that round among its imports. -/
def plainCycles (graph : ImportGraph) (file : FileId) (depthLimit : Nat) : List Cycle :=
  if depthLimit = 0 then []
  else
    let importers := FileId.sorted ((graph.importers file).filter (· ≠ file))
    let found := (graph.targets file).filterMap (graph.plainRoundByImport file (depthLimit - 1)) ++
      importers.filterMap (graph.plainRoundByImporter file (depthLimit - 1))
    (Sorted.sortBy (fun a b => a.length ≤ b.length) (Sorted.firstOccurrences found)).map Cycle.mk

/-- The graph without the import of `target` by `source`. -/
def eraseEdge (graph : ImportGraph) (source target : FileId) : ImportGraph :=
  ⟨graph.edges.filter fun edge => ¬ (edge.source = source ∧ edge.target = target)⟩

/-- No closed walk through `file` follows the import of `target` by `source`. -/
def OffCycle (graph : ImportGraph) (file source target : FileId) : Prop :=
  ∀ walk, graph.ClosedWalk file walk → (source, target) ∉ (Cycle.mk walk).links

variable {graph other : ImportGraph} {file source target next importer x y : FileId}
  {members : List FileId} {maxSteps : Nat}

/-- A file that has mates is one of them. -/
theorem self_mem_cycleMates (mem : x ∈ graph.cycleMates file) : file ∈ graph.cycleMates file := by
  obtain ⟨there, back⟩ := mem_cycleMates.1 mem
  exact mem_cycleMates.2 ⟨.refl, Relation.TransGen.trans_right there back⟩

theorem reaches_of_shortestPath? {start goal : FileId} {path : List FileId} (apart : start ≠ goal)
    (found : graph.outgoing.shortestPath? start goal (fun _ => true) maxSteps = some path) :
    Relation.ReflTransGen graph.Imports start goal := by
  obtain ⟨shortest, -⟩ := Steps.shortestPath?_some rfl apart found
  rw [← leads_outgoing]
  exact shortest.walk.reaches

/-- A way round is found through imports of mates only. -/
theorem mem_cycleMates_of_byImport (step : graph.Imports file next)
    (round : graph.plainRoundByImport file maxSteps next = some members) :
    next ∈ graph.cycleMates file := by
  unfold plainRoundByImport at round
  split at round
  · rename_i same
    subst same
    exact mem_cycleMates.2 ⟨.refl, .single step⟩
  · rename_i apart
    obtain ⟨path, found, -⟩ := Option.map_eq_some_iff.1 round
    have back := reaches_of_shortestPath? apart found
    rcases Relation.reflTransGen_iff_eq_or_transGen.1 back with same | back
    · exact absurd same.symm apart
    · exact mem_cycleMates.2 ⟨.single step, back⟩

theorem mem_cycleMates_of_byImporter (step : graph.Imports importer file) (apart : importer ≠ file)
    (round : graph.plainRoundByImporter file maxSteps importer = some members) :
    importer ∈ graph.cycleMates file := by
  obtain ⟨path, found, -⟩ := Option.map_eq_some_iff.1 round
  exact mem_cycleMates.2 ⟨reaches_of_shortestPath? apart.symm found, .single step⟩

/-- The question whether a file has mates saves work only: without any neither an import of the file
nor an importer is tried. -/
theorem shortestCycles_eq_found (graph : ImportGraph) (file : FileId) (depthLimit : Nat) :
    graph.shortestCycles file depthLimit =
      if depthLimit = 0 then []
      else (Sorted.sortBy (fun a b => a.length ≤ b.length) (Sorted.firstOccurrences
        (graph.cyclesByImport file (graph.cycleMates file) (depthLimit - 1) ++
          graph.cyclesByImporter file (graph.cycleMates file) (depthLimit - 1)))).map Cycle.mk := by
  unfold shortestCycles
  split
  · rfl
  · simp only
    split
    · rename_i empty
      have none : ∀ x, ¬ (graph.cycleMates file).contains x = true := by
        intro x isMate
        exact Std.TreeSet.isEmpty_iff_forall_not_mem.1 empty x (Std.TreeSet.contains_iff_mem.1 isMate)
      have byImport : graph.cyclesByImport file (graph.cycleMates file) (depthLimit - 1) = [] := by
        apply List.eq_nil_iff_forall_not_mem.2
        intro members mem
        obtain ⟨next, step, ⟨rfl, -⟩ | ⟨-, isMate, -⟩⟩ := mem_cyclesByImport.1 mem
        · exact none next (Std.TreeSet.contains_iff_mem.2 (mem_cycleMates.2 ⟨.refl, .single step⟩))
        · exact none next isMate
      have byImporter : graph.cyclesByImporter file (graph.cycleMates file) (depthLimit - 1) = [] := by
        apply List.eq_nil_iff_forall_not_mem.2
        intro members mem
        obtain ⟨last, -, -, isMate, -⟩ := mem_cyclesByImporter.1 mem
        exact none last isMate
      rw [byImport, byImporter]
      rfl
    · rfl

/-- What gives nothing outside of `keep` need not be asked there. -/
theorem filterMap_eq_filter {α β : Type} {f : α → Option β} {keep : α → Bool} {list : List α}
    (only : ∀ a ∈ list, ∀ b, f a = some b → keep a = true) :
    list.filterMap f = (list.filter keep).filterMap f := by
  rw [List.filterMap_filter]
  refine List.filterMap_congr fun a mem => ?_
  split
  · rfl
  · rename_i outside
    apply Option.eq_none_iff_forall_ne_some.2
    intro b given
    exact outside (only a mem b given)

/-- `other` has the imports of `graph` as far as cycles through `file` can tell: the file has the
same mates in both, and these import each other in the same order. -/
structure AgreeAmongMates (graph other : ImportGraph) (file : FileId) : Prop where
  mates : (other.cycleMates file).contains = (graph.cycleMates file).contains
  targets : ∀ x ∈ graph.cycleMates file,
    (other.targets x).filter (graph.cycleMates file).contains =
      (graph.targets x).filter (graph.cycleMates file).contains

namespace AgreeAmongMates

theorem refl (graph : ImportGraph) (file : FileId) : graph.AgreeAmongMates graph file where
  mates := rfl
  targets _ _ := rfl

/-- Among the mates of a file a search can do without all other files, since whatever leads from a
mate back to one is a mate. -/
theorem prunes (agree : graph.AgreeAmongMates other file) {start goal : FileId}
    (isStart : start ∈ graph.cycleMates file) (isGoal : goal ∈ graph.cycleMates file) :
    graph.outgoing.Prunes other.outgoing start goal (graph.cycleMates file).contains where
  startIn := Std.TreeSet.contains_iff_mem.2 isStart
  goalIn := Std.TreeSet.contains_iff_mem.2 isGoal
  enters x y reaches step isMate := by
    rw [leads_outgoing] at reaches step
    rw [Std.TreeSet.contains_iff_mem, mem_cycleMates] at isMate ⊢
    exact ⟨(mem_cycleMates.1 isStart).1.trans reaches, .head step isMate.2⟩
  same x isMate := by
    rw [next_outgoing, next_outgoing]
    exact agree.targets x (Std.TreeSet.contains_iff_mem.1 isMate)

theorem imports_iff (agree : graph.AgreeAmongMates other file) (isX : x ∈ graph.cycleMates file)
    (isY : y ∈ graph.cycleMates file) : other.Imports x y ↔ graph.Imports x y := by
  have same : y ∈ (other.targets x).filter (graph.cycleMates file).contains ↔
      y ∈ (graph.targets x).filter (graph.cycleMates file).contains := by
    rw [agree.targets x isX]
  simpa only [List.mem_filter, Std.TreeSet.contains_iff_mem, isY, and_true,
    ← imports_iff_mem_targets] using same

theorem targets_self (agree : graph.AgreeAmongMates other file) :
    (other.targets file).filter (graph.cycleMates file).contains =
      (graph.targets file).filter (graph.cycleMates file).contains := by
  by_cases self : file ∈ graph.cycleMates file
  · exact agree.targets file self
  · -- then there are no mates at all
    have none : ∀ x, ¬ (graph.cycleMates file).contains x = true :=
      fun x isMate => self (self_mem_cycleMates (Std.TreeSet.contains_iff_mem.1 isMate))
    rw [List.filter_eq_nil_iff.2 fun x _ => none x, List.filter_eq_nil_iff.2 fun x _ => none x]

/-- The imports tried are the same ones, and each gives the same round. -/
theorem cyclesByImport_eq (agree : graph.AgreeAmongMates other file) (maxSteps : Nat) :
    other.cyclesByImport file (other.cycleMates file) maxSteps =
      (graph.targets file).filterMap (graph.plainRoundByImport file maxSteps) := by
  have plain : (graph.targets file).filterMap (graph.plainRoundByImport file maxSteps) =
      ((graph.targets file).filter (graph.cycleMates file).contains).filterMap
        (graph.plainRoundByImport file maxSteps) := by
    apply filterMap_eq_filter
    intro next mem members round
    exact Std.TreeSet.contains_iff_mem.2
      (mem_cycleMates_of_byImport (imports_iff_mem_targets.2 mem) round)
  rw [plain, ← agree.targets_self, List.filterMap_filter]
  simp only [cyclesByImport]
  rw [agree.mates]
  refine List.filterMap_congr fun next mem => ?_
  by_cases isMate : next ∈ graph.cycleMates file
  · have contained := Std.TreeSet.contains_iff_mem.2 isMate
    simp only [plainRoundByImport, contained, if_true]
    rw [(agree.prunes isMate (self_mem_cycleMates isMate)).shortestPath?_eq]
  · have apart : next ≠ file := by
      rintro rfl
      apply isMate
      rw [← Std.TreeSet.contains_iff_mem, ← agree.mates, Std.TreeSet.contains_iff_mem]
      exact mem_cycleMates.2 ⟨.refl, .single (imports_iff_mem_targets.2 mem)⟩
    have outside : ¬ (graph.cycleMates file).contains next = true :=
      fun contained => isMate (Std.TreeSet.contains_iff_mem.1 contained)
    rw [if_neg apart, if_neg outside, if_neg outside]

/-- The importers tried are the same files, and each gives the same round. -/
theorem cyclesByImporter_eq (agree : graph.AgreeAmongMates other file) (maxSteps : Nat) :
    other.cyclesByImporter file (other.cycleMates file) maxSteps =
      (FileId.sorted ((graph.importers file).filter (· ≠ file))).filterMap
        (graph.plainRoundByImporter file maxSteps) := by
  have plain : (FileId.sorted ((graph.importers file).filter (· ≠ file))).filterMap
      (graph.plainRoundByImporter file maxSteps) =
        (FileId.sorted (((graph.importers file).filter (· ≠ file)).filter
          (graph.cycleMates file).contains)).filterMap
            (graph.plainRoundByImporter file maxSteps) := by
    rw [← FileId.filter_sorted (graph.cycleMates file).contains]
    apply filterMap_eq_filter
    intro importer mem members round
    rw [FileId.mem_sorted, List.mem_filter, decide_eq_true_eq] at mem
    exact Std.TreeSet.contains_iff_mem.2
      (mem_cycleMates_of_byImporter (imports_iff_mem_importers.2 mem.1) mem.2 round)
  have importers : FileId.sorted ((other.importers file).filter fun importer =>
        importer ≠ file && (other.cycleMates file).contains importer) =
      FileId.sorted (((graph.importers file).filter (· ≠ file)).filter
        (graph.cycleMates file).contains) := by
    apply FileId.sorted_congr
    intro importer
    simp only [List.mem_filter, Bool.and_eq_true, decide_eq_true_eq, agree.mates,
      Std.TreeSet.contains_iff_mem, ← imports_iff_mem_importers, and_assoc]
    refine and_congr_left fun ⟨_, isMate⟩ => ?_
    exact agree.imports_iff isMate (self_mem_cycleMates isMate)
  simp only [cyclesByImporter]
  rw [plain, importers, agree.mates]
  refine List.filterMap_congr fun importer mem => ?_
  rw [FileId.mem_sorted, List.mem_filter, Std.TreeSet.contains_iff_mem] at mem
  rw [(agree.prunes (self_mem_cycleMates mem.2) mem.2).shortestPath?_eq]
  rfl

/-- The cycles found in the one graph are those that the plain search finds in the other. -/
theorem shortestCycles_eq (agree : graph.AgreeAmongMates other file) (depthLimit : Nat) :
    other.shortestCycles file depthLimit = graph.plainCycles file depthLimit := by
  rw [shortestCycles_eq_found, agree.cyclesByImport_eq, agree.cyclesByImporter_eq]
  rfl

end AgreeAmongMates

theorem targets_eraseEdge (graph : ImportGraph) (source target x : FileId) :
    (graph.eraseEdge source target).targets x =
      (graph.targets x).filter fun y => ¬ (x = source ∧ y = target) := by
  simp only [targets, edgesFrom, eraseEdge, List.filter_map, List.filter_filter]
  congr 1
  refine List.filter_congr fun edge _ => ?_
  by_cases atX : edge.source = x
  · simp [atX]
  · simp [atX]

theorem imports_eraseEdge :
    (graph.eraseEdge source target).Imports x y ↔
      graph.Imports x y ∧ ¬ (x = source ∧ y = target) := by
  rw [imports_iff_mem_targets, targets_eraseEdge, List.mem_filter, ← imports_iff_mem_targets,
    decide_eq_true_eq]

/-- Adding an import makes no difference to the others. -/
theorem eraseEdge_insert (graph : ImportGraph) (source target : FileId) (location : Location) :
    (graph.insert source target location).eraseEdge source target =
      graph.eraseEdge source target := by
  obtain ⟨edges⟩ := graph
  simp only [insert, eraseEdge, mk.injEq]
  induction edges with
  | nil => simp [insertEdge]
  | cons old rest ih =>
    simp only [insertEdge]
    split
    · rename_i same
      simp [same]
    · rw [List.filter_cons, List.filter_cons, ih]

/-- The mates of a file are the files on closed walks through it. -/
theorem mem_cycleMates_iff_closedWalk :
    x ∈ graph.cycleMates file ↔ ∃ walk, graph.ClosedWalk file walk ∧ x ∈ walk := by
  constructor
  · intro isMate
    obtain ⟨there, back⟩ := mem_cycleMates.1 isMate
    obtain ⟨next, step, back⟩ := Relation.TransGen.head'_iff.1 back
    obtain ⟨front, walkFront⟩ := Walk.exists_of_reaches there
    obtain ⟨rest, walkBack⟩ := Walk.exists_of_reaches back
    exact ⟨front ++ x :: rest, ⟨by simp, walkFront.append (.cons step walkBack)⟩, by simp⟩
  · rintro ⟨walk, closed, mem⟩
    exact Std.TreeSet.contains_iff_mem.1 (closed.mem_cycleMates mem)

namespace OffCycle

variable {larger : ImportGraph}

/-- An import of one mate by another is on a closed walk. -/
theorem not_among_mates (off : graph.OffCycle file source target)
    (isSource : source ∈ graph.cycleMates file) (isTarget : target ∈ graph.cycleMates file) :
    ¬ graph.Imports source target := by
  intro step
  obtain ⟨front, walkFront⟩ := Walk.exists_of_reaches (mem_cycleMates.1 isSource).1
  obtain ⟨back, walkBack⟩ :=
    Walk.exists_of_reaches (mem_cycleMates.1 isTarget).2.to_reflTransGen
  have closed : graph.ClosedWalk file (front ++ source :: back) :=
    ⟨by simp, walkFront.append (.cons step walkBack)⟩
  apply off _ closed
  rw [closed.links_eq]
  exact Walk.mem_zip_of_parts walkFront walkBack

theorem mono (off : larger.OffCycle file source target)
    (grows : ∀ x y, graph.Imports x y → larger.Imports x y) : graph.OffCycle file source target := by
  intro walk closed
  exact off walk ⟨closed.1, closed.2.imp fun x y _ => grows x y⟩

theorem closedWalk_iff (off : graph.OffCycle file source target) {walk : List FileId} :
    (graph.eraseEdge source target).ClosedWalk file walk ↔ graph.ClosedWalk file walk := by
  constructor
  · rintro ⟨nonempty, walk⟩
    exact ⟨nonempty, walk.imp fun x y _ step => (imports_eraseEdge.1 step).1⟩
  · intro closed
    refine ⟨closed.1, closed.2.imp_links ?_⟩
    intro x y follows step
    refine imports_eraseEdge.2 ⟨step, ?_⟩
    rintro ⟨rfl, rfl⟩
    rw [← closed.links_eq] at follows
    exact off walk closed follows

/-- Without an import that is on no closed walk through a file, the file has the same mates, and
these import each other as before. -/
theorem agreeAmongMates (off : graph.OffCycle file source target) :
    graph.AgreeAmongMates (graph.eraseEdge source target) file where
  mates := by
    funext x
    rw [Bool.eq_iff_iff, Std.TreeSet.contains_iff_mem, Std.TreeSet.contains_iff_mem,
      mem_cycleMates_iff_closedWalk, mem_cycleMates_iff_closedWalk]
    exact exists_congr fun walk => and_congr_left fun _ => off.closedWalk_iff
  targets x isX := by
    rw [targets_eraseEdge, List.filter_filter]
    refine List.filter_congr fun y mem => ?_
    by_cases isY : y ∈ graph.cycleMates file
    · have other : ¬ (x = source ∧ y = target) := by
        rintro ⟨rfl, rfl⟩
        exact off.not_among_mates isX isY (imports_iff_mem_targets.2 mem)
      simp [other]
    · have outside : (graph.cycleMates file).contains y = false := by
        simpa [← Std.TreeSet.contains_iff_mem] using isY
      simp [outside]

theorem shortestCycles_eraseEdge (off : graph.OffCycle file source target) (depthLimit : Nat) :
    (graph.eraseEdge source target).shortestCycles file depthLimit =
      graph.shortestCycles file depthLimit := by
  rw [off.agreeAmongMates.shortestCycles_eq, (AgreeAmongMates.refl graph file).shortestCycles_eq]

end OffCycle

/-- An import of a file that imports nothing is on no closed walk through another file. -/
theorem offCycle_of_leaf (leaf : graph.targets target = []) (apart : target ≠ file) :
    graph.OffCycle file source target := by
  intro walk closed follows
  rw [closed.links_eq] at follows
  obtain ⟨_, _, _, _, _, back⟩ := closed.2.split_link follows
  cases back with
  | nil => exact apart rfl
  | cons step _ =>
    rw [imports_iff_mem_targets, leaf] at step
    exact List.not_mem_nil step

/-- Pruning cannot be seen in the result. The cycles found through a file are those that the plain
search finds, with the same paths and in the same order, and an import that no closed walk through
the file follows can be added or taken out without a change. -/
theorem pruning_invisible (graph : ImportGraph) (file : FileId) (depthLimit : Nat) :
    graph.shortestCycles file depthLimit = graph.plainCycles file depthLimit ∧
      (∀ source target location,
        (graph.insert source target location).OffCycle file source target →
          (graph.insert source target location).shortestCycles file depthLimit =
            graph.shortestCycles file depthLimit) ∧
      (∀ source target, graph.OffCycle file source target →
        (graph.eraseEdge source target).shortestCycles file depthLimit =
          graph.shortestCycles file depthLimit) := by
  refine ⟨(AgreeAmongMates.refl graph file).shortestCycles_eq depthLimit, ?_, ?_⟩
  · intro source target location off
    have before : graph.OffCycle file source target :=
      off.mono fun x y step => imports_insert.2 (.inr step)
    rw [← off.shortestCycles_eraseEdge, eraseEdge_insert, before.shortestCycles_eraseEdge]
  · intro source target off
    exact off.shortestCycles_eraseEdge depthLimit

/-- The ring, with a file beside it that is imported and imports nothing. -/
def ringWithLeaf : ImportGraph := ring.insert (inRoot "b") (inRoot "d") {}

theorem pruning_invisible_leaf :
    ringWithLeaf.OffCycle (inRoot "a") (inRoot "b") (inRoot "d") ∧
    ring.shortestCycles (inRoot "a") 3 = ring.plainCycles (inRoot "a") 3 ∧
    ringWithLeaf.shortestCycles (inRoot "a") 3 = ring.shortestCycles (inRoot "a") 3 ∧
    (ringWithLeaf.eraseEdge (inRoot "b") (inRoot "d")).shortestCycles (inRoot "a") 3 =
      ringWithLeaf.shortestCycles (inRoot "a") 3 := by
  have off : ringWithLeaf.OffCycle (inRoot "a") (inRoot "b") (inRoot "d") :=
    offCycle_of_leaf (by decide) (by decide)
  obtain ⟨plain, added, -⟩ := pruning_invisible ring (inRoot "a") 3
  refine ⟨off, plain, added _ _ _ off, ?_⟩
  exact (pruning_invisible ringWithLeaf (inRoot "a") 3).2.2 _ _ off

end ImportGraph

end ImportCycles
