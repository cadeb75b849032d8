import ImportCycles.Proofs.SameDrawings
import ImportCycles.Proofs.ShortestCycles

/-! # What drawings mark as cyclic

Drawings go by the strongly connected components of the numbered files, the detector by searches. They
agree: in every format the marked files are those on a cycle, and the marked imports are those whose
target leads back to their source, which are also the imports that some cycle found from their source
takes first. This holds whichever way the components are listed.
-/

namespace ImportCycles

open FileId (inRoot)

namespace ImportGraph

variable {graph : ImportGraph} {a b : FileId}

/-- An import is taken first by a cycle that is found from its source exactly if its target leads
back to its source, as soon as the limit is no less than the number of files. -/
theorem exists_mem_shortestCycles_iff {depthLimit : Nat} (step : graph.Imports a b)
    (enough : graph.files.length ≤ depthLimit) :
    (∃ cycle ∈ graph.shortestCycles a depthLimit,
        if b = a then cycle.members = [a] else ∃ rest, cycle.members = a :: b :: rest) ↔
      Relation.ReflTransGen graph.Imports b a := by
  constructor
  · rintro ⟨cycle, mem, hop⟩
    have closed := closedWalk_of_mem_shortestCycles mem
    by_cases same : b = a
    · rw [same]
    · rw [if_neg same] at hop
      obtain ⟨rest, members⟩ := hop
      have inside : b ∈ cycle.members := by simp [members]
      exact (closed.2.reaches_mem inside).2.to_reflTransGen
  · intro back
    obtain ⟨walk, walks⟩ := Walk.exists_of_reaches back
    have round : graph.RoundByFirst a b (a :: walk) := ⟨walk, rfl, step, walks⟩
    -- The walk may be too long, but a shortest one repeats no file.
    obtain ⟨short, found, _, shortest⟩ := exists_shortest_byFirst round (Nat.le_refl _)
    have nodup := (of_mem_shortestCycles found).1
    have within := shortest.1.closedWalk.length_le_files nodup
    obtain ⟨cycle, mem, hop, _⟩ := exists_shortest_byFirst shortest.1 (within.trans enough)
    exact ⟨cycle, mem, hop⟩

end ImportGraph

namespace Drawing

theorem draw_eq_iff (root : Option Octets) (graph : ImportGraph) (format : Format) (marks : Marks) :
    draw format { highlight := true, root } graph = (marks.picture root graph).write format ↔
      (∀ file ∈ graph.files, marks.onFile file = graph.isOnCycle file) ∧
        ∀ edge ∈ graph.edges, (marks.onImport edge.source edge.target = true ↔
          Relation.ReflTransGen graph.Imports edge.target edge.source) := by
  have divides := ImportGraph.divides_components graph
  rw [draw, picture_eq_ofComponents, eq_comm, Marks.write_eq_iff, Marks.Agree]
  refine and_congr ?_ ?_
  · refine forall₂_congr fun file mem => ?_
    change _ = (graph.cyclicFiles graph.components).contains file ↔ _
    rw [divides.contains_cyclicFiles mem]
  · refine forall₂_congr fun edge mem => ?_
    rw [← isCyclicEdge_iff divides (ImportGraph.imports_of_mem mem), ← Bool.eq_iff_iff]
    rfl

/-- Drawings and searches agree on what is cyclic. Whichever way the strongly connected components of
the numbered files are listed, the drawing of a graph in each format is the one in which the marked
files are those on a cycle and the marked imports those whose target leads back to their source; no
other marks give the same text. The graph is drawn from such a listing. A marked import is also one
that a cycle found from its source takes first, unless the limit is less than the number of files. -/
theorem drawn_marks_iff (root : Option Octets) (graph : ImportGraph) :
    (∀ components, graph.snapshot.Divides components → ∀ format (marks : Marks),
        (graph.snapshot.picture { highlight := true, root } components).write format =
            (marks.picture root graph).write format ↔
          (∀ file ∈ graph.files, marks.onFile file = graph.isOnCycle file) ∧
            ∀ edge ∈ graph.edges, (marks.onImport edge.source edge.target = true ↔
              Relation.ReflTransGen graph.Imports edge.target edge.source)) ∧
      (∃ components, graph.snapshot.Divides components ∧ ∀ format,
        draw format { highlight := true, root } graph =
          (graph.snapshot.picture { highlight := true, root } components).write format) ∧
      ∀ edge ∈ graph.edges, ∀ depthLimit, graph.files.length ≤ depthLimit →
        (Relation.ReflTransGen graph.Imports edge.target edge.source ↔
          ∃ cycle ∈ graph.shortestCycles edge.source depthLimit,
            if edge.target = edge.source then cycle.members = [edge.source]
            else ∃ rest, cycle.members = edge.source :: edge.target :: rest) := by
  refine ⟨?_, ⟨_, ImportGraph.divides_numbered graph, ?_⟩, ?_⟩
  · intro components divides format marks
    rw [picture_snapshot divides, ← draw, draw_eq_iff]
  · intro format
    rw [picture_snapshot (ImportGraph.divides_numbered graph), draw]
  · intro edge mem depthLimit enough
    exact (ImportGraph.exists_mem_shortestCycles_iff (ImportGraph.imports_of_mem mem) enough).symm

/-- Two files that import each other, and one of them a file that imports itself. -/
def bridged : ImportGraph :=
  ⟨[⟨inRoot "a", inRoot "b", {}⟩, ⟨inRoot "b", inRoot "a", {}⟩, ⟨inRoot "b", inRoot "c", {}⟩,
    ⟨inRoot "c", inRoot "c", {}⟩]⟩

/-- The later component of that graph may come first, and its files the other way round. -/
theorem divides_bridged : bridged.snapshot.Divides [[2], [1, 0]] := by
  have edges : bridged.snapshot.edges = [⟨0, 1, {}⟩, ⟨1, 0, {}⟩, ⟨1, 2, {}⟩, ⟨2, 2, {}⟩] := by
    decide
  have size : bridged.snapshot.files.length = 3 := by decide
  have ab : bridged.snapshot.hasEdge 0 1 = true := by decide
  have ba : bridged.snapshot.hasEdge 1 0 = true := by decide
  -- No import leads from the last file to the others.
  have reached : ∀ m n, Relation.ReflTransGen bridged.snapshot.Links m n →
      n = m ∨ m < 2 ∧ n < 3 := by
    intro m n reaches
    induction reaches with
    | refl => exact .inl rfl
    | tail _ link ih =>
      rw [Snapshot.Links, Snapshot.hasEdge, edges] at link
      simp only [List.any_cons, List.any_nil, Bool.or_false, Bool.or_eq_true, Bool.and_eq_true,
        beq_iff_eq] at link
      omega
  refine ⟨?_, by decide, ?_⟩
  · intro n
    simp only [List.flatten_cons, List.flatten_nil, List.append_nil, List.cons_append,
      List.nil_append, List.mem_cons, List.not_mem_nil, or_false, size]
    omega
  · intro component listed m inside n
    have imports : component = [2] ∧ m = 2 ∨ component = [1, 0] ∧ (m = 0 ∨ m = 1) := by
      simp only [List.mem_cons, List.not_mem_nil, or_false] at listed
      rcases listed with rfl | rfl <;> simpa [or_comm] using inside
    constructor
    · intro insideN
      rcases imports with ⟨rfl, rfl⟩ | ⟨rfl, rfl | rfl⟩ <;>
        simp only [List.mem_cons, List.not_mem_nil, or_false] at insideN
      · exact insideN ▸ ⟨.refl, .refl⟩
      · rcases insideN with rfl | rfl
        · exact ⟨.single ab, .single ba⟩
        · exact ⟨.refl, .refl⟩
      · rcases insideN with rfl | rfl
        · exact ⟨.refl, .refl⟩
        · exact ⟨.single ba, .single ab⟩
    · rintro ⟨there, back⟩
      have there := reached m n there
      have back := reached n m back
      rcases imports with ⟨rfl, rfl⟩ | ⟨rfl, _⟩ <;>
        simp only [List.mem_cons, List.not_mem_nil, or_false] <;> omega

/-- Every file of that graph is marked, but not the import between its two cycles. -/
theorem drawn_marks_iff_bridged :
    let marks : Marks := ⟨fun _ => true, fun a b => !(a = inRoot "b" && b = inRoot "c")⟩
    bridged.snapshot.Divides [[2], [1, 0]] ∧
      (∀ format, (bridged.snapshot.picture { highlight := true, root := some "/" }
          [[2], [1, 0]]).write format = (marks.picture (some "/") bridged).write format) ∧
      (∃ cycle ∈ bridged.shortestCycles (inRoot "a") 3, ∃ rest,
        cycle.members = inRoot "a" :: inRoot "b" :: rest) ∧
      ∃ cycle ∈ bridged.shortestCycles (inRoot "c") 3, cycle.members = [inRoot "c"] := by
  intro marks
  have ab : bridged.Imports (inRoot "a") (inRoot "b") := by decide
  have ba : bridged.Imports (inRoot "b") (inRoot "a") := by decide
  have cc : bridged.Imports (inRoot "c") (inRoot "c") := by decide
  have fromC : ∀ x, Relation.ReflTransGen bridged.Imports (inRoot "c") x → x = inRoot "c" := by
    intro x reaches
    induction reaches with
    | refl => rfl
    | tail _ step ih =>
      rw [ih, ImportGraph.imports_iff_mem_targets] at step
      exact List.mem_singleton.1 step
  have files : bridged.files = [inRoot "a", inRoot "b", inRoot "c"] := by decide
  have size : bridged.files.length ≤ 3 := by rw [files]; decide
  obtain ⟨drawn, _, taken⟩ := drawn_marks_iff (some "/") bridged
  refine ⟨divides_bridged, ?_, ?_, ?_⟩
  · intro format
    refine (drawn _ divides_bridged format marks).2 ⟨?_, ?_⟩
    · intro file mem
      symm
      rw [ImportGraph.isOnCycle_iff]
      simp only [files, List.mem_cons, List.not_mem_nil, or_false] at mem
      rcases mem with rfl | rfl | rfl
      · exact .head ab (.single ba)
      · exact .head ba (.single ab)
      · exact .single cc
    · intro edge mem
      simp only [bridged, List.mem_cons, List.not_mem_nil, or_false] at mem
      rcases mem with rfl | rfl | rfl | rfl
      · exact iff_of_true rfl (.single ba)
      · exact iff_of_true rfl (.single ab)
      · exact iff_of_false (by decide) fun back => absurd (fromC _ back) (by decide)
      · exact iff_of_true rfl .refl
  · obtain ⟨cycle, found, hop⟩ :=
      (taken ⟨inRoot "a", inRoot "b", {}⟩ (by decide) 3 size).1 (.single ba)
    exact ⟨cycle, found, by simpa [inRoot] using hop⟩
  · obtain ⟨cycle, found, hop⟩ := (taken ⟨inRoot "c", inRoot "c", {}⟩ (by decide) 3 size).1 .refl
    exact ⟨cycle, found, by simpa using hop⟩

end Drawing

end ImportCycles
