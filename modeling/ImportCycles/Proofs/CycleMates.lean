import ImportCycles.Graph.Mates
import ImportCycles.Proofs.WayBack

/-! # The files on cycles with a file are its component

The forward pass visits what the file leads to, and its notes are the imports among the files
visited: for each file those of its importers that were visited, every one as often as it imports
the file. So the backward pass misses no importer that matters, and comes upon none that the file
does not lead to. Each round takes something away, an entry of the stack or the imports of a file
that was not visited before, and an import is put onto a stack three times at most.
-/

namespace ImportCycles

open FileId (inRoot)

namespace Steps

/-- Visiting a new file takes all its places in a list away. -/
theorem unvisited_insert {visited : FileSet} {file : FileId} (new : file ∉ visited)
    (files : List FileId) :
    unvisited (visited.insert file) files + files.count file = unvisited visited files := by
  rw [← Std.TreeSet.contains_iff_mem, Bool.not_eq_true] at new
  induction files with
  | nil => rfl
  | cons other rest ih =>
    simp only [unvisited, List.countP_cons, List.count_cons] at ih ⊢
    by_cases same : other = file
    · subst same
      simp only [Std.TreeSet.contains_insert_self, new, Bool.not_true, Bool.not_false, if_true,
        Bool.false_eq_true, if_false, beq_self_eq_true]
      omega
    · have keep : (visited.insert file).contains other = visited.contains other := by
        simp [Std.TreeSet.contains_insert, Ne.symm same]
      simp only [keep, beq_eq_false_iff_ne.2 same, Bool.false_eq_true, if_false]
      omega

theorem unvisited_le (visited : FileSet) (files : List FileId) :
    unvisited visited files ≤ files.length :=
  List.countP_le_length

end Steps

namespace ImportGraph

theorem length_targets (graph : ImportGraph) (file : FileId) :
    (graph.targets file).length = (graph.edges.map (·.source)).count file := by
  rw [targets, edgesFrom, List.length_map, ← List.countP_eq_length_filter, List.count,
    List.countP_map]
  rfl

theorem length_importers (graph : ImportGraph) (file : FileId) :
    (graph.importers file).length = (graph.edges.map (·.target)).count file := by
  rw [importers, List.length_map, ← List.countP_eq_length_filter, List.count, List.countP_map]
  rfl

theorem length_importers_le (graph : ImportGraph) (file : FileId) :
    (graph.importers file).length ≤ graph.size := by
  rw [length_importers]
  exact List.count_le_length.trans_eq (List.length_map _)

/-- As often as one file imports another, it is among its importers. -/
theorem count_importers (graph : ImportGraph) (source target : FileId) :
    (graph.importers target).count source = (graph.targets source).count target := by
  simp only [importers, targets, edgesFrom, List.count, List.countP_map, List.countP_filter]
  refine List.countP_congr fun edge _ => ?_
  simp only [Function.comp_apply, Bool.and_eq_true, beq_iff_eq, decide_eq_true_eq]
  exact and_comm

end ImportGraph

namespace MateSearch

variable {graph : ImportGraph} {home file x : FileId} {waiting rest : List FileId}
  {visited : FileSet} {noted : Steps} {rounds : Nat}

theorem next_note (file : FileId) (targets : List FileId) (noted : Steps) (x : FileId) :
    (note file targets noted).next x = List.replicate (targets.count x) file ++ noted.next x := by
  induction targets generalizing noted with
  | nil => simp [note]
  | cons target targets ih =>
    simp only [note, List.foldl_cons] at ih ⊢
    rw [ih, Steps.next_add, List.count_cons]
    by_cases same : target = x
    · simp [same, List.replicate_succ', List.append_assoc]
    · simp [same]

/-! ### The forward pass -/

/-- What holds between two rounds of the forward pass. -/
structure Outward (graph : ImportGraph) (home : FileId) (waiting : List FileId) (visited : FileSet)
    (noted : Steps) : Prop where
  led : ∀ x, x ∈ visited ∨ x ∈ waiting → Relation.ReflTransGen graph.Imports home x
  known : home ∈ visited ∨ home ∈ waiting
  pending : ∀ a ∈ visited, ∀ b, graph.Imports a b → b ∈ visited ∨ b ∈ waiting
  notes : ∀ x, (noted.next x).Perm ((graph.importers x).filter visited.contains)

theorem outward_start (graph : ImportGraph) (home : FileId) : Outward graph home [home] ∅ ∅ where
  led := by
    intro x mem
    obtain rfl : x = home := by simpa using mem
    exact .refl
  known := by simp
  pending := by simp
  notes := by simp [Steps.next]

/-- A file that was visited can be dropped. -/
theorem Outward.skip (outward : Outward graph home (file :: rest) visited noted)
    (old : file ∈ visited) : Outward graph home rest visited noted where
  led x mem := outward.led x (mem.imp_right (List.mem_cons_of_mem _))
  known := by
    rcases outward.known with here | waits
    · exact .inl here
    · rcases List.mem_cons.1 waits with rfl | waits
      · exact .inl old
      · exact .inr waits
  pending := by
    intro a mem b step
    rcases outward.pending a mem b step with seen | waits
    · exact .inl seen
    · rcases List.mem_cons.1 waits with rfl | waits
      · exact .inl old
      · exact .inr waits
  notes := outward.notes

/-- Visiting a file adds the notes of its own imports. -/
theorem perm_note (new : file ∉ visited)
    (notes : ∀ x, (noted.next x).Perm ((graph.importers x).filter visited.contains)) (x : FileId) :
    ((note file (graph.targets file) noted).next x).Perm
      ((graph.importers x).filter (visited.insert file).contains) := by
  rw [next_note, List.perm_iff_count]
  intro a
  rw [List.count_append, (notes x).count_eq]
  by_cases same : a = file
  · subst same
    have out : a ∉ (graph.importers x).filter visited.contains := by
      simp [List.mem_filter, new]
    rw [List.count_replicate_self, List.count_eq_zero_of_not_mem out, Nat.add_zero,
      List.count_filter (by simp), ImportGraph.count_importers]
  · have keep : (visited.insert file).contains a = visited.contains a := by
      simp [Std.TreeSet.contains_insert, Ne.symm same]
    rw [List.count_replicate, if_neg (by simpa using Ne.symm same), Nat.zero_add]
    cases seen : visited.contains a with
    | true => rw [List.count_filter seen, List.count_filter (keep.trans seen)]
    | false =>
      rw [List.count_eq_zero_of_not_mem (by simp [List.mem_filter, seen]),
        List.count_eq_zero_of_not_mem (by simp [List.mem_filter, keep, seen])]

theorem Outward.visit (outward : Outward graph home (file :: rest) visited noted)
    (new : file ∉ visited) :
    Outward graph home ((graph.targets file).reverse ++ rest) (visited.insert file)
      (note file (graph.targets file) noted) where
  led := by
    have here := outward.led file (.inr (by simp))
    intro x mem
    rw [FileSet.mem_insert, List.mem_append, List.mem_reverse,
      ← ImportGraph.imports_iff_mem_targets] at mem
    rcases mem with (rfl | old) | step | waits
    · exact here
    · exact outward.led x (.inl old)
    · exact here.tail step
    · exact outward.led x (.inr (List.mem_cons_of_mem _ waits))
  known := by
    rw [FileSet.mem_insert, List.mem_append]
    rcases outward.known with here | waits
    · exact .inl (.inr here)
    · rcases List.mem_cons.1 waits with same | waits
      · exact .inl (.inl same)
      · exact .inr (.inr waits)
  pending := by
    intro a mem b step
    rw [FileSet.mem_insert, List.mem_append, List.mem_reverse,
      ← ImportGraph.imports_iff_mem_targets]
    rcases FileSet.mem_insert.1 mem with rfl | old
    · exact .inr (.inl step)
    · rcases outward.pending a old b step with seen | waits
      · exact .inl (.inr seen)
      · rcases List.mem_cons.1 waits with same | waits
        · exact .inl (.inl same)
        · exact .inr (.inr waits)
  notes := perm_note new outward.notes

/-- When nothing waits any more, all that the file leads to is visited. -/
theorem Outward.mem_visited (outward : Outward graph home [] visited noted) :
    x ∈ visited ↔ Relation.ReflTransGen graph.Imports home x := by
  constructor
  · exact fun mem => outward.led x (.inl mem)
  · intro reaches
    induction reaches with
    | refl => simpa using outward.known
    | tail _ step ih => simpa using outward.pending _ ih _ step

/-- In the end the notes lead from a file to those of its importers that the first file leads to. -/
theorem Outward.leads (outward : Outward graph home [] visited noted) {a b : FileId} :
    noted.Leads b a ↔ Relation.ReflTransGen graph.Imports home a ∧ graph.Imports a b := by
  rw [Steps.Leads, (outward.notes b).mem_iff, List.mem_filter, Std.TreeSet.contains_iff_mem,
    outward.mem_visited, ← ImportGraph.imports_iff_mem_importers, and_comm]

theorem Outward.length_notes_le (outward : Outward graph home waiting visited noted) (x : FileId) :
    (noted.next x).length ≤ (graph.importers x).length :=
  (outward.notes x).length_eq.trans_le (List.length_filter_le _ _)

/-! ### The backward pass -/

/-- Going back along the notes from the importers of the file leads to its component. -/
theorem Outward.mem_reachable (outward : Outward graph home [] visited noted) :
    x ∈ noted.reachable (noted.next home) ↔
      Relation.ReflTransGen graph.Imports home x ∧ Relation.TransGen graph.Imports x home := by
  rw [Steps.mem_reachable]
  constructor
  · rintro ⟨last, mem, back⟩
    obtain ⟨there, step⟩ := outward.leads.1 mem
    induction back with
    | refl => exact ⟨there, .single step⟩
    | tail _ leads ih =>
      obtain ⟨there, step⟩ := outward.leads.1 leads
      exact ⟨there, ih.2.head step⟩
  · rintro ⟨there, back⟩
    induction back using Relation.TransGen.head_induction_on with
    | single step => exact ⟨_, outward.leads.2 ⟨there, step⟩, .refl⟩
    | head step _ ih =>
      obtain ⟨last, mem, reaches⟩ := ih (there.tail step)
      exact ⟨last, mem, reaches.tail (outward.leads.2 ⟨there, step⟩)⟩

/-! ### The number of rounds -/

/-- How many rounds can go on from here. -/
def left (graph : ImportGraph) : MateSearch → Nat
  | .forward waiting visited _ =>
    waiting.length + Steps.unvisited visited (graph.edges.map (·.source)) + 2 * graph.size + 1
  | .backward waiting visited _ =>
    waiting.length + Steps.unvisited visited (graph.edges.map (·.target))

theorem answer?_next {search later : MateSearch} (goes : search.round graph home = .next later) :
    answer? graph home (rounds + 1) search = answer? graph home rounds later := by
  rw [answer?, goes]

/-- The backward pass goes through the closure along the notes. -/
theorem answer?_backward (few : ∀ x, (noted.next x).length ≤ (graph.importers x).length)
    (enough : left graph (.backward waiting visited noted) < rounds) :
    answer? graph home rounds (.backward waiting visited noted) =
      some (noted.closure visited waiting) := by
  induction rounds generalizing waiting visited with
  | zero => omega
  | succ rounds ih =>
    cases waiting with
    | nil => simp only [answer?, round, Steps.closure]
    | cons file rest =>
      rw [Steps.closure]
      simp only [left, List.length_cons] at enough
      by_cases seen : visited.contains file = true
      · have goes : round graph home (.backward (file :: rest) visited noted) =
            .next (.backward rest visited noted) := if_pos seen
        rw [answer?_next goes, if_pos seen]
        apply ih
        simp only [left]
        omega
      · have fewer := Steps.unvisited_insert (mt Std.TreeSet.contains_iff_mem.2 seen)
          (graph.edges.map (·.target))
        have short := few file
        rw [ImportGraph.length_importers] at short
        have goes : round graph home (.backward (file :: rest) visited noted) =
            .next (.backward (noted.next file ++ rest) (visited.insert file) noted) := if_neg seen
        rw [answer?_next goes, if_neg seen]
        apply ih
        simp only [left, List.length_append]
        omega

/-- The forward pass ends, and then the backward pass does. -/
theorem Outward.answer?_eq (outward : Outward graph home waiting visited noted)
    (enough : left graph (.forward waiting visited noted) < rounds) :
    ∃ reached notes, Outward graph home [] reached notes ∧
      answer? graph home rounds (.forward waiting visited noted) =
        some (notes.reachable (notes.next home)) := by
  induction rounds generalizing waiting visited noted with
  | zero => omega
  | succ rounds ih =>
    cases waiting with
    | nil =>
      refine ⟨visited, noted, outward, ?_⟩
      have short : (noted.next home).length ≤ graph.size :=
        (outward.length_notes_le home).trans (ImportGraph.length_importers_le graph home)
      have fewer := Steps.unvisited_le ∅ (graph.edges.map (·.target))
      rw [List.length_map] at fewer
      simp only [answer?, round]
      apply answer?_backward outward.length_notes_le
      simp only [left, ImportGraph.size] at enough short ⊢
      omega
    | cons file rest =>
      simp only [left, List.length_cons] at enough
      by_cases seen : visited.contains file = true
      · have goes : round graph home (.forward (file :: rest) visited noted) =
            .next (.forward rest visited noted) := if_pos seen
        rw [answer?_next goes]
        apply ih (outward.skip (Std.TreeSet.contains_iff_mem.1 seen))
        simp only [left]
        omega
      · have new := mt Std.TreeSet.contains_iff_mem.2 seen
        have fewer := Steps.unvisited_insert new (graph.edges.map (·.source))
        have targets := ImportGraph.length_targets graph file
        have goes : round graph home (.forward (file :: rest) visited noted) =
            .next (.forward ((graph.targets file).reverse ++ rest) (visited.insert file)
              (note file (graph.targets file) noted)) := if_neg seen
        rw [answer?_next goes]
        apply ih (outward.visit new)
        simp only [left, List.length_append, List.length_reverse]
        omega

/-- The search ends in at most three rounds for each import and three more. -/
theorem answer?_start (graph : ImportGraph) (home : FileId) :
    ∃ mates, answer? graph home (3 * graph.size + 3) (start home) = some mates ∧
      ∀ x, x ∈ mates ↔
        Relation.ReflTransGen graph.Imports home x ∧ Relation.TransGen graph.Imports x home := by
  have fewer := Steps.unvisited_le ∅ (graph.edges.map (·.source))
  rw [List.length_map] at fewer
  have enough : left graph (start home) < 3 * graph.size + 3 := by
    simp only [start, left, List.length_singleton, ImportGraph.size]
    omega
  obtain ⟨visited, noted, outward, answer⟩ := (outward_start graph home).answer?_eq enough
  exact ⟨_, answer, fun x => outward.mem_reachable⟩

end MateSearch

namespace ImportGraph

variable {graph : ImportGraph} {home x : FileId}

/-- A component has the same files, whichever of them it is looked at from. -/
theorem mates_iff_of_mates
    (mate : Relation.ReflTransGen graph.Imports home x ∧ Relation.TransGen graph.Imports x home)
    (y : FileId) :
    Relation.ReflTransGen graph.Imports x y ∧ Relation.TransGen graph.Imports y x ↔
      Relation.ReflTransGen graph.Imports home y ∧ Relation.TransGen graph.Imports y home := by
  obtain ⟨there, back⟩ := mate
  constructor
  · rintro ⟨onward, homeward⟩
    exact ⟨there.trans onward, homeward.trans back⟩
  · rintro ⟨onward, homeward⟩
    exact ⟨back.to_reflTransGen.trans onward, homeward.trans_left there⟩

end ImportGraph

/-- The search for the files on cycles with a file ends in at most three rounds for each import and
three more, and gives exactly the files that `home` leads to by zero or more imports and that lead
back to it by one or more: the mates of `home`. There are none exactly if there is no closed walk
from `home`, and otherwise `home` is one of them. The search gives the same files from each. -/
theorem mates_exact (graph : ImportGraph) (home : FileId) :
    ∃ mates, MateSearch.answer? graph home (3 * graph.size + 3) (.start home) = some mates ∧
      (∀ x, x ∈ mates ↔ x ∈ graph.cycleMates home) ∧
      (∀ x, x ∈ mates ↔
        Relation.ReflTransGen graph.Imports home x ∧ Relation.TransGen graph.Imports x home) ∧
      (mates.isEmpty = true ↔ ¬ ∃ walk, graph.ClosedWalk home walk) ∧
      (mates.isEmpty = false → home ∈ mates) ∧
      ∀ x ∈ mates, ∃ others,
        MateSearch.answer? graph x (3 * graph.size + 3) (.start x) = some others ∧
          ∀ y, y ∈ others ↔ y ∈ mates := by
  obtain ⟨mates, answer, exact⟩ := MateSearch.answer?_start graph home
  have self : home ∈ mates ↔ ∃ walk, graph.ClosedWalk home walk := by
    rw [exact, ← ImportGraph.isOnCycle_iff_exists_closedWalk, ImportGraph.isOnCycle_iff]
    exact and_iff_right .refl
  have nonempty : mates.isEmpty = false → home ∈ mates := by
    intro some
    obtain ⟨x, mem⟩ := Std.TreeSet.isEmpty_eq_false_iff_exists_mem.1 some
    obtain ⟨there, back⟩ := (exact x).1 mem
    exact (exact home).2 ⟨.refl, .trans_right there back⟩
  refine ⟨mates, answer, ?_, exact, ?_, nonempty, ?_⟩
  · exact fun x => (exact x).trans ImportGraph.mem_cycleMates.symm
  · rw [← self]
    constructor
    · intro none mem
      rw [Std.TreeSet.isEmpty_iff_forall_not_mem] at none
      exact none home mem
    · intro out
      cases empty : mates.isEmpty with
      | true => rfl
      | false => exact absurd (nonempty empty) out
  · intro x mem
    obtain ⟨others, answer', exact'⟩ := MateSearch.answer?_start graph x
    refine ⟨others, answer', fun y => ?_⟩
    rw [exact', exact, ImportGraph.mates_iff_of_mates ((exact x).1 mem)]

/-- The file beside the ring has no mates, although it leads to the ring. The files of the ring have
each other, and not the file beside it. -/
theorem mates_exact_sideRing :
    (∃ mates, MateSearch.answer? sideRing (inRoot "a") 12 (.start (inRoot "a")) = some mates ∧
      mates.isEmpty = true) ∧
    ∃ mates, MateSearch.answer? sideRing (inRoot "b") 12 (.start (inRoot "b")) = some mates ∧
      mates.isEmpty = false ∧ inRoot "b" ∈ mates ∧ inRoot "c" ∈ mates ∧ inRoot "a" ∉ mates ∧
      ∃ others, MateSearch.answer? sideRing (inRoot "c") 12 (.start (inRoot "c")) = some others ∧
        ∀ y, y ∈ others ↔ y ∈ mates := by
  have bc : sideRing.Imports (inRoot "b") (inRoot "c") := by decide
  have cb : sideRing.Imports (inRoot "c") (inRoot "b") := by decide
  have unled : ¬ ∃ x, sideRing.Imports x (inRoot "a") := by
    rintro ⟨x, step⟩
    rw [ImportGraph.imports_iff_mem_importers] at step
    exact absurd step (by simp [show sideRing.importers (inRoot "a") = [] from rfl])
  constructor
  · obtain ⟨mates, answer, -, -, empty, -⟩ := mates_exact sideRing (inRoot "a")
    refine ⟨mates, answer, empty.2 ?_⟩
    rintro ⟨walk, closed⟩
    obtain ⟨x, -, step⟩ := Relation.TransGen.tail'_iff.1 (closed.2.reaches_mem closed.head_mem).2
    exact unled ⟨x, step⟩
  · obtain ⟨mates, answer, -, exact, -, self, alike⟩ := mates_exact sideRing (inRoot "b")
    have ringed : inRoot "c" ∈ mates := (exact _).2 ⟨.single bc, .single cb⟩
    have some : mates.isEmpty = false := Std.TreeSet.isEmpty_eq_false_iff_exists_mem.2 ⟨_, ringed⟩
    refine ⟨mates, answer, some, self some, ringed, ?_, alike _ ringed⟩
    intro beside
    obtain ⟨there, back⟩ := (exact _).1 beside
    rcases Relation.ReflTransGen.cases_tail there with same | ⟨x, -, step⟩
    · exact absurd same (by decide)
    · exact unled ⟨x, step⟩

end ImportCycles
