import ImportCycles.Proofs.Order
import ImportCycles.Proofs.Search

/-! # The cycles found through a file

Whatever is found through a file is a simple cycle of imports within the depth limit, listed once and
shortest first. Nothing short enough is missed: each import of the file that some closed walk takes
first has a shortest such walk among the cycles found, and each import into the file that some closed
walk takes last has one too. The mates of the file cost nothing here, since every closed walk through
the file stays among them.
-/

namespace ImportCycles

namespace ImportGraph

/-- A closed walk from `file` that takes the import of `next` first. -/
def RoundByFirst (graph : ImportGraph) (file next : FileId) (members : List FileId) : Prop :=
  ∃ rest, members = file :: rest ∧ graph.Imports file next ∧ Walk graph.Imports next rest file

/-- A closed walk from `file` that takes the import of `file` by `last` last. -/
def RoundByLast (graph : ImportGraph) (file last : FileId) (members : List FileId) : Prop :=
  ∃ front, members = front ++ [last] ∧ Walk graph.Imports file front last ∧ graph.Imports last file

/-- One of the shortest lists with a property. -/
def Shortest (P : List FileId → Prop) (members : List FileId) : Prop :=
  P members ∧ ∀ other, P other → members.length ≤ other.length

variable {graph : ImportGraph} {file next last x : FileId} {members path : List FileId}
  {maxSteps depthLimit : Nat} {cycle : Cycle}

theorem RoundByFirst.closedWalk (round : graph.RoundByFirst file next members) :
    graph.ClosedWalk file members := by
  obtain ⟨rest, rfl, step, walk⟩ := round
  exact ⟨by simp, .cons step walk⟩

theorem RoundByFirst.next_mem (round : graph.RoundByFirst file next members) : next ∈ members := by
  obtain ⟨rest, rfl, _, walk⟩ := round
  cases walk with
  | nil => simp
  | cons _ _ => simp

theorem RoundByFirst.imports (round : graph.RoundByFirst file next members) :
    graph.Imports file next := by
  obtain ⟨_, -, step, -⟩ := round
  exact step

/-- The first import of a round leads to its second member, or back at once. -/
theorem RoundByFirst.members_eq (round : graph.RoundByFirst file next members) :
    members = [file] ∧ next = file ∨ ∃ rest, members = file :: next :: rest := by
  obtain ⟨rest, rfl, -, back⟩ := round
  cases back with
  | nil => exact .inl ⟨rfl, rfl⟩
  | cons _ _ => exact .inr ⟨_, rfl⟩

theorem RoundByLast.closedWalk (round : graph.RoundByLast file last members) :
    graph.ClosedWalk file members := by
  obtain ⟨front, rfl, walk, step⟩ := round
  exact ⟨by simp, walk.append (.single step)⟩

/-- Every closed walk takes some import first. -/
theorem ClosedWalk.roundByFirst (closed : graph.ClosedWalk file members) :
    ∃ next, graph.RoundByFirst file next members := by
  obtain ⟨nonempty, walk⟩ := closed
  cases walk with
  | nil => exact absurd rfl nonempty
  | @cons _ next _ rest step walk => exact ⟨next, rest, rfl, step, walk⟩

/-- A closed walk through a file stays among its mates. -/
theorem ClosedWalk.mem_cycleMates (closed : graph.ClosedWalk file members) (mem : x ∈ members) :
    (graph.cycleMates file).contains x = true :=
  Std.TreeSet.contains_iff_mem.2 (ImportGraph.mem_cycleMates.2 (closed.2.reaches_mem mem))

/-- A shortest path back from an import makes a shortest closed walk that takes it first. -/
theorem shortest_byFirst (step : graph.Imports file next)
    (shortest : graph.outgoing.ShortestPath next file (graph.cycleMates file).contains path) :
    Shortest (graph.RoundByFirst file next) (file :: path) ∧ (file :: path).Nodup := by
  have walk := shortest.walk
  rw [leads_outgoing] at walk
  refine ⟨⟨⟨path, rfl, step, walk⟩, ?_⟩, List.nodup_cons.2 ⟨shortest.avoids, shortest.nodup⟩⟩
  intro other round
  have closed := round.closedWalk
  obtain ⟨rest, rfl, _, back⟩ := round
  rw [← leads_outgoing] at back
  refine Nat.succ_le_succ (shortest.least rest back ?_)
  intro x mem
  exact closed.mem_cycleMates (List.mem_cons_of_mem _ mem)

/-- A shortest path to an importer makes a shortest closed walk that takes its import last. -/
theorem shortest_byLast (step : graph.Imports last file)
    (shortest : graph.outgoing.ShortestPath file last (graph.cycleMates file).contains path) :
    Shortest (graph.RoundByLast file last) (path ++ [last]) ∧ (path ++ [last]).Nodup := by
  have walk := shortest.walk
  rw [leads_outgoing] at walk
  refine ⟨⟨⟨path, rfl, walk, step⟩, ?_⟩, ?_⟩
  · intro other round
    have closed := round.closedWalk
    obtain ⟨front, rfl, there, _⟩ := round
    rw [← leads_outgoing] at there
    simp only [List.length_append, List.length_singleton, Nat.add_le_add_iff_right]
    refine shortest.least front there ?_
    intro x mem
    exact closed.mem_cycleMates (List.mem_append_left _ mem)
  · rw [List.nodup_append]
    refine ⟨shortest.nodup, by simp, ?_⟩
    intro x memPath y memLast same
    obtain rfl := List.mem_singleton.1 memLast
    exact shortest.avoids (same ▸ memPath)

theorem mem_cyclesByImport {mates : FileSet} :
    members ∈ graph.cyclesByImport file mates maxSteps ↔
      ∃ next, graph.Imports file next ∧ (next = file ∧ members = [file] ∨
        next ≠ file ∧ mates.contains next = true ∧ ∃ path, members = file :: path ∧
          graph.outgoing.shortestPath? next file mates.contains maxSteps = some path) := by
  simp only [cyclesByImport, List.mem_filterMap, ← imports_iff_mem_targets]
  refine exists_congr fun next => and_congr_right fun _ => ?_
  by_cases same : next = file
  · simp only [same, if_true, Option.some.injEq, true_and, ne_eq, not_true_eq_false, false_and,
      or_false]
    exact eq_comm
  · by_cases mate : mates.contains next = true
    · simp only [same, mate, if_false, if_true, Option.map_eq_some_iff, false_and, false_or, ne_eq,
        not_false_eq_true, true_and]
      refine exists_congr fun path => ?_
      rw [and_comm, eq_comm]
    · simp [same, mate]

theorem mem_cyclesByImporter {mates : FileSet} :
    members ∈ graph.cyclesByImporter file mates maxSteps ↔
      ∃ last, graph.Imports last file ∧ last ≠ file ∧ mates.contains last = true ∧
        ∃ path, members = path ++ [last] ∧
          graph.outgoing.shortestPath? file last mates.contains maxSteps = some path := by
  simp only [cyclesByImporter, List.mem_filterMap, FileId.mem_sorted, List.mem_filter,
    ← imports_iff_mem_importers, Option.map_eq_some_iff, Bool.and_eq_true, decide_eq_true_eq,
    and_assoc]
  refine exists_congr fun last => and_congr_right fun _ => and_congr_right fun _ =>
    and_congr_right fun _ => exists_congr fun path => ?_
  rw [and_comm, eq_comm]

/-- What is found is brought into order: the rounds that the two searches give, each once and
shortest first. -/
theorem exists_shortestCycles_eq (graph : ImportGraph) (file : FileId) (depthLimit : Nat) :
    ∃ found, graph.shortestCycles file depthLimit =
        (Sorted.sortBy (fun a b => a.length ≤ b.length) (Sorted.firstOccurrences found)).map
          Cycle.mk ∧
      ∀ members, members ∈ found ↔
        depthLimit ≠ 0 ∧ (graph.cycleMates file).isEmpty = false ∧
          (members ∈ graph.cyclesByImport file (graph.cycleMates file) (depthLimit - 1) ∨
            members ∈ graph.cyclesByImporter file (graph.cycleMates file) (depthLimit - 1)) := by
  unfold shortestCycles
  by_cases zero : depthLimit = 0
  · exact ⟨[], by simp [zero, Sorted.firstOccurrences, Sorted.sortBy], by simp [zero]⟩
  · cases empty : (graph.cycleMates file).isEmpty with
    | true => exact ⟨[], by simp [empty, Sorted.firstOccurrences, Sorted.sortBy], by simp⟩
    | false => exact ⟨_, by simp only [zero, empty, if_false, Bool.false_eq_true]; rfl, by simp [zero]⟩

theorem mem_shortestCycles :
    cycle ∈ graph.shortestCycles file depthLimit ↔
      depthLimit ≠ 0 ∧ (graph.cycleMates file).isEmpty = false ∧
        (cycle.members ∈ graph.cyclesByImport file (graph.cycleMates file) (depthLimit - 1) ∨
          cycle.members ∈ graph.cyclesByImporter file (graph.cycleMates file) (depthLimit - 1)) := by
  obtain ⟨found, eq, mem⟩ := exists_shortestCycles_eq graph file depthLimit
  rw [eq, ← mem, List.mem_map]
  constructor
  · rintro ⟨members, inFound, rfl⟩
    rwa [(Sorted.sortBy_perm _ _).mem_iff, Sorted.mem_firstOccurrences] at inFound
  · intro inFound
    refine ⟨cycle.members, ?_, rfl⟩
    rwa [(Sorted.sortBy_perm _ _).mem_iff, Sorted.mem_firstOccurrences]

theorem nodup_shortestCycles (graph : ImportGraph) (file : FileId) (depthLimit : Nat) :
    (graph.shortestCycles file depthLimit).Nodup := by
  obtain ⟨found, eq, _⟩ := exists_shortestCycles_eq graph file depthLimit
  rw [eq, List.nodup_map_iff (fun _ _ same => congrArg Cycle.members same),
    (Sorted.sortBy_perm _ _).nodup_iff]
  exact Sorted.firstOccurrences_nodup found

/-- What is found through a file is simple, within the limit, and shortest for the import it takes
first or for the one it takes last. -/
theorem of_mem_shortestCycles (mem : cycle ∈ graph.shortestCycles file depthLimit) :
    cycle.members.Nodup ∧ cycle.members.length ≤ depthLimit ∧
      ((∃ next, Shortest (graph.RoundByFirst file next) cycle.members) ∨
        ∃ last, Shortest (graph.RoundByLast file last) cycle.members) := by
  obtain ⟨positive, nonempty, byImport | byImporter⟩ := mem_shortestCycles.1 mem
  · obtain ⟨next, step, ⟨rfl, members⟩ | ⟨apart, mate, path, members, found⟩⟩ :=
      mem_cyclesByImport.1 byImport
    · rw [members]
      refine ⟨by simp, Nat.one_le_iff_ne_zero.2 positive, .inl ⟨next, ?_, ?_⟩⟩
      · exact ⟨[], rfl, step, .nil next⟩
      · rintro _ ⟨rest, rfl, _⟩
        simp
    · obtain ⟨shortest, within⟩ := Steps.shortestPath?_some mate apart found
      obtain ⟨round, nodup⟩ := shortest_byFirst step shortest
      rw [members]
      refine ⟨nodup, ?_, .inl ⟨next, round⟩⟩
      rw [List.length_cons]
      omega
  · obtain ⟨last, step, apart, mate, path, members, found⟩ := mem_cyclesByImporter.1 byImporter
    have self : (graph.cycleMates file).contains file = true := by
      obtain ⟨there, back⟩ := ImportGraph.mem_cycleMates.1 (Std.TreeSet.contains_iff_mem.1 mate)
      exact Std.TreeSet.contains_iff_mem.2
        (ImportGraph.mem_cycleMates.2 ⟨.refl, Relation.TransGen.trans_right there back⟩)
    obtain ⟨shortest, within⟩ := Steps.shortestPath?_some self apart.symm found
    obtain ⟨round, nodup⟩ := shortest_byLast step shortest
    rw [members]
    refine ⟨nodup, ?_, .inr ⟨last, round⟩⟩
    rw [List.length_append, List.length_singleton]
    omega

theorem closedWalk_of_mem_shortestCycles (mem : cycle ∈ graph.shortestCycles file depthLimit) :
    graph.ClosedWalk file cycle.members := by
  obtain ⟨_, _, ⟨next, round, _⟩ | ⟨last, round, _⟩⟩ := of_mem_shortestCycles mem
  · exact round.closedWalk
  · exact round.closedWalk

theorem trigger?_of_mem_shortestCycles (mem : cycle ∈ graph.shortestCycles file depthLimit) :
    cycle.trigger? = some file := by
  obtain ⟨_, rest, members, _⟩ := (closedWalk_of_mem_shortestCycles mem).roundByFirst
  rw [Cycle.trigger?, members, List.head?_cons]

/-- Where some round within the limit takes an import first, the search finds a way back from it. -/
theorem RoundByFirst.exists_shortestPath? (round : graph.RoundByFirst file next members)
    (apart : next ≠ file) (within : members.length ≤ depthLimit) :
    ∃ path, graph.outgoing.shortestPath? next file (graph.cycleMates file).contains
      (depthLimit - 1) = some path := by
  have closed := round.closedWalk
  have mate := closed.mem_cycleMates round.next_mem
  obtain ⟨rest, rfl, -, back⟩ := round
  have inside : ∀ x ∈ rest, (graph.cycleMates file).contains x = true :=
    fun x mem => closed.mem_cycleMates (List.mem_cons_of_mem _ mem)
  rw [← leads_outgoing] at back
  rw [List.length_cons] at within
  apply Option.ne_none_iff_exists'.1
  intro none
  -- The search gives up only if even the walk at hand is too long.
  have := Steps.shortestPath?_none mate apart none back inside
  omega

/-- The first import of every closed walk within the limit has a shortest round among the cycles
found. -/
theorem exists_shortest_byFirst (round : graph.RoundByFirst file next members)
    (within : members.length ≤ depthLimit) :
    ∃ cycle ∈ graph.shortestCycles file depthLimit,
      (if next = file then cycle.members = [file] else ∃ rest, cycle.members = file :: next :: rest) ∧
        Shortest (graph.RoundByFirst file next) cycle.members := by
  have closed := round.closedWalk
  have mates : (graph.cycleMates file).isEmpty = false :=
    Std.TreeSet.isEmpty_eq_false_of_contains (closed.mem_cycleMates closed.head_mem)
  have positive : depthLimit ≠ 0 := by
    have := List.length_pos_iff.2 closed.1
    omega
  have step : graph.Imports file next := by
    obtain ⟨_, _, step, _⟩ := round
    exact step
  by_cases same : next = file
  · subst same
    refine ⟨⟨[next]⟩, ?_, by simp, ⟨[], rfl, step, .nil next⟩, ?_⟩
    · refine mem_shortestCycles.2 ⟨positive, mates, .inl ?_⟩
      exact mem_cyclesByImport.2 ⟨next, step, .inl ⟨rfl, rfl⟩⟩
    · rintro _ ⟨other, rfl, _⟩
      simp
  · have mate := closed.mem_cycleMates round.next_mem
    obtain ⟨path, found⟩ := round.exists_shortestPath? same within
    obtain ⟨shortest, _⟩ := Steps.shortestPath?_some mate same found
    refine ⟨⟨file :: path⟩, ?_, ?_, (shortest_byFirst step shortest).1⟩
    · refine mem_shortestCycles.2 ⟨positive, mates, .inl ?_⟩
      exact mem_cyclesByImport.2 ⟨next, step, .inr ⟨same, mate, path, rfl, found⟩⟩
    · rw [if_neg same]
      cases shortest.walk with
      | nil => exact absurd rfl same
      | @cons _ _ _ rest _ _ => exact ⟨rest, rfl⟩

/-- The last import of every closed walk within the limit has a shortest round among the cycles
found. -/
theorem exists_shortest_byLast (round : graph.RoundByLast file last members)
    (within : members.length ≤ depthLimit) :
    ∃ cycle ∈ graph.shortestCycles file depthLimit, cycle.members.getLast? = some last ∧
      Shortest (graph.RoundByLast file last) cycle.members := by
  have closed := round.closedWalk
  have self : (graph.cycleMates file).contains file = true := closed.mem_cycleMates closed.head_mem
  have mates := Std.TreeSet.isEmpty_eq_false_of_contains self
  obtain ⟨front, rfl, there, step⟩ := round
  rw [List.length_append, List.length_singleton] at within
  by_cases same : last = file
  · -- An import of itself is the first import of a closed walk as well as the last.
    subst same
    refine ⟨⟨[last]⟩, ?_, rfl, ⟨[], rfl, .nil last, step⟩, ?_⟩
    · refine mem_shortestCycles.2 ⟨by omega, mates, .inl ?_⟩
      exact mem_cyclesByImport.2 ⟨last, step, .inl ⟨rfl, rfl⟩⟩
    · rintro _ ⟨other, rfl, _⟩
      simp
  · have mate : (graph.cycleMates file).contains last = true := closed.mem_cycleMates (by simp)
    have inside : ∀ x ∈ front, (graph.cycleMates file).contains x = true :=
      fun x mem => closed.mem_cycleMates (List.mem_append_left _ mem)
    have apart : file ≠ last := fun eq => same eq.symm
    rw [← leads_outgoing] at there
    cases found : graph.outgoing.shortestPath? file last (graph.cycleMates file).contains
        (depthLimit - 1) with
    | none =>
      have := Steps.shortestPath?_none self apart found there inside
      omega
    | some path =>
      obtain ⟨shortest, _⟩ := Steps.shortestPath?_some self apart found
      refine ⟨⟨path ++ [last]⟩, ?_, by simp, (shortest_byLast step shortest).1⟩
      refine mem_shortestCycles.2 ⟨by omega, mates, .inr ?_⟩
      exact mem_cyclesByImporter.2 ⟨last, step, same, mate, path, rfl, found⟩

/-- Cycles are found through a file exactly if some closed walk through it is within the limit. -/
theorem shortestCycles_ne_nil_iff :
    graph.shortestCycles file depthLimit ≠ [] ↔
      ∃ walk, graph.ClosedWalk file walk ∧ walk.length ≤ depthLimit := by
  constructor
  · intro nonempty
    obtain ⟨cycle, mem⟩ := List.exists_mem_of_ne_nil _ nonempty
    exact ⟨cycle.members, closedWalk_of_mem_shortestCycles mem, (of_mem_shortestCycles mem).2.1⟩
  · rintro ⟨walk, closed, within⟩
    obtain ⟨next, round⟩ := closed.roundByFirst
    obtain ⟨cycle, mem, _⟩ := exists_shortest_byFirst round within
    exact List.ne_nil_of_mem mem

theorem shortestCycles_eq_nil (offCycle : graph.isOnCycle file = false) (depthLimit : Nat) :
    graph.shortestCycles file depthLimit = [] := by
  refine Decidable.of_not_not fun nonempty => ?_
  obtain ⟨walk, closed, _⟩ := shortestCycles_ne_nil_iff.1 nonempty
  rw [closed.isOnCycle] at offCycle
  cases offCycle

/-- The links of a closed walk are imports, the closing one included. -/
theorem ClosedWalk.links (closed : graph.ClosedWalk file cycle.members) :
    ∀ link ∈ cycle.links, graph.hasEdge link.1 link.2 = true := by
  rw [closed.links_eq]
  exact closed.2.forall_zip

/-- Soundness of the search for cycles: whatever is found through a file starts at it, has no member
twice, is not longer than the limit and follows imports all the way round; no cycle is listed twice,
and none stands behind a longer one. -/
theorem shortestCycles_sound (graph : ImportGraph) (file : FileId) (depthLimit : Nat) :
    (∀ cycle ∈ graph.shortestCycles file depthLimit,
      cycle.trigger? = some file ∧ cycle.members.Nodup ∧ 1 ≤ cycle.size ∧ cycle.size ≤ depthLimit ∧
        ∀ link ∈ cycle.links, graph.hasEdge link.1 link.2 = true) ∧
      (graph.shortestCycles file depthLimit).Nodup ∧
      (graph.shortestCycles file depthLimit).Pairwise (·.size ≤ ·.size) := by
  refine ⟨?_, ?_, ?_⟩
  · intro cycle mem
    obtain ⟨nodup, within, _⟩ := of_mem_shortestCycles mem
    have closed := closedWalk_of_mem_shortestCycles mem
    obtain ⟨_, rest, members, _⟩ := closed.roundByFirst
    refine ⟨?_, nodup, List.length_pos_iff.2 closed.1, within, closed.links⟩
    simp [Cycle.trigger?, members]
  · obtain ⟨found, eq, _⟩ := exists_shortestCycles_eq graph file depthLimit
    rw [eq]
    have nodup := (Sorted.sortBy_perm (fun a b => a.length ≤ b.length) _).nodup_iff.2
      (Sorted.firstOccurrences_nodup found)
    refine List.Pairwise.map Cycle.mk ?_ nodup
    intro a b differ same
    exact differ (congrArg Cycle.members same)
  · obtain ⟨found, eq, _⟩ := exists_shortestCycles_eq graph file depthLimit
    rw [eq]
    refine List.Pairwise.map Cycle.mk ?_ (Sorted.sortBy_pairwise ?_ ?_ _)
    · intro a b le
      simpa [Cycle.size] using le
    · simp only [decide_eq_true_eq, decide_eq_false_iff_not]
      omega
    · simp only [decide_eq_true_eq]
      omega

end ImportGraph

/-- The file of that name in the root directory. -/
def FileId.inRoot (name : String) : FileId := ⟨true, [name]⟩

open FileId (inRoot)

namespace ImportGraph

/-- Three files that import each other in a ring, and one import against it. -/
def ring : ImportGraph :=
  ⟨[⟨inRoot "a", inRoot "b", {}⟩, ⟨inRoot "b", inRoot "c", {}⟩, ⟨inRoot "c", inRoot "b", {}⟩,
    ⟨inRoot "c", inRoot "a", {}⟩]⟩

theorem shortestCycles_sound_ring :
    ∃ cycle ∈ ring.shortestCycles (inRoot "a") 3,
      cycle.trigger? = some (inRoot "a") ∧ cycle.members.Nodup ∧ 1 ≤ cycle.size ∧ cycle.size ≤ 3 ∧
        ∀ link ∈ cycle.links, ring.hasEdge link.1 link.2 = true := by
  have ab : ring.Imports (inRoot "a") (inRoot "b") := by decide
  have bc : ring.Imports (inRoot "b") (inRoot "c") := by decide
  have ca : ring.Imports (inRoot "c") (inRoot "a") := by decide
  have round : ring.RoundByFirst (inRoot "a") (inRoot "b") [inRoot "a", inRoot "b", inRoot "c"] :=
    ⟨_, rfl, ab, .cons bc (.single ca)⟩
  have within : [inRoot "a", inRoot "b", inRoot "c"].length ≤ 3 := by decide
  obtain ⟨cycle, mem, _⟩ := exists_shortest_byFirst round within
  exact ⟨cycle, mem, (shortestCycles_sound ring (inRoot "a") 3).1 cycle mem⟩

/-- Completeness and minimality of the search for cycles. For each import that some closed walk within
the limit takes first, a shortest closed walk that does so is found, and likewise for each import
that one takes last; every cycle found is shortest in one of the two ways. So something is found
exactly if there is a closed walk within the limit. -/
theorem shortestCycles_complete (graph : ImportGraph) (file : FileId) (depthLimit : Nat) :
    (∀ next walk, graph.RoundByFirst file next walk → walk.length ≤ depthLimit →
      ∃ cycle ∈ graph.shortestCycles file depthLimit,
        (if next = file then cycle.members = [file]
          else ∃ rest, cycle.members = file :: next :: rest) ∧
        Shortest (graph.RoundByFirst file next) cycle.members) ∧
      (∀ last walk, graph.RoundByLast file last walk → walk.length ≤ depthLimit →
        ∃ cycle ∈ graph.shortestCycles file depthLimit, cycle.members.getLast? = some last ∧
          Shortest (graph.RoundByLast file last) cycle.members) ∧
      (∀ cycle ∈ graph.shortestCycles file depthLimit,
        (∃ next, Shortest (graph.RoundByFirst file next) cycle.members) ∨
          ∃ last, Shortest (graph.RoundByLast file last) cycle.members) ∧
      (graph.shortestCycles file depthLimit ≠ [] ↔
        ∃ walk, graph.ClosedWalk file walk ∧ walk.length ≤ depthLimit) := by
  refine ⟨?_, ?_, ?_, shortestCycles_ne_nil_iff⟩
  · intro next walk round within
    exact exists_shortest_byFirst round within
  · intro last walk round within
    exact exists_shortest_byLast round within
  · intro cycle mem
    exact (of_mem_shortestCycles mem).2.2

/-- A walk round the ring that turns back once is enough for the ring itself to be found, by the first
of its imports as well as by the last. -/
theorem shortestCycles_complete_ring :
    (∃ cycle ∈ ring.shortestCycles (inRoot "a") 5,
      (∃ rest, cycle.members = inRoot "a" :: inRoot "b" :: rest) ∧
        Shortest (ring.RoundByFirst (inRoot "a") (inRoot "b")) cycle.members) ∧
      ∃ cycle ∈ ring.shortestCycles (inRoot "a") 5, cycle.members.getLast? = some (inRoot "c") ∧
        Shortest (ring.RoundByLast (inRoot "a") (inRoot "c")) cycle.members := by
  have ab : ring.Imports (inRoot "a") (inRoot "b") := by decide
  have bc : ring.Imports (inRoot "b") (inRoot "c") := by decide
  have cb : ring.Imports (inRoot "c") (inRoot "b") := by decide
  have ca : ring.Imports (inRoot "c") (inRoot "a") := by decide
  have middle : Walk ring.Imports (inRoot "b") [inRoot "b", inRoot "c", inRoot "b"] (inRoot "c") :=
    .cons bc (.cons cb (.single bc))
  constructor
  · obtain ⟨cycle, mem, hop, shortest⟩ := (shortestCycles_complete ring (inRoot "a") 5).1
      (inRoot "b") _ ⟨_, rfl, ab, middle.append (.single ca)⟩ (by decide)
    rw [if_neg (by decide)] at hop
    exact ⟨cycle, mem, hop, shortest⟩
  · exact (shortestCycles_complete ring (inRoot "a") 5).2.1 (inRoot "c") _
      ⟨_, rfl, .cons ab middle, ca⟩ (by decide)

end ImportGraph

end ImportCycles
