import ImportCycles.Proofs.ShortestCycles

/-! # Cycles found from either end of an import

An import is tried from both of its ends: by the file that it leaves, as one of that file's imports,
and by the file that it enters, as one of that file's importers. Both ends have the same mates if
this import is on a cycle at all, and then both make the same search, from the file that is entered
back to the one that is left. So one and the same cycle is found, written once from each end.
-/

namespace ImportCycles

open FileId (inRoot)

namespace ImportGraph

/-- A closed walk that follows the import of `target` by `source`, wherever it starts. -/
def RoundThrough (graph : ImportGraph) (source target : FileId) (members : List FileId) : Prop :=
  (∃ file, graph.ClosedWalk file members) ∧ (source, target) ∈ (Cycle.mk members).links

variable {graph : ImportGraph} {source target file next last : FileId} {members path : List FileId}
  {depthLimit : Nat}

/-- A walk round that follows an import can start with it. -/
theorem RoundThrough.exists_byFirst (round : graph.RoundThrough source target members) :
    ∃ rotated, rotated.length = members.length ∧ graph.RoundByFirst source target rotated := by
  obtain ⟨⟨file, closed⟩, follows⟩ := round
  rw [closed.links_eq] at follows
  obtain ⟨front, back, rfl, walkFront, step, walkBack⟩ := closed.2.split_link follows
  refine ⟨source :: (back ++ front), ?_, back ++ front, rfl, step, walkBack.append walkFront⟩
  simp only [List.length_cons, List.length_append]
  omega

theorem RoundByFirst.through (round : graph.RoundByFirst source target members) :
    graph.RoundThrough source target members := by
  have closed := round.closedWalk
  obtain ⟨rest, rfl, step, walk⟩ := round
  refine ⟨⟨source, closed⟩, ?_⟩
  rw [closed.links_eq]
  exact Walk.mem_zip_of_parts (.nil source) walk

theorem RoundByLast.through (round : graph.RoundByLast target source members) :
    graph.RoundThrough source target members := by
  have closed := round.closedWalk
  obtain ⟨front, rfl, walk, step⟩ := round
  refine ⟨⟨target, closed⟩, ?_⟩
  rw [closed.links_eq]
  exact Walk.mem_zip_of_parts walk (.nil target)

/-- Of all rounds through an import none is shorter than the shortest that starts with it. -/
theorem Shortest.through (shortest : Shortest (graph.RoundByFirst source target) members) :
    Shortest (graph.RoundThrough source target) members := by
  refine ⟨shortest.1.through, ?_⟩
  intro other round
  obtain ⟨rotated, same, byFirst⟩ := round.exists_byFirst
  rw [← same]
  exact shortest.2 rotated byFirst

/-- Connected files have the same mates. -/
theorem Connected.contains_cycleMates {a b : FileId} (connected : graph.Connected a b) :
    (graph.cycleMates a).contains = (graph.cycleMates b).contains := by
  funext x
  rw [Bool.eq_iff_iff, Std.TreeSet.contains_iff_mem, Std.TreeSet.contains_iff_mem, mem_cycleMates,
    mem_cycleMates]
  constructor
  · rintro ⟨there, back⟩
    exact ⟨connected.2.trans there, back.trans_left connected.1⟩
  · rintro ⟨there, back⟩
    exact ⟨connected.1.trans there, back.trans_left connected.2⟩

/-- A closed walk whose second member is another file starts with the import of that file. -/
theorem ClosedWalk.byFirst_of_second (closed : graph.ClosedWalk file members) (apart : file ≠ next)
    (second : members[1]? = some next) : graph.RoundByFirst file next members := by
  obtain ⟨first, round⟩ := closed.roundByFirst
  obtain ⟨rest, rfl, step, walk⟩ := round
  cases walk with
  | nil => simp at second
  | cons _ _ =>
    obtain rfl : first = next := by simpa using second
    exact ⟨_, rfl, step, .cons ‹_› ‹_›⟩

theorem ClosedWalk.byLast_of_getLast? (closed : graph.ClosedWalk file members)
    (isLast : members.getLast? = some last) : graph.RoundByLast file last members := by
  obtain ⟨front, rfl⟩ := List.getLast?_eq_some_iff.1 isLast
  obtain ⟨middle, walk, back⟩ := closed.2.of_append
  cases back with
  | cons step rest =>
    cases rest with
    | nil => exact ⟨front, rfl, walk, step⟩

/-- A walk round that starts with an import, written from the file that is entered. -/
theorem RoundByFirst.byLast (round : graph.RoundByFirst source target ([source, target] ++ path)) :
    graph.RoundByLast target source ([target] ++ path ++ [source]) := by
  obtain ⟨rest, same, step, walk⟩ := round
  obtain rfl : target :: path = rest := (List.cons.inj same).2
  exact ⟨target :: path, rfl, walk, step⟩

/-- Where some walk round within the limit follows an import, both ends find one of the shortest.
They search from the target for the source, and they have the same mates to search among. -/
theorem RoundByFirst.exists_found (round : graph.RoundByFirst source target members)
    (apart : source ≠ target) (within : members.length ≤ depthLimit) :
    ∃ path, ⟨[source, target] ++ path⟩ ∈ graph.shortestCycles source depthLimit ∧
      ⟨[target] ++ path ++ [source]⟩ ∈ graph.shortestCycles target depthLimit ∧
      Shortest (graph.RoundByFirst source target) ([source, target] ++ path) := by
  have closed := round.closedWalk
  have positive : depthLimit ≠ 0 := by
    have := List.length_pos_iff.2 closed.1
    omega
  have step : graph.Imports source target := by
    obtain ⟨_, _, step, _⟩ := round
    exact step
  have mate := closed.mem_cycleMates round.next_mem
  have self := closed.mem_cycleMates closed.head_mem
  obtain ⟨back, fromSource⟩ := round.exists_shortestPath? apart.symm within
  obtain ⟨shortest, -⟩ := Steps.shortestPath?_some mate apart.symm fromSource
  obtain ⟨path, rfl⟩ : ∃ path, back = target :: path := by
    cases shortest.walk with
    | nil => exact absurd rfl apart
    | cons _ _ => exact ⟨_, rfl⟩
  refine ⟨path, ?_, ?_, (shortest_byFirst step shortest).1⟩
  · refine mem_shortestCycles.2 ⟨positive, Std.TreeSet.isEmpty_eq_false_of_contains self, .inl ?_⟩
    exact mem_cyclesByImport.2 ⟨target, step, .inr ⟨apart.symm, mate, _, rfl, fromSource⟩⟩
  · have fromTarget := fromSource
    rw [(closed.connected closed.head_mem round.next_mem).contains_cycleMates] at fromTarget self
    refine mem_shortestCycles.2 ⟨positive, Std.TreeSet.isEmpty_eq_false_of_contains self, .inr ?_⟩
    exact mem_cyclesByImporter.2 ⟨source, step, apart, self, _, rfl, fromTarget⟩

/-- A cycle that is found is within the limit. It goes over the import of its second member by its
first, and over the import of its first member by its last. -/
theorem roundThrough_of_mem_shortestCycles {cycle : Cycle}
    (mem : cycle ∈ graph.shortestCycles file depthLimit) :
    cycle.members.length ≤ depthLimit ∧
      (∀ next, file ≠ next → cycle.members[1]? = some next →
        graph.RoundThrough file next cycle.members) ∧
      ∀ last, cycle.members.getLast? = some last → graph.RoundThrough last file cycle.members := by
  have closed := closedWalk_of_mem_shortestCycles mem
  refine ⟨(of_mem_shortestCycles mem).2.1, ?_, ?_⟩
  · intro next apart second
    exact (closed.byFirst_of_second apart second).through
  · intro last isLast
    exact (closed.byLast_of_getLast? isLast).through

/-- The cycle found for an import does not depend on the end from which it is looked for. If some
closed walk within the limit follows the import, the file it leaves and the file it enters find the
same cycle, each written from itself, and no closed walk through the import is shorter. If there is
none, neither of them finds a cycle that goes over the import. -/
theorem found_from_either_end (graph : ImportGraph) {source target : FileId}
    (apart : source ≠ target) (depthLimit : Nat) :
    ((∃ walk, graph.RoundThrough source target walk ∧ walk.length ≤ depthLimit) →
      ∃ path, ⟨[source, target] ++ path⟩ ∈ graph.shortestCycles source depthLimit ∧
        ⟨[target] ++ path ++ [source]⟩ ∈ graph.shortestCycles target depthLimit ∧
        Shortest (graph.RoundThrough source target) ([source, target] ++ path) ∧
        Shortest (graph.RoundThrough source target) ([target] ++ path ++ [source])) ∧
      ((¬ ∃ walk, graph.RoundThrough source target walk ∧ walk.length ≤ depthLimit) →
        (∀ cycle ∈ graph.shortestCycles source depthLimit, cycle.members[1]? ≠ some target) ∧
        ∀ cycle ∈ graph.shortestCycles target depthLimit,
          cycle.members.getLast? ≠ some source) := by
  constructor
  · rintro ⟨walk, round, within⟩
    obtain ⟨rotated, same, byFirst⟩ := round.exists_byFirst
    rw [← same] at within
    obtain ⟨path, fromSource, fromTarget, shortest⟩ := byFirst.exists_found apart within
    refine ⟨path, fromSource, fromTarget, shortest.through, shortest.1.byLast.through, ?_⟩
    -- the cycle has as many members from either end
    intro other through
    have least := shortest.through.2 other through
    simpa using least
  · intro none
    refine ⟨?_, ?_⟩
    · intro cycle mem second
      obtain ⟨within, byFirst, -⟩ := roundThrough_of_mem_shortestCycles mem
      exact none ⟨_, byFirst target apart second, within⟩
    · intro cycle mem isLast
      obtain ⟨within, -, byLast⟩ := roundThrough_of_mem_shortestCycles mem
      exact none ⟨_, byLast source isLast, within⟩

/-- In the ring the import of `b` by `a` is followed by the round of three files only. -/
theorem found_from_either_end_ring :
    inRoot "a" ≠ inRoot "b" ∧
    (∃ path, ⟨[inRoot "a", inRoot "b"] ++ path⟩ ∈ ring.shortestCycles (inRoot "a") 3 ∧
      ⟨[inRoot "b"] ++ path ++ [inRoot "a"]⟩ ∈ ring.shortestCycles (inRoot "b") 3) ∧
    ∀ cycle ∈ ring.shortestCycles (inRoot "b") 2, cycle.members.getLast? ≠ some (inRoot "a") := by
  have apart : inRoot "a" ≠ inRoot "b" := by decide
  have ab : ring.Imports (inRoot "a") (inRoot "b") := by decide
  have bc : ring.Imports (inRoot "b") (inRoot "c") := by decide
  have ca : ring.Imports (inRoot "c") (inRoot "a") := by decide
  have round : ring.RoundByFirst (inRoot "a") (inRoot "b") [inRoot "a", inRoot "b", inRoot "c"] :=
    ⟨_, rfl, ab, .cons bc (.single ca)⟩
  obtain ⟨path, fromA, fromB, -⟩ := (found_from_either_end ring apart 3).1
    ⟨_, round.through, by decide⟩
  refine ⟨apart, ⟨path, fromA, fromB⟩, ((found_from_either_end ring apart 2).2 ?_).2⟩
  rintro ⟨walk, through, within⟩
  obtain ⟨rotated, same, rest, rfl, -, back⟩ := through.exists_byFirst
  rw [← same, List.length_cons] at within
  exact absurd (back.link_of_short apart.symm (by omega)) (by decide)

end ImportGraph

end ImportCycles
