import ImportCycles.Graph.WayBack
import ImportCycles.Proofs.Runs
import ImportCycles.Proofs.ShortestCycles

/-! # The search for a way back answers rightly

Whatever waits is led to from the file, and whatever the file or a visited file imports was visited or
waits. Each round keeps this and takes something away, either an entry of the stack or the imports of
a file that was not visited before, so the search ends in no more rounds than the graph has imports,
and one. It ends with an empty stack only if no way leads back. So a session may ask this question
first and loses nothing: where the answer is no, no search for cycles finds anything, and where it is
yes, a search with a limit of as many imports as there are files does.
-/

namespace ImportCycles

open FileId (inRoot)

namespace WayBack

variable {graph : ImportGraph} {home file : FileId} {search later : WayBack} {found : Bool}

/-- A round answers where nothing waits, and where the file looked for is on top. -/
theorem of_round_answer (ends : search.round graph home = .answer found) :
    search.waiting = [] ∧ found = false ∨ home ∈ search.waiting ∧ found = true := by
  obtain ⟨waiting, visited⟩ := search
  cases waiting with
  | nil => exact .inl ⟨rfl, (Round.answer.inj ends).symm⟩
  | cons file rest =>
    simp only [round] at ends
    split at ends
    · rename_i here
      exact .inr ⟨by simp [here], (Round.answer.inj ends).symm⟩
    · split at ends
      · cases ends
      · cases ends

/-- A round that goes on has taken another file than the one looked for off the stack. -/
theorem of_round_next (goes : search.round graph home = .next later) :
    ∃ file rest, search.waiting = file :: rest ∧ file ≠ home ∧
      (file ∈ search.visited ∧ later = ⟨rest, search.visited⟩ ∨
        file ∉ search.visited ∧ later = visit graph file rest search.visited) := by
  obtain ⟨waiting, visited⟩ := search
  cases waiting with
  | nil => cases goes
  | cons file rest =>
    simp only [round] at goes
    split at goes
    · cases goes
    · rename_i elsewhere
      refine ⟨file, rest, rfl, elsewhere, ?_⟩
      simp only [← Std.TreeSet.contains_iff_mem]
      split at goes
      · rename_i old
        exact .inl ⟨old, (Round.next.inj goes).symm⟩
      · rename_i new
        exact .inr ⟨new, (Round.next.inj goes).symm⟩

theorem mem_waiting_visit {x : FileId} {rest : List FileId} {visited : FileSet} :
    x ∈ (visit graph file rest visited).waiting ↔
      graph.Imports file x ∧ x ∉ visited.insert file ∨ x ∈ rest := by
  simp only [visit, List.mem_append, List.mem_reverse, List.mem_filter,
    ← ImportGraph.imports_iff_mem_targets, Bool.not_eq_true', ← Bool.not_eq_true,
    Std.TreeSet.contains_iff_mem]

/-! ### The answer -/

/-- What holds as long as no way back was found. -/
structure Underway (graph : ImportGraph) (home : FileId) (search : WayBack) : Prop where
  led : ∀ x ∈ search.waiting, Relation.TransGen graph.Imports home x
  away : home ∉ search.visited
  pending : ∀ a b, a = home ∨ a ∈ search.visited → graph.Imports a b →
    b ∈ search.visited ∨ b ∈ search.waiting

theorem underway_start (graph : ImportGraph) (home : FileId) :
    Underway graph home (start graph home) where
  led := by
    intro x mem
    rw [start, List.mem_reverse, ← ImportGraph.imports_iff_mem_targets] at mem
    exact .single mem
  away := by simp [start]
  pending := by
    intro a b before step
    have atHome : a = home := by simpa [start] using before
    rw [atHome, ImportGraph.imports_iff_mem_targets] at step
    exact .inr (List.mem_reverse.2 step)

/-- A round keeps to what holds. -/
theorem Underway.next (underway : Underway graph home search)
    (goes : search.round graph home = .next later) : Underway graph home later := by
  obtain ⟨file, rest, top, elsewhere, outcome⟩ := of_round_next goes
  obtain ⟨led, away, pending⟩ := underway
  rw [top] at led pending
  have here := led file (by simp)
  have onward : ∀ x ∈ rest, Relation.TransGen graph.Imports home x :=
    fun x mem => led x (List.mem_cons_of_mem _ mem)
  rcases outcome with ⟨old, rfl⟩ | ⟨new, rfl⟩
  · refine ⟨onward, away, ?_⟩
    intro a b before step
    rcases pending a b before step with visited | waits
    · exact .inl visited
    · rcases List.mem_cons.1 waits with rfl | waits
      · exact .inl old
      · exact .inr waits
  · refine ⟨?_, ?_, ?_⟩
    · intro x mem
      rcases mem_waiting_visit.1 mem with ⟨step, _⟩ | mem
      · exact here.tail step
      · exact onward x mem
    · intro mem
      exact (FileSet.mem_insert.1 mem).elim elsewhere.symm away
    · intro a b before step
      by_cases known : b ∈ search.visited.insert file
      · exact .inl known
      · refine .inr (mem_waiting_visit.2 ?_)
        have before : a = file ∨ a = home ∨ a ∈ search.visited := by
          rwa [or_left_comm, ← FileSet.mem_insert]
        rcases before with rfl | before
        · exact .inl ⟨step, known⟩
        · rw [FileSet.mem_insert, not_or] at known
          rcases pending a b before step with visited | waits
          · exact absurd visited known.2
          · exact .inr ((List.mem_cons.1 waits).resolve_left known.1)

/-- If a round answers, the answer is right. -/
theorem Underway.answer (underway : Underway graph home search)
    (ends : search.round graph home = .answer found) : found = graph.isOnCycle home := by
  rcases of_round_answer ends with ⟨nothing, rfl⟩ | ⟨waits, rfl⟩
  · symm
    rw [← Bool.not_eq_true, ImportGraph.isOnCycle_iff]
    intro back
    -- Everything that `home` leads to was visited, and `home` was not.
    have reached : ∀ x, Relation.TransGen graph.Imports home x → x ∈ search.visited := by
      intro x leads
      induction leads with
      | single step => simpa [nothing] using underway.pending _ _ (.inl rfl) step
      | tail _ step ih => simpa [nothing] using underway.pending _ _ (.inr ih) step
    exact underway.away (reached home back)
  · exact (ImportGraph.isOnCycle_iff.2 (underway.led home waits)).symm

/-! ### The number of rounds -/

/-- How many imports no round has followed yet: those of files that are neither `home` nor visited. -/
def unfollowed (home : FileId) (visited : FileSet) (edges : List Edge) : Nat :=
  edges.countP fun edge => !(edge.source == home) && !visited.contains edge.source

/-- How many rounds can go on from here. -/
def left (graph : ImportGraph) (home : FileId) (search : WayBack) : Nat :=
  search.waiting.length + unfollowed home search.visited graph.edges

/-- At first the imports of `home` wait, and no others were followed. -/
theorem left_start (graph : ImportGraph) (home : FileId) :
    left graph home (start graph home) = graph.size := by
  have others : unfollowed home ∅ graph.edges =
      graph.edges.countP fun edge => ¬ decide (edge.source = home) = true := by
    refine List.countP_congr ?_
    intro edge _
    simp
  simp only [left, start, others, ImportGraph.targets, ImportGraph.edgesFrom, ImportGraph.size,
    List.length_reverse, List.length_map, ← List.countP_eq_length_filter]
  exact (List.length_eq_countP_add_countP _).symm

/-- Visiting a new file follows all its imports. -/
theorem unfollowed_insert {visited : FileSet} (elsewhere : file ≠ home) (new : file ∉ visited)
    (edges : List Edge) :
    unfollowed home (visited.insert file) edges + (edges.filter (·.source = file)).length =
      unfollowed home visited edges := by
  rw [← Std.TreeSet.contains_iff_mem, Bool.not_eq_true] at new
  induction edges with
  | nil => rfl
  | cons edge rest ih =>
    simp only [unfollowed, List.countP_cons, List.filter_cons, decide_eq_true_eq] at ih ⊢
    by_cases here : edge.source = file
    · simp only [here, Std.TreeSet.contains_insert_self, new, beq_eq_false_iff_ne.2 elsewhere,
        if_true, List.length_cons, Bool.not_true, Bool.not_false, Bool.and_false, Bool.and_true,
        Bool.false_eq_true, if_false]
      omega
    · have keep : (visited.insert file).contains edge.source = visited.contains edge.source := by
        simp [Std.TreeSet.contains_insert, Ne.symm here]
      rw [keep, if_neg here]
      omega

theorem length_waiting_visit_le (graph : ImportGraph) (file : FileId) (rest : List FileId)
    (visited : FileSet) :
    (visit graph file rest visited).waiting.length ≤
      (graph.edges.filter (·.source = file)).length + rest.length := by
  rw [visit, List.length_append, List.length_reverse, Nat.add_le_add_iff_right]
  refine (List.length_filter_le _ _).trans_eq ?_
  rw [ImportGraph.targets, List.length_map, ImportGraph.edgesFrom]

/-- After a round fewer can go on. -/
theorem left_next_lt (goes : search.round graph home = .next later) :
    left graph home later < left graph home search := by
  obtain ⟨file, rest, top, elsewhere, outcome⟩ := of_round_next goes
  simp only [left, top, List.length_cons]
  rcases outcome with ⟨_, rfl⟩ | ⟨new, rfl⟩
  · exact Nat.add_lt_add_right (Nat.lt_succ_self _) _
  · have follows := unfollowed_insert elsewhere new graph.edges
    have fewer := length_waiting_visit_le graph file rest search.visited
    have visits : (visit graph file rest search.visited).visited = search.visited.insert file := rfl
    rw [visits]
    omega

/-- The search ends as soon as no round can go on, and its answer is right. -/
theorem Underway.answer?_eq (underway : Underway graph home search) {rounds : Nat}
    (enough : left graph home search < rounds) :
    answer? graph home rounds search = some (graph.isOnCycle home) := by
  induction rounds generalizing search with
  | zero => omega
  | succ rounds ih =>
    cases outcome : search.round graph home with
    | answer found =>
      simp only [answer?, outcome]
      rw [underway.answer outcome]
    | next later =>
      have fewer := left_next_lt outcome
      simp only [answer?, outcome]
      exact ih (underway.next outcome) (by omega)

end WayBack

namespace ImportGraph

variable {graph : ImportGraph} {file : FileId} {depthLimit : Nat}

theorem isOnCycle_iff_exists_closedWalk :
    graph.isOnCycle file = true ↔ ∃ walk, graph.ClosedWalk file walk := by
  constructor
  · intro onCycle
    obtain ⟨next, step, back⟩ := Relation.TransGen.head'_iff.1 (isOnCycle_iff.1 onCycle)
    obtain ⟨rest, walk⟩ := Walk.exists_of_reaches back
    exact ⟨file :: rest, by simp, .cons step walk⟩
  · rintro ⟨walk, closed⟩
    exact closed.isOnCycle

/-- Where a way leads back a simple one is found, and it has room in as many imports as there are
files. -/
theorem shortestCycles_ne_nil_of_isOnCycle (onCycle : graph.isOnCycle file = true)
    (enough : graph.files.length ≤ depthLimit) : graph.shortestCycles file depthLimit ≠ [] := by
  obtain ⟨walk, closed⟩ := isOnCycle_iff_exists_closedWalk.1 onCycle
  have found := shortestCycles_ne_nil_iff.2 ⟨walk, closed, Nat.le_refl walk.length⟩
  obtain ⟨cycle, mem⟩ := List.exists_mem_of_ne_nil _ found
  have round := closedWalk_of_mem_shortestCycles mem
  have within := round.length_le_files (of_mem_shortestCycles mem).1
  exact shortestCycles_ne_nil_iff.2 ⟨cycle.members, round, within.trans enough⟩

end ImportGraph

/-- A check that looks for cycles without asking first whether there is a way back. -/
def Session.checkAtOnce (session : Session) (file : FileId) : List Cycle × Session :=
  let cycles := session.graph.shortestCycles file session.depthLimit
  let (fresh, reported) := session.reported.select cycles
  (fresh, { session with reported })

/-- The question whether a file leads back to itself is answered exactly. The search ends in one round
more than there are imports, and finds a way back if and only if there is a closed walk from the file.
If there is none, no cycle is found with any limit; if there is one, some cycle is found with a limit
of as many imports as there are files or more. So the cycles through a file, and what a check returns
and leaves behind, are the same as if the question was never asked. -/
theorem way_back_exact (graph : ImportGraph) (file : FileId) :
    WayBack.answer? graph file (graph.size + 1) (.start graph file) =
        some (graph.isOnCycle file) ∧
      (graph.isOnCycle file = true ↔ ∃ walk, graph.ClosedWalk file walk) ∧
      (graph.isOnCycle file = false → ∀ depthLimit, graph.shortestCycles file depthLimit = []) ∧
      (graph.isOnCycle file = true → ∀ depthLimit, graph.files.length ≤ depthLimit →
        graph.shortestCycles file depthLimit ≠ []) ∧
      ∀ session : Session, session.graph = graph →
        session.cyclesAt file = graph.shortestCycles file session.depthLimit ∧
          session.check file = session.checkAtOnce file := by
  refine ⟨?_, ImportGraph.isOnCycle_iff_exists_closedWalk, ImportGraph.shortestCycles_eq_nil, ?_, ?_⟩
  · refine (WayBack.underway_start graph file).answer?_eq ?_
    rw [WayBack.left_start]
    exact Nat.lt_succ_self _
  · intro onCycle depthLimit enough
    exact ImportGraph.shortestCycles_ne_nil_of_isOnCycle onCycle enough
  · rintro session rfl
    have found := session.cyclesAt_eq_shortestCycles file
    refine ⟨found, ?_⟩
    rw [Session.check, found, Session.checkAtOnce]

/-- A file that leads to a ring and is not in it. -/
def sideRing : ImportGraph :=
  ⟨[⟨inRoot "a", inRoot "b", {}⟩, ⟨inRoot "b", inRoot "c", {}⟩, ⟨inRoot "c", inRoot "b", {}⟩]⟩

theorem way_back_exact_sideRing :
    (sideRing.isOnCycle (inRoot "a") = false ∧
      ∀ depthLimit, sideRing.shortestCycles (inRoot "a") depthLimit = []) ∧
      sideRing.isOnCycle (inRoot "b") = true ∧ sideRing.files.length ≤ 3 ∧
      sideRing.shortestCycles (inRoot "b") 3 ≠ [] ∧
      ∃ session : Session, session.graph = sideRing ∧
        session.check (inRoot "b") = session.checkAtOnce (inRoot "b") := by
  have outside : sideRing.isOnCycle (inRoot "a") = false := by cbv
  have inside : sideRing.isOnCycle (inRoot "b") = true := by cbv
  have few : sideRing.files.length ≤ 3 := by decide
  obtain ⟨-, -, -, found, alike⟩ := way_back_exact sideRing (inRoot "b")
  exact ⟨⟨outside, (way_back_exact sideRing (inRoot "a")).2.2.1 outside⟩, inside, few,
    found inside 3 few, { graph := sideRing }, rfl, (alike _ rfl).2⟩

end ImportCycles
