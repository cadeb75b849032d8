import ImportCycles.Proofs.ShortestCycles

/-! # Depth limits

A limit cuts every search short, and it changes nothing else. A search goes through its levels in
the same way whatever its budget is, so with a smaller budget it gives the same trail or none at
all: none exactly if the trail is longer than the budget allows. Taken over all imports and importers
of a file, the cycles within a limit are those of any larger limit that are short enough, in the same
order.
-/

namespace ImportCycles

namespace Steps

variable {steps : Steps} {start goal : FileId} {allowed : FileId → Bool} {t : Trail}
  {level : List Trail} {seen : FileSet} {length budget wider : Nat}

/-- The trails of the next level are longer by one file. -/
theorem length_of_mem_extendLevel (even : ∀ t ∈ level, t.length = length)
    (mem : t ∈ (steps.extendLevel allowed level ([], seen)).1.reverse) : t.length = length + 1 := by
  rcases of_mem_trails_extendLevel (List.mem_reverse.1 mem) with old | new
  · simp at old
  · obtain ⟨file, trail, next, inLevel, -, -, -, rfl⟩ := new
    rw [List.length_cons, even _ inLevel]

/-- No trail is found that is shorter than those the search starts from. -/
theorem length_le_of_searchLevels (even : ∀ t ∈ level, t.length = length)
    (found : steps.searchLevels goal allowed budget level seen = some t) : length ≤ t.length := by
  induction budget generalizing length level seen with
  | zero => simp [searchLevels] at found
  | succ budget ih =>
    simp only [searchLevels] at found
    split at found
    · rename_i leading here
      obtain rfl := Option.some.inj found
      exact Nat.le_of_eq (even _ (List.mem_of_find?_eq_some here)).symm
    · split at found
      · simp at found
      · have later := ih (fun _ => length_of_mem_extendLevel even) found
        omega

/-- With less budget the search gives the same trail, unless that is too long. The trails of a level
are as long as the steps made so far, so each level takes one step off the budget and puts one file
on the trails. -/
theorem searchLevels_of_le (even : ∀ t ∈ level, t.length = length + 1) (le : budget ≤ wider) :
    steps.searchLevels goal allowed budget level seen =
      (steps.searchLevels goal allowed wider level seen).filter (·.length ≤ length + budget) := by
  induction budget generalizing length level seen wider with
  | zero =>
    symm
    apply Option.filter_eq_none_iff.2
    intro t found
    have long := length_le_of_searchLevels even found
    rw [decide_eq_true_eq]
    omega
  | succ budget ih =>
    obtain ⟨wider, rfl⟩ : ∃ n, wider = n + 1 := ⟨wider - 1, by omega⟩
    simp only [searchLevels]
    split
    · rename_i leading here
      have size := even _ (List.mem_of_find?_eq_some here)
      rw [Option.filter_some, if_pos]
      rw [decide_eq_true_eq]
      omega
    · split
      · rfl
      · rw [ih (fun _ => length_of_mem_extendLevel even) (Nat.le_of_succ_le_succ le)]
        have shift : length + 1 + budget = length + (budget + 1) := by omega
        rw [shift]

/-- The shortest path within a bound is the shortest path at all, if it is within the bound. -/
theorem shortestPath?_of_le (le : budget ≤ wider) :
    steps.shortestPath? start goal allowed budget =
      (steps.shortestPath? start goal allowed wider).filter (·.length ≤ budget) := by
  have even : ∀ t ∈ [[start]], t.length = 0 + 1 := by simp
  unfold shortestPath?
  rw [searchLevels_of_le even le, Option.filter_map]
  simp only [Nat.zero_add, Function.comp_def, List.length_reverse]

end Steps

open FileId (inRoot)

namespace ImportGraph

variable {graph : ImportGraph} {file : FileId} {mates : FileSet} {maxSteps wider : Nat}

/-- A cycle through an import has one member more than the path back. -/
theorem cyclesByImport_of_le (le : maxSteps ≤ wider) :
    graph.cyclesByImport file mates maxSteps =
      (graph.cyclesByImport file mates wider).filter (·.length ≤ maxSteps + 1) := by
  unfold cyclesByImport
  rw [List.filter_filterMap]
  refine List.filterMap_congr fun next _ => ?_
  by_cases same : next = file
  · simp [same, Option.filter_some]
  · by_cases mate : mates.contains next = true
    · rw [if_neg same, if_pos mate, if_neg same, if_pos mate, Steps.shortestPath?_of_le le,
        Option.filter_map]
      simp only [Function.comp_def, List.length_cons, Nat.add_le_add_iff_right]
    · simp [same, mate]

theorem cyclesByImporter_of_le (le : maxSteps ≤ wider) :
    graph.cyclesByImporter file mates maxSteps =
      (graph.cyclesByImporter file mates wider).filter (·.length ≤ maxSteps + 1) := by
  unfold cyclesByImporter
  rw [List.filter_filterMap]
  refine List.filterMap_congr fun importer _ => ?_
  rw [Steps.shortestPath?_of_le le, Option.filter_map]
  simp only [Function.comp_def, List.length_append, List.length_singleton, Nat.add_le_add_iff_right]

/-- The depth limit only leaves out cycles that are too long: what is found within a limit is what is
found within a larger one, less the longer cycles. Neither the paths taken nor their order depend on
the limit. -/
theorem shortestCycles_of_limit_le (graph : ImportGraph) (file : FileId) {limit wider : Nat}
    (le : limit ≤ wider) :
    graph.shortestCycles file limit =
      (graph.shortestCycles file wider).filter (·.size ≤ limit) := by
  rcases Nat.eq_zero_or_pos limit with rfl | positive
  · -- no cycle is empty, so a limit of zero leaves none
    symm
    apply List.filter_eq_nil_iff.2
    intro cycle mem
    have nonempty := List.length_pos_iff.2 (closedWalk_of_mem_shortestCycles mem).1
    rw [decide_eq_true_eq]
    exact Nat.not_le.2 nonempty
  · have limitNonzero : limit ≠ 0 := by omega
    have widerNonzero : wider ≠ 0 := by omega
    have steps : limit - 1 ≤ wider - 1 := by omega
    have within : limit - 1 + 1 = limit := by omega
    simp only [shortestCycles, if_neg limitNonzero, if_neg widerNonzero]
    split
    · rfl
    · rw [cyclesByImport_of_le steps, cyclesByImporter_of_le steps, within, List.filter_map,
        ← List.filter_append, ← Sorted.filter_firstOccurrences, ← Sorted.filter_sortBy]
      · rfl
      · simp only [decide_eq_true_eq, decide_eq_false_iff_not]
        omega
      · simp only [decide_eq_true_eq]
        omega

/-- Two rings that share an import: a short one and one with a detour. -/
def detour : ImportGraph :=
  ⟨[⟨inRoot "a", inRoot "b", {}⟩, ⟨inRoot "b", inRoot "c", {}⟩, ⟨inRoot "c", inRoot "a", {}⟩,
    ⟨inRoot "b", inRoot "a", {}⟩]⟩

theorem shortestCycles_of_limit_le_detour :
    2 ≤ 50 ∧
    detour.shortestCycles (inRoot "a") 50 =
      [⟨[inRoot "a", inRoot "b"]⟩, ⟨[inRoot "a", inRoot "b", inRoot "c"]⟩] ∧
    detour.shortestCycles (inRoot "a") 2 = [⟨[inRoot "a", inRoot "b"]⟩] := by
  have found : detour.shortestCycles (inRoot "a") 50 =
      [⟨[inRoot "a", inRoot "b"]⟩, ⟨[inRoot "a", inRoot "b", inRoot "c"]⟩] := by cbv
  have within : 2 ≤ 50 := by decide
  refine ⟨within, found, ?_⟩
  rw [shortestCycles_of_limit_le detour (inRoot "a") within, found]
  rfl

end ImportGraph

end ImportCycles
