import ImportCycles.Cycle.PathSearch
import ImportCycles.Proofs.CycleMates
import ImportCycles.Proofs.FirstPaths
import ImportCycles.Proofs.PrunedSearch

/-! # The queue goes through the levels

The queue of a search holds what is left of one level, and behind it what has been found of the
next. So it goes through the trails of the search by levels in the same order, and a trail can be
read off the parents by climbing from its newest file: a file gets its parent when it is seen for
the first time, and never another one. Each file joins the queue once, and a climb goes through each
file once.
-/

namespace ImportCycles

open FileId (inRoot)

theorem ImportGraph.mem_map_target {graph : ImportGraph} {source target : FileId}
    (step : graph.Imports source target) : target ∈ graph.edges.map (·.target) := by
  obtain ⟨edge, mem, -, isTarget⟩ := imports_iff_mem_edges.1 step
  exact List.mem_map.2 ⟨edge, mem, isTarget⟩

namespace SearchTree

variable {tree : SearchTree} {parents : Std.TreeMap FileId FileId} {graph : ImportGraph}
  {goal file parent next : FileId} {allowed : FileId → Bool} {distance maxSteps : Nat}
  {nexts : List FileId} {t : Trail} {todo : List Trail} {found : List Trail × FileSet}

/-- Climbing from the newest file of a trail goes through the trail, and ends where it started. -/
def Climbs (parents : Std.TreeMap FileId FileId) : Trail → Prop
  | [] => False
  | [file] => parents[file]? = none
  | file :: parent :: trail => parents[file]? = some parent ∧ Climbs parents (parent :: trail)

theorem Climbs.exists_cons (climbs : Climbs parents t) : ∃ file before, t = file :: before := by
  cases t with
  | nil => exact climbs.elim
  | cons file before => exact ⟨file, before, rfl⟩

/-- A file that is not on the trail may get a parent. -/
theorem Climbs.insert (climbs : Climbs parents t) (out : next ∉ t) (file : FileId) :
    Climbs (parents.insert next file) t := by
  induction t with
  | nil => exact climbs
  | cons x t ih =>
    simp only [List.mem_cons, not_or] at out
    have keep : (parents.insert next file)[x]? = parents[x]? := by
      simp [Std.TreeMap.getElem?_insert, out.1]
    cases t with
    | nil => exact keep.trans climbs
    | cons y t => exact ⟨keep.trans climbs.1, ih climbs.2 out.2⟩

/-- The tree has a trail: it can be climbed, and its files were seen. -/
structure Carries (tree : SearchTree) (t : Trail) : Prop where
  climbs : Climbs tree.parents t
  known : ∀ x ∈ t, x ∈ tree.seen

theorem Carries.join (carries : tree.Carries t) (new : next ∉ tree.seen) (file : FileId)
    (distance : Nat) : (tree.join file next distance).Carries t where
  climbs := carries.climbs.insert (fun mem => new (carries.known next mem)) file
  known x mem := FileSet.mem_insert.2 (.inr (carries.known x mem))

/-- With a file that joins the queue the tree has one more trail. -/
theorem Carries.extend {before : Trail} (carries : tree.Carries (file :: before))
    (new : next ∉ tree.seen) (distance : Nat) :
    (tree.join file next distance).Carries (next :: file :: before) := by
  obtain ⟨climbs, known⟩ := carries.join new file distance
  refine ⟨⟨Std.TreeMap.getElem?_insert_self, climbs⟩, ?_⟩
  intro x mem
  rcases List.mem_cons.1 mem with rfl | mem
  · exact FileSet.mem_insert.2 (.inl rfl)
  · exact known x mem

theorem unseen_of_new (new : (allowed next && !tree.seen.contains next) = true) :
    next ∉ tree.seen := by
  simp only [Bool.and_eq_true, Bool.not_eq_true', ← Bool.not_eq_true,
    Std.TreeSet.contains_iff_mem] at new
  exact new.2

/-- Looking through imports meets the goal if it is among them. -/
theorem look_fst (tree : SearchTree) (goal : FileId) (allowed : FileId → Bool) (file : FileId)
    (distance : Nat) (nexts : List FileId) :
    (tree.look goal allowed file distance nexts).1 = nexts.contains goal := by
  induction nexts generalizing tree with
  | nil => rfl
  | cons next rest ih =>
    simp only [look, List.contains_cons]
    by_cases here : next = goal
    · simp [here]
    · rw [if_neg here, beq_eq_false_iff_ne.2 (Ne.symm here), Bool.false_or]
      split <;> exact ih _

theorem Carries.look (carries : tree.Carries t) (goal : FileId) (allowed : FileId → Bool)
    (file : FileId) (distance : Nat) (nexts : List FileId) :
    (tree.look goal allowed file distance nexts).2.Carries t := by
  induction nexts generalizing tree with
  | nil => exact carries
  | cons next rest ih =>
    simp only [SearchTree.look]
    split
    · exact carries
    · split
      · rename_i new
        exact ih (carries.join (unseen_of_new new) file _)
      · exact ih carries

/-- The entries of a queue for the newest files of trails. -/
def places (distance : Nat) (trails : List Trail) : List (FileId × Nat) :=
  trails.filterMap fun t => t.head?.map fun file => (file, distance)

/-- The tree stands for a search by levels that has the trails of `todo` still to extend, and has
found the new trails and the files seen in `found`. -/
structure StandsFor (tree : SearchTree) (distance : Nat) (todo : List Trail)
    (found : List Trail × FileSet) : Prop where
  queue : tree.queue = places distance todo ++ places (distance + 1) found.1.reverse
  seen : tree.seen = found.2
  carries : ∀ t, t ∈ todo ∨ t ∈ found.1 → tree.Carries t

/-- With a level done the next one is begun. -/
theorem StandsFor.turn (stands : tree.StandsFor distance [] found) :
    tree.StandsFor (distance + 1) found.1.reverse ([], found.2) where
  queue := by simpa [places] using stands.queue
  seen := stands.seen
  carries t mem := stands.carries t (by simpa using mem)

/-- The newest file of the first trail is in front. -/
theorem StandsFor.dequeue {before : Trail}
    (stands : tree.StandsFor distance ((file :: before) :: todo) found) :
    ∃ queue, tree.queue = (file, distance) :: queue ∧
      SearchTree.StandsFor { tree with queue } distance todo found ∧
      SearchTree.Carries { tree with queue } (file :: before) := by
  refine ⟨_, stands.queue, ⟨rfl, stands.seen, ?_⟩, ?_⟩
  · intro t mem
    obtain ⟨climbs, known⟩ := stands.carries t (mem.imp_left (List.mem_cons_of_mem _))
    exact ⟨climbs, known⟩
  · obtain ⟨climbs, known⟩ := stands.carries (file :: before) (.inl (by simp))
    exact ⟨climbs, known⟩

theorem StandsFor.join {before : Trail} {trails : List Trail} {seen : FileSet}
    (stands : tree.StandsFor distance todo (trails, seen)) (carries : tree.Carries (file :: before))
    (new : next ∉ tree.seen) :
    (tree.join file next (distance + 1)).StandsFor distance todo
      ((next :: file :: before) :: trails, seen.insert next) where
  queue := by simp [SearchTree.join, stands.queue, places]
  seen := congrArg (·.insert next) stands.seen
  carries := by
    intro t mem
    rcases mem with mem | mem
    · exact (stands.carries t (.inl mem)).join new _ _
    · rcases List.mem_cons.1 mem with rfl | mem
      · exact carries.extend new _
      · exact (stands.carries t (.inr mem)).join new _ _

/-- Looking through imports without the goal extends the trail. -/
theorem StandsFor.look {before : Trail} (stands : tree.StandsFor distance todo found)
    (carries : tree.Carries (file :: before)) (misses : goal ∉ nexts) (allowed : FileId → Bool) :
    (tree.look goal allowed file distance nexts).2.StandsFor distance todo
      (Steps.extend allowed (file :: before) nexts found) := by
  induction nexts generalizing tree found with
  | nil => exact stands
  | cons next rest ih =>
    obtain ⟨trails, seen⟩ := found
    simp only [List.mem_cons, not_or] at misses
    have same : tree.seen = seen := stands.seen
    simp only [SearchTree.look, Steps.extend, if_neg (Ne.symm misses.1), ← same]
    split
    · rename_i new
      have unseen := unseen_of_new new
      rw [same]
      exact ih (stands.join carries unseen) (carries.join unseen file _) misses.2
    · rw [same]
      exact ih stands carries misses.2

/-! ### The number of rounds -/

/-- How many rounds can go on before the goal is met. -/
def pending (graph : ImportGraph) (tree : SearchTree) : Nat :=
  tree.queue.length + Steps.unvisited tree.seen (graph.edges.map (·.target))

theorem pending_look_le (tree : SearchTree) (goal : FileId) (allowed : FileId → Bool)
    (file : FileId) (distance : Nat) (imported : ∀ x ∈ nexts, x ∈ graph.edges.map (·.target)) :
    pending graph (tree.look goal allowed file distance nexts).2 ≤ pending graph tree := by
  induction nexts generalizing tree with
  | nil => exact Nat.le_refl _
  | cons next rest ih =>
    have later : ∀ x ∈ rest, x ∈ graph.edges.map (·.target) :=
      fun x mem => imported x (List.mem_cons_of_mem _ mem)
    simp only [SearchTree.look]
    split
    · exact Nat.le_refl _
    · split
      · rename_i new
        refine (ih _ later).trans ?_
        have unseen : tree.seen.contains next = false :=
          Bool.eq_false_iff.2 (mt Std.TreeSet.contains_iff_mem.1 (unseen_of_new new))
        have fewer := Steps.unvisited_insert_lt (imported next (by simp)) unseen
        simp only [pending, SearchTree.join, List.length_append, List.length_singleton]
        omega
      · exact ih tree later

end SearchTree

open SearchTree (StandsFor Climbs pending places)

/-- What the search by levels gives from the middle of a level on. -/
def Steps.outcome (steps : Steps) (goal : FileId) (allowed : FileId → Bool)
    (maxSteps distance : Nat) (todo : List Trail) (found : List Trail × FileSet) : Option Trail :=
  if distance < maxSteps then
    (todo.find? (steps.leadsTo goal)).or
      (steps.searchLevels goal allowed (maxSteps - (distance + 1))
        (steps.extendLevel allowed todo found).1.reverse (steps.extendLevel allowed todo found).2)
  else none

theorem Steps.outcome_level (steps : Steps) (goal : FileId) (allowed : FileId → Bool)
    (maxSteps distance : Nat) (level : List Trail) (seen : FileSet) :
    steps.outcome goal allowed maxSteps distance level ([], seen) =
      steps.searchLevels goal allowed (maxSteps - distance) level seen := by
  unfold outcome
  split
  · obtain ⟨budget, rfl⟩ : ∃ n, maxSteps = distance + 1 + n :=
      ⟨maxSteps - (distance + 1), by omega⟩
    have left : distance + 1 + budget - distance = budget + 1 := by omega
    rw [left, Nat.add_sub_cancel_left, searchLevels_succ]
  · have left : maxSteps - distance = 0 := by omega
    rw [left, searchLevels]

/-- With a level done the search by levels goes on with the next one. -/
theorem Steps.outcome_nil (steps : Steps) (goal : FileId) (allowed : FileId → Bool)
    (maxSteps distance : Nat) (found : List Trail × FileSet) :
    steps.outcome goal allowed maxSteps distance [] found =
      steps.outcome goal allowed maxSteps (distance + 1) found.1.reverse ([], found.2) := by
  rw [outcome_level, outcome]
  split
  · rfl
  · have left : maxSteps - (distance + 1) = 0 := by omega
    rw [left, searchLevels]

namespace PathSearch

variable {graph : ImportGraph} {goal file : FileId} {allowed : FileId → Bool} {tree : SearchTree}
  {parents : Std.TreeMap FileId FileId} {distance maxSteps rounds : Nat} {t : Trail}
  {todo : List Trail} {found : List Trail × FileSet} {search later : PathSearch}

theorem answer?_next (goes : search.round graph goal allowed maxSteps = .next later) :
    answer? graph goal allowed maxSteps (rounds + 1) search =
      answer? graph goal allowed maxSteps rounds later := by
  rw [answer?, goes]

/-- A climb takes one round for each file of the trail. -/
theorem answer?_climbing {before : Trail} (climbs : Climbs parents (file :: before))
    (enough : before.length < rounds) (path : List FileId) :
    answer? graph goal allowed maxSteps rounds (.climbing parents file path) =
      some (some ((file :: before).reverse ++ path)) := by
  induction before generalizing file path rounds with
  | nil =>
    obtain ⟨rounds, rfl⟩ := Nat.exists_eq_succ_of_ne_zero (Nat.ne_of_gt enough)
    have top : parents[file]? = none := climbs
    simp only [answer?, round, top]
    rfl
  | cons parent before ih =>
    obtain ⟨rounds, rfl⟩ := Nat.exists_eq_succ_of_ne_zero (Nat.ne_of_gt (Nat.zero_lt_of_lt enough))
    obtain ⟨up, climbs⟩ := climbs
    have goes : round graph goal allowed maxSteps (.climbing parents file path) =
        .next (.climbing parents parent (file :: path)) := by
      simp only [round, up]
    rw [answer?_next goes, ih climbs (Nat.lt_of_succ_lt_succ enough)]
    simp

/-- A round with a trail still to extend climbs it if it leads to the goal, and goes on with the
others if not. -/
theorem round_underway {before : Trail}
    (stands : tree.StandsFor distance ((file :: before) :: todo) found) :
    (∃ parents, Climbs parents (file :: before) ∧
      graph.outgoing.outcome goal allowed maxSteps distance ((file :: before) :: todo) found =
        some (file :: before) ∧
      round graph goal allowed maxSteps (.underway tree) = .next (.climbing parents file [])) ∨
    ∃ later rest, round graph goal allowed maxSteps (.underway tree) = .next (.underway later) ∧
      later.StandsFor distance todo rest ∧ pending graph later < pending graph tree ∧
      graph.outgoing.outcome goal allowed maxSteps distance ((file :: before) :: todo) found =
        graph.outgoing.outcome goal allowed maxSteps distance todo rest := by
  obtain ⟨queue, isQueue, stands, carries⟩ := stands.dequeue
  have fewer : pending graph { tree with queue } < pending graph tree := by
    simp only [pending, isQueue, List.length_cons]
    omega
  by_cases far : maxSteps ≤ distance
  · refine .inr ⟨{ tree with queue }, found, ?_, stands, fewer, ?_⟩
    · simp only [round, isQueue, if_pos far]
    · rw [Steps.outcome, Steps.outcome, if_neg (by omega), if_neg (by omega)]
  · have near : distance < maxSteps := Nat.lt_of_not_le far
    have leads : graph.outgoing.leadsTo goal (file :: before) =
        (graph.targets file).contains goal := by
      rw [Steps.leadsTo, ImportGraph.next_outgoing]
    have looked := SearchTree.look_fst { tree with queue } goal allowed file distance
      (graph.targets file)
    cases look : SearchTree.look goal allowed file distance (graph.targets file)
      { tree with queue } with
    | mk met later =>
      rw [look] at looked
      cases met with
      | true =>
        have climbs := (carries.look goal allowed file distance (graph.targets file)).climbs
        rw [look] at climbs
        refine .inl ⟨later.parents, climbs, ?_, ?_⟩
        · rw [Steps.outcome, if_pos near, List.find?_cons_of_pos (leads.trans looked.symm),
            Option.some_or]
        · simp only [round, isQueue, if_neg far, look]
      | false =>
        have misses : goal ∉ graph.targets file := by simpa using looked.symm
        have extended := stands.look carries misses allowed
        have imported : ∀ x ∈ graph.targets file, x ∈ graph.edges.map (·.target) := by
          intro x mem
          exact ImportGraph.mem_map_target (ImportGraph.imports_iff_mem_targets.2 mem)
        have noMore := SearchTree.pending_look_le { tree with queue } goal allowed file distance
          imported
        rw [look] at extended noMore
        refine .inr ⟨later, _, ?_, extended, noMore.trans_lt fewer, ?_⟩
        · simp only [round, isQueue, if_neg far, look]
        · rw [Steps.outcome, Steps.outcome, if_pos near, if_pos near,
            List.find?_cons_of_neg (by simpa [leads] using misses), Steps.extendLevel,
            ImportGraph.next_outgoing]

/-- The search ends as soon as no round can go on, with what the search by levels gives. -/
theorem answer?_underway (stands : tree.StandsFor distance todo found) (budget : Nat)
    (short : ∀ t, graph.outgoing.outcome goal allowed maxSteps distance todo found = some t →
      t.length ≤ budget)
    (enough : pending graph tree + budget < rounds) :
    answer? graph goal allowed maxSteps rounds (.underway tree) =
      some ((graph.outgoing.outcome goal allowed maxSteps distance todo found).map
        List.reverse) := by
  induction rounds generalizing tree distance todo found with
  | zero => omega
  | succ rounds ih =>
    have onward : ∀ {distance t todo found}, tree.StandsFor distance (t :: todo) found →
        (∀ t', graph.outgoing.outcome goal allowed maxSteps distance (t :: todo) found = some t' →
          t'.length ≤ budget) →
        answer? graph goal allowed maxSteps (rounds + 1) (.underway tree) =
          some ((graph.outgoing.outcome goal allowed maxSteps distance (t :: todo) found).map
            List.reverse) := by
      intro distance t todo found stands short
      obtain ⟨file, before, rfl⟩ := (stands.carries t (.inl (by simp))).climbs.exists_cons
      rcases round_underway stands with ⟨parents, climbs, outcome, goes⟩ |
        ⟨later, rest, goes, stands, fewer, outcome⟩
      · have size := short _ outcome
        rw [List.length_cons] at size
        rw [answer?_next goes, answer?_climbing climbs (by omega), outcome, List.append_nil,
          Option.map_some]
      · rw [outcome] at short ⊢
        rw [answer?_next goes]
        exact ih stands short (by omega)
    cases todo with
    | cons t todo => exact onward stands short
    | nil =>
      have turned := stands.turn
      rw [Steps.outcome_nil] at short ⊢
      cases level : found.1.reverse with
      | cons t todo =>
        rw [level] at turned short
        exact onward turned short
      | nil =>
        have empty : tree.queue = [] := by simpa [level, places] using turned.queue
        rw [Steps.outcome_level, Steps.searchLevels_nil]
        simp only [answer?, round, empty]
        rfl

end PathSearch

namespace ImportGraph

variable {graph : ImportGraph} {start goal : FileId} {allowed : FileId → Bool} {length : Nat}
  {t : Trail}

/-- All files of a walk but the first are imported by some file. -/
theorem mem_targets_of_walk {way : List FileId} {last x : FileId}
    (walk : Walk graph.Imports start way last) (mem : x ∈ last :: way) :
    x = start ∨ x ∈ graph.edges.map (·.target) := by
  induction walk with
  | nil a => exact .inl (List.mem_singleton.1 mem)
  | @cons a b last way step _ ih =>
    rw [List.mem_cons, List.mem_cons, or_left_comm, ← List.mem_cons] at mem
    rcases mem with rfl | mem
    · exact .inl rfl
    · rcases ih mem with rfl | isTarget
      · exact .inr (mem_map_target step)
      · exact .inr isTarget

/-- A trail has no more files than there are imports, and one. -/
theorem length_le_of_isTrail (trail : graph.outgoing.IsTrail start goal allowed length t) :
    t.length ≤ graph.size + 1 := by
  obtain ⟨newest, before, rfl, walk⟩ := trail.walk
  rw [leads_outgoing] at walk
  have subset : newest :: before ⊆ start :: graph.edges.map (·.target) := by
    intro x mem
    refine List.mem_cons.2 (mem_targets_of_walk walk ?_)
    simpa using mem
  have le := (trail.nodup.subperm subset).length_le
  simpa [size] using le

/-- A way from `start` to `goal`, written without `goal`, that leaves allowed files only. -/
def IsWay (graph : ImportGraph) (allowed : FileId → Bool) (start goal : FileId)
    (way : List FileId) : Prop :=
  Walk graph.Imports start way goal ∧ ∀ x ∈ way, allowed x = true

end ImportGraph

/-- With a queue the search gives what it gives by levels, in two rounds for each import and three
more. -/
theorem PathSearch.answer?_start (graph : ImportGraph) {start goal : FileId}
    (allowed : FileId → Bool) (maxSteps : Nat) (apart : start ≠ goal) (can : allowed start = true) :
    answer? graph goal allowed maxSteps (2 * graph.size + 3) (.start start) =
      some (graph.outgoing.shortestPath? start goal allowed maxSteps) := by
  have stands : StandsFor ⟨[(start, 0)], (∅ : FileSet).insert start, ∅⟩ 0 [[start]]
      ([], (∅ : FileSet).insert start) := by
    refine ⟨rfl, rfl, ?_⟩
    intro t mem
    obtain rfl : t = [start] := by simpa using mem
    exact ⟨Std.TreeMap.getElem?_emptyc, by simp⟩
  have levels := graph.outgoing.outcome_level goal allowed maxSteps 0 [[start]]
    ((∅ : FileSet).insert start)
  rw [Nat.sub_zero] at levels
  have fewer := Steps.unvisited_le ((∅ : FileSet).insert start) (graph.edges.map (·.target))
  rw [List.length_map] at fewer
  refine (answer?_underway stands (graph.size + 1) ?_ ?_).trans ?_
  · intro t found
    rw [levels] at found
    obtain ⟨-, ⟨_, trail⟩, -⟩ := Steps.searchLevels_some (Steps.frontier_start can apart) found
    exact ImportGraph.length_le_of_isTrail trail
  · simp only [pending, List.length_singleton, ImportGraph.size]
    omega
  · rw [levels]
    rfl

/-- The search for a shortest path ends, its climb included. It finds nothing exactly if no way of
at most `maxSteps` imports leads through allowed files from `start` to `goal`. Otherwise it gives
such a way; no other is shorter, and of those that are as short it is the first: where another one
parts from it for the first time, that follows an import which stands further back among the imports
of the same file. So the search by levels gives the same. -/
theorem first_shortest_path (graph : ImportGraph) {start goal : FileId} (allowed : FileId → Bool)
    (maxSteps : Nat) (apart : start ≠ goal) (can : allowed start = true) :
    ∃ found, PathSearch.answer? graph goal allowed maxSteps (2 * graph.size + 3) (.start start) =
        some found ∧
      found = graph.outgoing.shortestPath? start goal allowed maxSteps ∧
      (found = none ↔ ¬ ∃ way, graph.IsWay allowed start goal way ∧ way.length ≤ maxSteps) ∧
      ∀ path, found = some path →
        graph.IsWay allowed start goal path ∧ path.length ≤ maxSteps ∧
        ∀ other, graph.IsWay allowed start goal other →
          path.length ≤ other.length ∧
          (other.length = path.length → other ≠ path →
            List.Lex (· < ·) (graph.choices (path ++ [goal]))
              (graph.choices (other ++ [goal]))) := by
  refine ⟨_, PathSearch.answer?_start graph allowed maxSteps apart can, rfl, ?_, ?_⟩
  · constructor
    · rintro none ⟨way, ⟨walk, inside⟩, within⟩
      rw [← ImportGraph.leads_outgoing] at walk
      have long := Steps.shortestPath?_none can apart none walk inside
      omega
    · intro noWay
      cases found : graph.outgoing.shortestPath? start goal allowed maxSteps with
      | none => rfl
      | some path =>
        obtain ⟨shortest, within⟩ := Steps.shortestPath?_some can apart found
        have walk := shortest.walk
        rw [ImportGraph.leads_outgoing] at walk
        exact absurd ⟨path, ⟨walk, shortest.inside⟩, within⟩ noWay
  · intro path found
    obtain ⟨shortest, within⟩ := Steps.shortestPath?_some can apart found
    have walk := shortest.walk
    rw [ImportGraph.leads_outgoing] at walk
    refine ⟨⟨walk, shortest.inside⟩, within, ?_⟩
    rintro other ⟨walkOther, inside⟩
    rw [← ImportGraph.leads_outgoing] at walkOther
    refine ⟨shortest.least other walkOther inside, ?_⟩
    intro size differ
    have before := Steps.before_of_shortestPath? can apart found walkOther inside size differ
    have lex := ImportGraph.lex_choices (before.parted goal goal) (by simp [size])
    simpa using lex

/-- Two ways lead from one file to another, by way of files that it imports against their path
order. -/
def fork : ImportGraph :=
  ⟨[⟨inRoot "a", inRoot "c", {}⟩, ⟨inRoot "a", inRoot "b", {}⟩, ⟨inRoot "b", inRoot "d", {}⟩,
    ⟨inRoot "c", inRoot "d", {}⟩]⟩

/-- Of two ways of one length the one that starts with the first import is found, and none where the
limit is too small. -/
theorem first_shortest_path_fork :
    inRoot "a" ≠ inRoot "d" ∧
    (∃ found, PathSearch.answer? fork (inRoot "d") (fun _ => true) 2 11 (.start (inRoot "a")) =
        some found ∧ found = some [inRoot "a", inRoot "c"] ∧
      fork.IsWay (fun _ => true) (inRoot "a") (inRoot "d") [inRoot "a", inRoot "b"] ∧
      List.Lex (· < ·) (fork.choices [inRoot "a", inRoot "c", inRoot "d"])
        (fork.choices [inRoot "a", inRoot "b", inRoot "d"])) ∧
    PathSearch.answer? fork (inRoot "d") (fun _ => true) 1 11 (.start (inRoot "a")) =
      some none := by
  have apart : inRoot "a" ≠ inRoot "d" := by decide
  have ab : fork.Imports (inRoot "a") (inRoot "b") := by decide
  have bd : fork.Imports (inRoot "b") (inRoot "d") := by decide
  have way : fork.IsWay (fun _ => true) (inRoot "a") (inRoot "d") [inRoot "a", inRoot "b"] :=
    ⟨.cons ab (.single bd), fun _ _ => rfl⟩
  refine ⟨apart, ?_, ?_⟩
  · obtain ⟨found, answer, same, -, first⟩ :=
      first_shortest_path fork (fun _ => true) 2 apart rfl
    have path : found = some [inRoot "a", inRoot "c"] := same.trans (by cbv)
    have lex := ((first _ path).2.2 _ way).2 rfl (by decide)
    exact ⟨found, answer, path, way, lex⟩
  · obtain ⟨found, answer, same, -⟩ :=
      first_shortest_path fork (fun _ => true) 1 apart rfl
    rw [same] at answer
    exact answer.trans (by cbv)

end ImportCycles
