import ImportCycles.Cycle.Search
import ImportCycles.Proofs.Reach

/-! # What the breadth-first search finds

The search keeps a level of trails, all of the same length, and the files seen so far. One invariant,
`Frontier`, carries all of its properties: every trail is a simple walk from the start that avoids
the goal, and whatever was seen is either the newest file of a trail or has nothing new to offer.
Hence every way to the goal leaves through the level, and going on by one level makes it shorter by
one step: the first trail that leads to the goal belongs to a shortest path.
-/

namespace ImportCycles.Steps

variable {steps : Steps} {start goal x : FileId} {allowed : FileId → Bool} {t : Trail}
  {level : List Trail} {found : List Trail × FileSet} {nexts : List FileId}

theorem leadsTo_cons {trail : Trail} :
    steps.leadsTo goal (x :: trail) = true ↔ steps.Leads x goal := by
  simp [leadsTo, Leads]

/-- Extending a trail adds what is allowed to the files seen. -/
theorem mem_seen_extend {trail : Trail} :
    x ∈ (extend allowed trail nexts found).2 ↔ x ∈ found.2 ∨ x ∈ nexts ∧ allowed x = true := by
  induction nexts generalizing found with
  | nil => simp [extend]
  | cons next rest ih =>
    obtain ⟨trails, seen⟩ := found
    simp only [extend]
    split
    · rename_i new
      rw [ih, FileSet.mem_insert]
      simp only [Bool.and_eq_true] at new
      by_cases same : x = next
      · simp [same, new.1]
      · simp [same]
    · rename_i old
      rw [ih]
      by_cases same : x = next
      · subst same
        by_cases can : allowed x = true
        · have visited : x ∈ seen := by simpa [can] using old
          simp [visited]
        · simp [can]
      · simp [same]

/-- Extending a trail adds one trail for each file that is allowed and new. -/
theorem mem_trails_extend {trail : Trail} :
    t ∈ (extend allowed trail nexts found).1 ↔
      t ∈ found.1 ∨ ∃ next ∈ nexts, allowed next = true ∧ next ∉ found.2 ∧ t = next :: trail := by
  induction nexts generalizing found with
  | nil => simp [extend]
  | cons next rest ih =>
    obtain ⟨trails, seen⟩ := found
    simp only [extend]
    split
    · rename_i new
      simp only [Bool.and_eq_true, Bool.not_eq_true', ← Bool.not_eq_true,
        Std.TreeSet.contains_iff_mem] at new
      rw [ih, List.mem_cons]
      constructor
      · rintro ((rfl | old) | ⟨other, mem, can, unseen, rfl⟩)
        · exact .inr ⟨next, by simp, new.1, new.2, rfl⟩
        · exact .inl old
        · rw [FileSet.mem_insert, not_or] at unseen
          exact .inr ⟨other, List.mem_cons_of_mem _ mem, can, unseen.2, rfl⟩
      · rintro (old | ⟨other, mem, can, unseen, rfl⟩)
        · exact .inl (.inr old)
        · by_cases same : other = next
          · exact .inl (.inl (by rw [same]))
          · refine .inr ⟨other, (List.mem_cons.1 mem).resolve_left same, can, ?_, rfl⟩
            rw [FileSet.mem_insert, not_or]
            exact ⟨same, unseen⟩
    · rename_i old
      rw [ih]
      refine or_congr_right ?_
      constructor
      · rintro ⟨other, mem, new⟩
        exact ⟨other, List.mem_cons_of_mem _ mem, new⟩
      · rintro ⟨other, mem, can, unseen, rfl⟩
        rcases List.mem_cons.1 mem with rfl | mem
        · simp [can, unseen] at old
        · exact ⟨other, mem, can, unseen, rfl⟩

/-- Extending a level adds whatever is allowed and next to one of its trails to the files seen. -/
theorem mem_seen_extendLevel :
    x ∈ (steps.extendLevel allowed level found).2 ↔
      x ∈ found.2 ∨ allowed x = true ∧ ∃ t ∈ level, ∃ y, t.head? = some y ∧ steps.Leads y x := by
  induction level generalizing found with
  | nil => simp [extendLevel]
  | cons trail level ih =>
    cases trail with
    | nil => simp [extendLevel, ih]
    | cons file trail =>
      rw [extendLevel, ih, mem_seen_extend, or_assoc]
      refine or_congr_right ?_
      simp only [List.mem_cons, exists_eq_or_imp, List.head?_cons, Option.some.injEq,
        exists_eq_left', and_or_left, Leads, and_comm]

/-- The trails of the next level are old ones with one file more, which is allowed and new. -/
theorem of_mem_trails_extendLevel (mem : t ∈ (steps.extendLevel allowed level found).1) :
    t ∈ found.1 ∨ ∃ file trail next, file :: trail ∈ level ∧ steps.Leads file next ∧
      allowed next = true ∧ next ∉ found.2 ∧ t = next :: file :: trail := by
  induction level generalizing found with
  | nil => exact .inl mem
  | cons trail level ih =>
    cases trail with
    | nil =>
      rcases ih mem with old | ⟨file, trail, next, inLevel, new⟩
      · exact .inl old
      · exact .inr ⟨file, trail, next, List.mem_cons_of_mem _ inLevel, new⟩
    | cons file trail =>
      rcases ih mem with old | ⟨other, longer, next, inLevel, leads, can, unseen, rfl⟩
      · rcases mem_trails_extend.1 old with old | ⟨next, leads, can, unseen, rfl⟩
        · exact .inl old
        · exact .inr ⟨file, trail, next, by simp, leads, can, unseen, rfl⟩
      · refine .inr ⟨other, longer, next, List.mem_cons_of_mem _ inLevel, leads, can, ?_, rfl⟩
        exact fun before => unseen (mem_seen_extend.2 (.inl before))

theorem mem_trails_extendLevel (mem : t ∈ found.1) :
    t ∈ (steps.extendLevel allowed level found).1 := by
  induction level generalizing found with
  | nil => exact mem
  | cons trail level ih =>
    cases trail with
    | nil => exact ih mem
    | cons file trail => exact ih (mem_trails_extend.2 (.inl mem))

/-- Each file that is seen for the first time is the newest file of a new trail. -/
theorem exists_trail_extendLevel (mem : x ∈ (steps.extendLevel allowed level found).2) :
    x ∈ found.2 ∨ ∃ t ∈ (steps.extendLevel allowed level found).1, t.head? = some x := by
  induction level generalizing found with
  | nil => exact .inl mem
  | cons trail level ih =>
    cases trail with
    | nil => exact ih mem
    | cons file trail =>
      rcases ih mem with old | new
      · rcases mem_seen_extend.1 old with old | ⟨leads, can⟩
        · exact .inl old
        · by_cases before : x ∈ found.2
          · exact .inl before
          · refine .inr ⟨x :: file :: trail, ?_, rfl⟩
            rw [extendLevel]
            exact mem_trails_extendLevel (mem_trails_extend.2 (.inr ⟨x, leads, can, before, rfl⟩))
      · exact .inr new

/-- A trail of a search: the walk from `start` to its newest file, simple, through allowed files and
past `goal`. -/
structure IsTrail (steps : Steps) (start goal : FileId) (allowed : FileId → Bool) (length : Nat)
    (t : Trail) : Prop where
  walk : ∃ newest before, t = newest :: before ∧ Walk steps.Leads start before.reverse newest
  length_eq : t.length = length + 1
  nodup : t.Nodup
  inside : ∀ x ∈ t, allowed x = true
  avoids : goal ∉ t

/-- What holds between two levels of a search, `length` steps away from `start`. A file that was seen
is the newest of a trail, or all that can be done from it is done. -/
structure Frontier (steps : Steps) (start goal : FileId) (allowed : FileId → Bool) (length : Nat)
    (level : List Trail) (seen : FileSet) : Prop where
  trail : ∀ t ∈ level, IsTrail steps start goal allowed length t
  visited : ∀ t ∈ level, ∀ x ∈ t, x ∈ seen
  settled : ∀ x ∈ seen, (∃ t ∈ level, t.head? = some x) ∨
    ¬ steps.Leads x goal ∧ ∀ y, steps.Leads x y → allowed y = true → y ∈ seen

/-- A way from the newest file of some trail to `goal` through allowed files. -/
def WayOn (steps : Steps) (goal : FileId) (allowed : FileId → Bool) (level : List Trail)
    (way : List FileId) : Prop :=
  way ≠ [] ∧ (∀ x ∈ way, allowed x = true) ∧
    ∃ t ∈ level, ∃ newest, t.head? = some newest ∧ Walk steps.Leads newest way goal

variable {length : Nat} {seen : FileSet}

theorem IsTrail.extend {before : Trail} {next : FileId}
    (trail : IsTrail steps start goal allowed length (x :: before)) (leads : steps.Leads x next)
    (can : allowed next = true) (new : next ∉ x :: before) (notGoal : next ≠ goal) :
    IsTrail steps start goal allowed (length + 1) (next :: x :: before) where
  walk := by
    obtain ⟨_, _, same, walk⟩ := trail.walk
    obtain ⟨rfl, rfl⟩ := List.cons.inj same
    refine ⟨next, x :: before, rfl, ?_⟩
    rw [List.reverse_cons]
    exact walk.append (.single leads)
  length_eq := by rw [List.length_cons, trail.length_eq]
  nodup := List.nodup_cons.2 ⟨new, trail.nodup⟩
  inside := by
    intro y mem
    rcases List.mem_cons.1 mem with rfl | mem
    · exact can
    · exact trail.inside y mem
  avoids := by
    intro mem
    rcases List.mem_cons.1 mem with rfl | mem
    · exact notGoal rfl
    · exact trail.avoids mem

/-- A level that does not lead to the goal can be left behind. -/
theorem Frontier.next (frontier : Frontier steps start goal allowed length level seen)
    (misses : ∀ t ∈ level, ∀ y, t.head? = some y → ¬ steps.Leads y goal) :
    Frontier steps start goal allowed (length + 1)
      (steps.extendLevel allowed level ([], seen)).1.reverse
      (steps.extendLevel allowed level ([], seen)).2 where
  trail := by
    intro t mem
    rcases of_mem_trails_extendLevel (List.mem_reverse.1 mem) with old | new
    · simp at old
    · obtain ⟨file, before, next, inLevel, leads, can, unseen, rfl⟩ := new
      refine (frontier.trail _ inLevel).extend leads can ?_ ?_
      · exact fun old => unseen (frontier.visited _ inLevel next old)
      · rintro rfl
        exact misses _ inLevel file rfl leads
  visited := by
    intro t mem x memT
    rcases of_mem_trails_extendLevel (List.mem_reverse.1 mem) with old | new
    · simp at old
    · obtain ⟨file, before, next, inLevel, leads, can, _, rfl⟩ := new
      rcases List.mem_cons.1 memT with rfl | memT
      · exact mem_seen_extendLevel.2 (.inr ⟨can, _, inLevel, file, rfl, leads⟩)
      · exact mem_seen_extendLevel.2 (.inl (frontier.visited _ inLevel x memT))
  settled := by
    intro x mem
    rcases exists_trail_extendLevel mem with old | ⟨t, new, newest⟩
    · right
      rcases frontier.settled x old with ⟨t, inLevel, newest⟩ | ⟨notGoal, done⟩
      · refine ⟨misses t inLevel x newest, ?_⟩
        intro y leads can
        exact mem_seen_extendLevel.2 (.inr ⟨can, t, inLevel, x, newest, leads⟩)
      · refine ⟨notGoal, ?_⟩
        intro y leads can
        exact mem_seen_extendLevel.2 (.inl (done y leads can))
    · exact .inl ⟨t, List.mem_reverse.2 new, newest⟩

/-- A way to the goal from any file that was seen leaves through the level. -/
theorem Frontier.exists_wayOn (frontier : Frontier steps start goal allowed length level seen)
    {way : List FileId} (walk : Walk steps.Leads x way goal) (mem : x ∈ seen) (nonempty : way ≠ [])
    (inside : ∀ y ∈ way, allowed y = true) :
    ∃ rest, WayOn steps goal allowed level rest ∧ rest.length ≤ way.length := by
  induction walk with
  | nil => exact absurd rfl nonempty
  | @cons a b goal rest leads walk ih =>
    rcases frontier.settled a mem with ⟨t, inLevel, newest⟩ | ⟨notGoal, done⟩
    · exact ⟨a :: rest, ⟨nonempty, inside, t, inLevel, a, newest, .cons leads walk⟩, Nat.le_refl _⟩
    · -- All is done at `a`, so the next file of the way was seen too.
      cases walk with
      | nil => exact absurd leads notGoal
      | cons second walk =>
        have insideRest : ∀ y ∈ b :: _, allowed y = true :=
          fun y memRest => inside y (List.mem_cons_of_mem _ memRest)
        obtain ⟨shorter, wayOn, le⟩ :=
          ih frontier (done b leads (insideRest b (by simp))) (by simp) insideRest
        exact ⟨shorter, wayOn, Nat.le_succ_of_le le⟩

/-- One level further every way to the goal is shorter by a step. -/
theorem Frontier.wayOn_next (frontier : Frontier steps start goal allowed length level seen)
    (misses : ∀ t ∈ level, ∀ y, t.head? = some y → ¬ steps.Leads y goal) {way : List FileId}
    (wayOn : WayOn steps goal allowed level way) :
    ∃ rest, WayOn steps goal allowed (steps.extendLevel allowed level ([], seen)).1.reverse rest ∧
      rest.length < way.length := by
  obtain ⟨nonempty, inside, t, inLevel, newest, atHead, walk⟩ := wayOn
  cases walk with
  | nil => exact absurd rfl nonempty
  | @cons _ b _ rest leads walk =>
    have second : rest ≠ [] := by
      rintro rfl
      cases walk with
      | nil => exact misses t inLevel newest atHead leads
    have insideRest : ∀ y ∈ rest, allowed y = true :=
      fun y mem => inside y (List.mem_cons_of_mem _ mem)
    have can : allowed b = true := by
      cases walk with
      | nil => exact absurd rfl second
      | cons _ _ => exact insideRest b (by simp)
    have seenNext : b ∈ (steps.extendLevel allowed level ([], seen)).2 :=
      mem_seen_extendLevel.2 (.inr ⟨can, t, inLevel, newest, atHead, leads⟩)
    obtain ⟨shorter, wayOn, le⟩ :=
      (frontier.next misses).exists_wayOn walk seenNext second insideRest
    exact ⟨shorter, wayOn, Nat.lt_succ_of_le le⟩

theorem not_leads_of_find?_none (none : level.find? (steps.leadsTo goal) = none) :
    ∀ t ∈ level, ∀ y, t.head? = some y → ¬ steps.Leads y goal := by
  intro t mem y newest leads
  obtain ⟨before, rfl⟩ := List.head?_eq_some_iff.1 newest
  exact List.find?_eq_none.1 none _ mem (leadsTo_cons.2 leads)

/-- A trail that the search gives leads to the goal within the budget, and no way from the level to
the goal is shorter than what the trail adds to it. -/
theorem searchLevels_some {budget : Nat}
    (frontier : Frontier steps start goal allowed length level seen)
    (found : steps.searchLevels goal allowed budget level seen = some t) :
    steps.leadsTo goal t = true ∧ (∃ total, IsTrail steps start goal allowed total t) ∧
      t.length ≤ length + budget ∧
      ∀ way, WayOn steps goal allowed level way → t.length ≤ length + way.length := by
  induction budget generalizing length level seen with
  | zero => simp [searchLevels] at found
  | succ budget ih =>
    simp only [searchLevels] at found
    split at found
    · rename_i leading here
      obtain rfl := Option.some.inj found
      have trail := frontier.trail leading (List.mem_of_find?_eq_some here)
      have size := trail.length_eq
      refine ⟨List.find?_some here, ⟨length, trail⟩, by omega, ?_⟩
      intro way wayOn
      have := List.length_pos_iff.2 wayOn.1
      omega
    · rename_i none
      split at found
      · simp at found
      · have misses := not_leads_of_find?_none none
        obtain ⟨leads, trail, within, least⟩ := ih (frontier.next misses) found
        refine ⟨leads, trail, by omega, ?_⟩
        intro way wayOn
        -- The level is one step further on, and what is left of the way is one step shorter.
        obtain ⟨rest, wayOnRest, shorter⟩ := frontier.wayOn_next misses wayOn
        have := least rest wayOnRest
        omega

/-- Where the search gives up no way from the level to the goal is within the budget. -/
theorem searchLevels_none {budget : Nat}
    (frontier : Frontier steps start goal allowed length level seen)
    (failed : steps.searchLevels goal allowed budget level seen = none) :
    ∀ way, WayOn steps goal allowed level way → budget < way.length := by
  induction budget generalizing length level seen with
  | zero => exact fun way wayOn => List.length_pos_iff.2 wayOn.1
  | succ budget ih =>
    intro way wayOn
    simp only [searchLevels] at failed
    split at failed
    · simp at failed
    · rename_i none
      split at failed
      · rename_i empty
        obtain ⟨_, _, t, mem, _⟩ := wayOn
        rw [List.isEmpty_iff.1 empty] at mem
        simp at mem
      · have misses := not_leads_of_find?_none none
        obtain ⟨rest, wayOnRest, shorter⟩ := frontier.wayOn_next misses wayOn
        have := ih (frontier.next misses) failed rest wayOnRest
        omega

/-- The search starts with the file itself as its only trail. -/
theorem frontier_start (can : allowed start = true) (apart : start ≠ goal) :
    Frontier steps start goal allowed 0 [[start]] ((∅ : FileSet).insert start) where
  trail := by
    intro t mem
    obtain rfl := List.mem_singleton.1 mem
    exact ⟨⟨start, [], rfl, .nil start⟩, rfl, by simp, by simpa using can, by simpa using apart.symm⟩
  visited := by
    intro t mem x memT
    obtain rfl := List.mem_singleton.1 mem
    obtain rfl := List.mem_singleton.1 memT
    exact FileSet.mem_insert.2 (.inl rfl)
  settled := by
    intro x mem
    rcases FileSet.mem_insert.1 mem with rfl | mem
    · exact .inl ⟨[x], by simp, rfl⟩
    · simp at mem

/-- A path from `start` to `goal`, written without `goal`, that is simple, stays inside the allowed
files and is as short as any walk that does. -/
structure ShortestPath (steps : Steps) (start goal : FileId) (allowed : FileId → Bool)
    (path : List FileId) : Prop where
  walk : Walk steps.Leads start path goal
  nodup : path.Nodup
  avoids : goal ∉ path
  inside : ∀ x ∈ path, allowed x = true
  least : ∀ other, Walk steps.Leads start other goal → (∀ x ∈ other, allowed x = true) →
    path.length ≤ other.length

theorem wayOn_start (apart : start ≠ goal) {way : List FileId} (walk : Walk steps.Leads start way goal)
    (inside : ∀ x ∈ way, allowed x = true) : WayOn steps goal allowed [[start]] way := by
  refine ⟨?_, inside, [start], by simp, start, rfl, walk⟩
  rintro rfl
  cases walk with
  | nil => exact apart rfl

/-- What the search finds is a shortest path within the limit. -/
theorem shortestPath?_some {maxSteps : Nat} {path : List FileId} (can : allowed start = true)
    (apart : start ≠ goal) (found : steps.shortestPath? start goal allowed maxSteps = some path) :
    ShortestPath steps start goal allowed path ∧ path.length ≤ maxSteps := by
  obtain ⟨t, search, rfl⟩ := Option.map_eq_some_iff.1 found
  obtain ⟨leads, ⟨_, trail⟩, within, least⟩ := searchLevels_some (frontier_start can apart) search
  obtain ⟨newest, before, rfl, walk⟩ := trail.walk
  refine ⟨⟨?_, ?_, ?_, ?_, ?_⟩, ?_⟩
  · rw [List.reverse_cons]
    exact walk.append (.single (leadsTo_cons.1 leads))
  · exact List.pairwise_reverse.2 (trail.nodup.imp Ne.symm)
  · exact fun mem => trail.avoids (List.mem_reverse.1 mem)
  · exact fun x mem => trail.inside x (List.mem_reverse.1 mem)
  · intro other walkOther inside
    simpa using least other (wayOn_start apart walkOther inside)
  · simpa using within

/-- Where the search finds nothing every path is beyond the limit. -/
theorem shortestPath?_none {maxSteps : Nat} {way : List FileId} (can : allowed start = true)
    (apart : start ≠ goal) (failed : steps.shortestPath? start goal allowed maxSteps = none)
    (walk : Walk steps.Leads start way goal) (inside : ∀ x ∈ way, allowed x = true) :
    maxSteps < way.length :=
  searchLevels_none (frontier_start can apart) (Option.map_eq_none_iff.1 failed) way
    (wayOn_start apart walk inside)

end ImportCycles.Steps
