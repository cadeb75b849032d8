import ImportCycles.Proofs.Search

/-! # Searches that keep to a part of the files

A breadth-first search may keep to a part of the files without loss if its start and its goal are in
it and nothing outside leads back in. The search among all files then visits more, but whatever it
visits outside stays outside: a trail that has left the part never leads to the goal and brings no
file of it up. So the levels of the search that keeps to the part are those of the other one, less
the trails that have left, with the same trails in the same order.
-/

namespace ImportCycles.Steps

variable {steps others : Steps} {start goal x : FileId} {allowed inside : FileId → Bool}
  {trail : Trail} {level : List Trail} {found kept : List Trail × FileSet} {seen keptSeen : FileSet}
  {budget : Nat}

theorem searchLevels_nil (budget : Nat) : steps.searchLevels goal allowed budget [] seen = none := by
  cases budget with
  | zero => rfl
  | succ budget => rfl

/-- A search looks whether the level leads to the goal, and goes on with the next level if not. -/
theorem searchLevels_succ :
    steps.searchLevels goal allowed (budget + 1) level seen =
      (level.find? (steps.leadsTo goal)).or
        (steps.searchLevels goal allowed budget
          (steps.extendLevel allowed level ([], seen)).1.reverse
          (steps.extendLevel allowed level ([], seen)).2) := by
  cases here : level.find? (steps.leadsTo goal) with
  | some t => simp only [searchLevels, here, Option.some_or]
  | none =>
    simp only [searchLevels, here, Option.none_or]
    cases level with
    | nil => exact (searchLevels_nil budget).symm
    | cons _ _ => rfl

/-- Files that are not allowed make no difference to what a trail is extended by. -/
theorem extend_filter (allowed : FileId → Bool) (nexts : List FileId)
    (found : List Trail × FileSet) :
    extend allowed trail (nexts.filter allowed) found = extend allowed trail nexts found := by
  induction nexts generalizing found with
  | nil => rfl
  | cons next rest ih =>
    obtain ⟨trails, seen⟩ := found
    by_cases can : allowed next = true
    · rw [List.filter_cons_of_pos can]
      simp only [extend, ih]
    · rw [List.filter_cons_of_neg can, ih]
      simp [extend, can]

/-- Is the newest file of the trail one of `inside`? -/
def endsIn (inside : FileId → Bool) : Trail → Bool
  | [] => false
  | file :: _ => inside file

theorem filter_endsIn_of_pos {file : FileId} (within : inside file = true) :
    ((file :: trail) :: level).filter (endsIn inside) =
      (file :: trail) :: level.filter (endsIn inside) :=
  List.filter_cons_of_pos within

theorem filter_endsIn_of_neg {file : FileId} (outside : ¬ inside file = true) :
    ((file :: trail) :: level).filter (endsIn inside) = level.filter (endsIn inside) :=
  List.filter_cons_of_neg outside

/-- `kept` is what is left of `found` inside: the trails that end there, and the files seen there. -/
structure Restricts (inside : FileId → Bool) (found kept : List Trail × FileSet) : Prop where
  trails : kept.1 = found.1.filter (endsIn inside)
  seen : ∀ x, x ∈ kept.2 ↔ x ∈ found.2 ∧ inside x = true

/-- A trail is extended by the same files inside, whether or not it is extended by others too. -/
theorem Restricts.extend (restricts : Restricts inside found kept) (trail : Trail)
    (nexts : List FileId) :
    Restricts inside (extend (fun _ => true) trail nexts found)
      (Steps.extend inside trail nexts kept) := by
  induction nexts generalizing found kept with
  | nil => exact restricts
  | cons next rest ih =>
    obtain ⟨trails, seen⟩ := found
    obtain ⟨keptTrails, keptSeen⟩ := kept
    obtain ⟨sameTrails, sameSeen⟩ := restricts
    simp only at sameTrails sameSeen
    simp only [Steps.extend, Bool.true_and]
    by_cases within : inside next = true
    · have sameNext : keptSeen.contains next = seen.contains next := by
        rw [Bool.eq_iff_iff, Std.TreeSet.contains_iff_mem, Std.TreeSet.contains_iff_mem, sameSeen]
        exact and_iff_left within
      rw [within, sameNext, Bool.true_and]
      split
      · apply ih
        refine ⟨?_, ?_⟩
        · rw [filter_endsIn_of_pos within, sameTrails]
        · intro x
          rw [FileSet.mem_insert, FileSet.mem_insert, sameSeen]
          by_cases same : x = next
          · simp [same, within]
          · simp [same]
      · exact ih ⟨sameTrails, sameSeen⟩
    · -- the file is passed over inside, so a trail to it is one more that is left out
      rw [Bool.eq_false_iff.2 within, Bool.false_and, if_neg Bool.false_ne_true]
      split
      · apply ih
        refine ⟨?_, ?_⟩
        · rw [filter_endsIn_of_neg within, sameTrails]
        · intro x
          rw [FileSet.mem_insert, sameSeen]
          by_cases same : x = next
          · simp [same, within]
          · simp [same]
      · exact ih ⟨sameTrails, sameSeen⟩

/-- `others` leads among the files of `inside` where `steps` leads, in the same order, and of the
files that `start` leads to none outside leads in. Both ends of the search are inside. -/
structure Prunes (steps others : Steps) (start goal : FileId) (inside : FileId → Bool) : Prop where
  startIn : inside start = true
  goalIn : inside goal = true
  enters : ∀ x y, Relation.ReflTransGen steps.Leads start x → steps.Leads x y → inside y = true →
    inside x = true
  same : ∀ x, inside x = true → (others.next x).filter inside = (steps.next x).filter inside

namespace Prunes

/-- The files at the ends of a level are among those that the start leads to. -/
def Known (steps : Steps) (start : FileId) (level : List Trail) : Prop :=
  ∀ t ∈ level, ∀ x, t.head? = some x → Relation.ReflTransGen steps.Leads start x

theorem known_next (known : Known steps start level) :
    Known steps start (steps.extendLevel allowed level ([], seen)).1.reverse := by
  intro t mem x newest
  rcases of_mem_trails_extendLevel (List.mem_reverse.1 mem) with old | new
  · simp at old
  · obtain ⟨file, before, next, inLevel, leads, -, -, rfl⟩ := new
    obtain rfl : next = x := by simpa using newest
    exact (known _ inLevel file rfl).tail leads

theorem extendLevel (prunes : Prunes steps others start goal inside)
    (known : Known steps start level) (restricts : Restricts inside found kept) :
    Restricts inside (steps.extendLevel (fun _ => true) level found)
      (others.extendLevel inside (level.filter (endsIn inside)) kept) := by
  induction level generalizing found kept with
  | nil => exact restricts
  | cons trail level ih =>
    have knownRest : Known steps start level := fun t mem => known t (List.mem_cons_of_mem _ mem)
    cases trail with
    | nil => exact ih knownRest restricts
    | cons file trail =>
      have fromStart := known (file :: trail) (by simp) file rfl
      have more := restricts.extend (file :: trail) (steps.next file)
      by_cases within : inside file = true
      · rw [filter_endsIn_of_pos within, Steps.extendLevel, Steps.extendLevel]
        apply ih knownRest
        rwa [← extend_filter inside (others.next file), prunes.same file within, extend_filter]
      · -- from outside all steps go outside, so inside there is nothing to extend
        have outside : (steps.next file).filter inside = [] := by
          apply List.filter_eq_nil_iff.2
          intro next leads can
          exact within (prunes.enters file next fromStart leads can)
        rw [filter_endsIn_of_neg within, Steps.extendLevel]
        apply ih knownRest
        rwa [← extend_filter inside, outside] at more

/-- Only trails that end inside lead to the goal. -/
theorem find?_leadsTo (prunes : Prunes steps others start goal inside)
    (known : Known steps start level) :
    (level.filter (endsIn inside)).find? (others.leadsTo goal) =
      level.find? (steps.leadsTo goal) := by
  induction level with
  | nil => rfl
  | cons trail level ih =>
    have knownRest : Known steps start level := fun t mem => known t (List.mem_cons_of_mem _ mem)
    cases trail with
    | nil => exact ih knownRest
    | cons file trail =>
      have fromStart := known (file :: trail) (by simp) file rfl
      by_cases within : inside file = true
      · have sameGoal : others.leadsTo goal (file :: trail) = steps.leadsTo goal (file :: trail) := by
          have same : goal ∈ (others.next file).filter inside ↔
              goal ∈ (steps.next file).filter inside := by rw [prunes.same file within]
          rw [Bool.eq_iff_iff, leadsTo_cons, leadsTo_cons]
          simpa only [List.mem_filter, prunes.goalIn, and_true, Leads] using same
        rw [filter_endsIn_of_pos within, List.find?_cons, List.find?_cons, ih knownRest, sameGoal]
      · have misses : ¬ steps.leadsTo goal (file :: trail) = true := by
          intro leads
          exact within (prunes.enters file goal fromStart (leadsTo_cons.1 leads) prunes.goalIn)
        rw [filter_endsIn_of_neg within, List.find?_cons_of_neg misses, ih knownRest]

theorem searchLevels (prunes : Prunes steps others start goal inside) (budget : Nat)
    (known : Known steps start level) (same : ∀ x, x ∈ keptSeen ↔ x ∈ seen ∧ inside x = true) :
    others.searchLevels goal inside budget (level.filter (endsIn inside)) keptSeen =
      steps.searchLevels goal (fun _ => true) budget level seen := by
  induction budget generalizing level seen keptSeen with
  | zero => rfl
  | succ budget ih =>
    have next : Restricts inside (steps.extendLevel (fun _ => true) level ([], seen))
        (others.extendLevel inside (level.filter (endsIn inside)) ([], keptSeen)) :=
      prunes.extendLevel known ⟨rfl, same⟩
    rw [searchLevels_succ, searchLevels_succ, prunes.find?_leadsTo known, next.trails,
      ← List.filter_reverse, ih (known_next known) next.seen]

/-- A search that keeps inside gives the path that the search among all files gives. -/
theorem shortestPath?_eq (prunes : Prunes steps others start goal inside) (maxSteps : Nat) :
    others.shortestPath? start goal inside maxSteps =
      steps.shortestPath? start goal (fun _ => true) maxSteps := by
  have known : Known steps start [[start]] := by
    intro t mem x newest
    obtain rfl := List.mem_singleton.1 mem
    obtain rfl : start = x := by simpa using newest
    exact .refl
  have same : ∀ x, x ∈ (∅ : FileSet).insert start ↔
      x ∈ (∅ : FileSet).insert start ∧ inside x = true := by
    intro x
    rw [FileSet.mem_insert]
    constructor
    · rintro (rfl | mem)
      · exact ⟨.inl rfl, prunes.startIn⟩
      · simp at mem
    · exact And.left
  have all : [[start]].filter (endsIn inside) = [[start]] :=
    filter_endsIn_of_pos prunes.startIn
  have levels := prunes.searchLevels maxSteps known same
  rw [all] at levels
  rw [shortestPath?, shortestPath?, levels]

end Prunes

end ImportCycles.Steps
