import ImportCycles.Proofs.Search
import Mathlib.Data.List.Lex

/-! # The first of the shortest paths

Trails of one length from one start are in order: where two of them part for the first time, the one
comes first whose step is the earlier one in the order of the steps. A level of the search keeps to
this order, and each of its trails is the first among all that lead to the same file in as many
steps. Going on by one level keeps both, since a file is taken up by the first trail of the level
that leads to it. So the trail that is found in the end is the first that leads to the goal.
-/

namespace ImportCycles

namespace Steps

variable {steps : Steps} {start goal x y : FileId} {allowed : FileId → Bool} {t u v : Trail}
  {level : List Trail} {found : List Trail × FileSet} {seen : FileSet} {length budget : Nat}

/-- One trail comes before another if its step is the earlier one where they part for the first
time. -/
inductive Before (steps : Steps) : Trail → Trail → Prop
  | parted {t u : Trail} (x y : FileId) (before : Before steps t u) : Before steps (x :: t) (y :: u)
  | parting {file x y : FileId} (t : Trail)
      (earlier : (steps.next file).idxOf x < (steps.next file).idxOf y) :
      Before steps (x :: file :: t) (y :: file :: t)

theorem Before.trans (first : Before steps t u) (second : Before steps u v) : Before steps t v := by
  induction first generalizing v with
  | parted x y before ih =>
    cases second with
    | parted _ z later => exact .parted x z (ih later)
    | parting _ _ => exact .parted x _ before
  | parting t earlier =>
    cases second with
    | parted _ z later => exact .parted _ z later
    | parting _ later => exact .parting t (earlier.trans later)

theorem Before.exists_cons (before : Before steps t u) :
    (∃ x front, t = x :: front) ∧ ∃ y back, u = y :: back := by
  cases before with
  | parted x y _ => exact ⟨⟨x, _, rfl⟩, y, _, rfl⟩
  | parting _ _ => exact ⟨⟨_, _, rfl⟩, _, _, rfl⟩

/-- One trail comes before another, or it is the same. -/
def NoLater (steps : Steps) (t u : Trail) : Prop :=
  t = u ∨ Before steps t u

theorem NoLater.trans (first : NoLater steps t u) (second : NoLater steps u v) :
    NoLater steps t v := by
  rcases first with rfl | first
  · exact second
  · rcases second with rfl | second
    · exact .inr first
    · exact .inr (first.trans second)

theorem NoLater.cons (noLater : NoLater steps t u) (x : FileId) :
    NoLater steps (x :: t) (x :: u) :=
  noLater.imp (congrArg (x :: ·)) (.parted x x)

theorem pairwise_idxOf_cons {next : FileId} {rest news : List FileId}
    (ordered : news.Pairwise fun x y => rest.idxOf x < rest.idxOf y) (others : next ∉ news) :
    news.Pairwise fun x y => (next :: rest).idxOf x < (next :: rest).idxOf y := by
  refine ordered.imp_of_mem ?_
  intro x y memX memY lt
  have notX : next ≠ x := fun same => others (same ▸ memX)
  have notY : next ≠ y := fun same => others (same ▸ memY)
  rw [List.idxOf_cons_ne _ notX, List.idxOf_cons_ne _ notY]
  omega

/-- A file is extended by files that are allowed and new, in the order of its steps. -/
theorem exists_trails_extend (allowed : FileId → Bool) (trail : Trail) (nexts : List FileId)
    (found : List Trail × FileSet) :
    ∃ news : List FileId,
      (extend allowed trail nexts found).1 = (news.map (· :: trail)).reverse ++ found.1 ∧
      news.Pairwise (fun x y => nexts.idxOf x < nexts.idxOf y) ∧
      ∀ x ∈ news, x ∈ nexts ∧ allowed x = true ∧ x ∉ found.2 := by
  induction nexts generalizing found with
  | nil => exact ⟨[], rfl, .nil, by simp⟩
  | cons next rest ih =>
    obtain ⟨trails, seen⟩ := found
    simp only [extend]
    split
    · rename_i new
      simp only [Bool.and_eq_true, Bool.not_eq_true', ← Bool.not_eq_true,
        Std.TreeSet.contains_iff_mem] at new
      obtain ⟨news, isTrails, ordered, isNew⟩ := ih ((next :: trail) :: trails, seen.insert next)
      have others : next ∉ news := fun mem =>
        (isNew next mem).2.2 (FileSet.mem_insert.2 (.inl rfl))
      refine ⟨next :: news, by simp [isTrails], ?_, ?_⟩
      · refine List.pairwise_cons.2 ⟨?_, pairwise_idxOf_cons ordered others⟩
        intro x mem
        have apart : next ≠ x := fun same => others (same ▸ mem)
        rw [List.idxOf_cons_self, List.idxOf_cons_ne _ apart]
        exact Nat.succ_pos _
      · intro x mem
        rcases List.mem_cons.1 mem with rfl | mem
        · exact ⟨by simp, new⟩
        · obtain ⟨inRest, can, unseen⟩ := isNew x mem
          rw [FileSet.mem_insert, not_or] at unseen
          exact ⟨List.mem_cons_of_mem _ inRest, can, unseen.2⟩
    · rename_i old
      obtain ⟨news, isTrails, ordered, isNew⟩ := ih (trails, seen)
      have others : next ∉ news := by
        intro mem
        obtain ⟨-, can, unseen⟩ := isNew next mem
        simp [can, unseen] at old
      refine ⟨news, isTrails, pairwise_idxOf_cons ordered others, ?_⟩
      intro x mem
      obtain ⟨inRest, isNew⟩ := isNew x mem
      exact ⟨List.mem_cons_of_mem _ inRest, isNew⟩

/-- The trails of the next level are in order, and each of them extends the first trail of the level
that leads to its newest file. -/
theorem exists_trails_extendLevel (allowed : FileId → Bool) (found : List Trail × FileSet)
    (ordered : level.Pairwise (Before steps)) :
    ∃ news : List Trail,
      (steps.extendLevel allowed level found).1 = news.reverse ++ found.1 ∧
      news.Pairwise (Before steps) ∧
      ∀ t ∈ news, ∃ x u, t = x :: u ∧ u ∈ level ∧ allowed x = true ∧ x ∉ found.2 ∧
        ∀ v ∈ level, ∀ y, v.head? = some y → steps.Leads y x → NoLater steps u v := by
  induction level generalizing found with
  | nil => exact ⟨[], rfl, .nil, by simp⟩
  | cons trail level ih =>
    obtain ⟨earlier, later⟩ := List.pairwise_cons.1 ordered
    cases trail with
    | nil =>
      obtain ⟨news, isTrails, newOrdered, isNew⟩ := ih found later
      refine ⟨news, isTrails, newOrdered, ?_⟩
      intro t mem
      obtain ⟨x, u, rfl, inLevel, can, unseen, least⟩ := isNew t mem
      refine ⟨x, u, rfl, List.mem_cons_of_mem _ inLevel, can, unseen, ?_⟩
      intro v memV y newest leads
      rcases List.mem_cons.1 memV with rfl | memV
      · cases newest
      · exact least v memV y newest leads
    | cons file trail =>
      obtain ⟨files, isFirst, filesOrdered, fileNew⟩ :=
        exists_trails_extend allowed (file :: trail) (steps.next file) found
      obtain ⟨news, isTrails, newOrdered, isNew⟩ :=
        ih (extend allowed (file :: trail) (steps.next file) found) later
      refine ⟨files.map (· :: file :: trail) ++ news, ?_, ?_, ?_⟩
      · rw [extendLevel, isTrails, isFirst, List.reverse_append, List.append_assoc]
      · refine List.pairwise_append.2 ⟨?_, newOrdered, ?_⟩
        · exact List.pairwise_map.2 (filesOrdered.imp (.parting trail))
        · intro t mem u memU
          obtain ⟨x, -, rfl⟩ := List.mem_map.1 mem
          obtain ⟨y, v, rfl, inLevel, -⟩ := isNew u memU
          exact .parted x y (earlier v inLevel)
      · intro t mem
        rcases List.mem_append.1 mem with mem | mem
        · obtain ⟨x, memX, rfl⟩ := List.mem_map.1 mem
          obtain ⟨-, can, unseen⟩ := fileNew x memX
          refine ⟨x, file :: trail, rfl, by simp, can, unseen, ?_⟩
          intro v memV y _ _
          rcases List.mem_cons.1 memV with rfl | memV
          · exact .inl rfl
          · exact .inr (earlier v memV)
        · obtain ⟨x, u, rfl, inLevel, can, unseen, least⟩ := isNew t mem
          rw [mem_seen_extend, not_or] at unseen
          refine ⟨x, u, rfl, List.mem_cons_of_mem _ inLevel, can, unseen.1, ?_⟩
          intro v memV y newest leads
          rcases List.mem_cons.1 memV with rfl | memV
          · -- what the first trail leads to was taken up by it
            obtain rfl : file = y := by simpa using newest
            exact absurd ⟨leads, can⟩ unseen.2
          · exact least v memV y newest leads

/-- What holds between two levels of a search, `length` steps away from `start`: whatever can be
reached in so many steps was seen, the trails are in order, and each is the first that leads where
it leads. -/
structure Foremost (steps : Steps) (start : FileId) (allowed : FileId → Bool) (length : Nat)
    (level : List Trail) (seen : FileSet) : Prop where
  reached : ∀ way x, Walk steps.Leads start way x → way.length = length →
    (∀ y ∈ way, allowed y = true) → allowed x = true → x ∈ seen
  ordered : level.Pairwise (Before steps)
  first : ∀ x t way, x :: t ∈ level → Walk steps.Leads start way x → way.length = length →
    (∀ y ∈ way, allowed y = true) → NoLater steps (x :: t) (x :: way.reverse)

theorem foremost_start (steps : Steps) (start : FileId) (allowed : FileId → Bool) :
    Foremost steps start allowed 0 [[start]] ((∅ : FileSet).insert start) where
  reached := by
    intro way x walk size _ _
    obtain rfl := List.length_eq_zero_iff.1 size
    cases walk
    exact FileSet.mem_insert.2 (.inl rfl)
  ordered := List.pairwise_singleton _ _
  first := by
    intro x t way mem walk size _
    obtain rfl := List.length_eq_zero_iff.1 size
    obtain ⟨rfl, rfl⟩ := List.cons.inj (List.mem_singleton.1 mem)
    exact .inl rfl

/-- A walk of one step and more takes its last step from some file. -/
theorem exists_last_step {way : List FileId} (walk : Walk steps.Leads start way x)
    (size : way.length = length + 1) (inside : ∀ y ∈ way, allowed y = true) :
    ∃ front last, way = front ++ [last] ∧ Walk steps.Leads start front last ∧ steps.Leads last x ∧
      front.length = length ∧ (∀ y ∈ front, allowed y = true) ∧ allowed last = true := by
  obtain ⟨front, last, rfl⟩ : ∃ front last, way = front ++ [last] := by
    rcases List.eq_nil_or_concat' way with rfl | split
    · cases size
    · exact split
  obtain ⟨middle, walkFront, walkLast⟩ := walk.of_append
  cases walkLast with
  | cons leads rest =>
    cases rest
    refine ⟨front, last, rfl, walkFront, leads, ?_, ?_, inside last (by simp)⟩
    · simpa using size
    · exact fun y mem => inside y (List.mem_append_left _ mem)

/-- From a file that was seen the newest trail leads on, unless all that can be done from it is
done. -/
theorem Foremost.next (foremost : Foremost steps start allowed length level seen)
    (frontier : Frontier steps start goal allowed length level seen) :
    Foremost steps start allowed (length + 1)
      (steps.extendLevel allowed level ([], seen)).1.reverse
      (steps.extendLevel allowed level ([], seen)).2 := by
  obtain ⟨news, isTrails, ordered, isNew⟩ :=
    exists_trails_extendLevel allowed ([], seen) foremost.ordered
  rw [isTrails, List.append_nil, List.reverse_reverse]
  refine ⟨?_, ordered, ?_⟩
  · intro way x walk size inside can
    obtain ⟨front, last, rfl, walkFront, leads, size, inside, canLast⟩ :=
      exists_last_step walk size inside
    have seenLast := foremost.reached front last walkFront size inside canLast
    refine mem_seen_extendLevel.2 ?_
    rcases frontier.settled last seenLast with ⟨t, inLevel, newest⟩ | ⟨-, done⟩
    · exact .inr ⟨can, t, inLevel, last, newest, leads⟩
    · exact .inl (done x leads can)
  · intro x u way mem walk size inside
    obtain ⟨front, last, rfl, walkFront, leads, size, inside, canLast⟩ :=
      exists_last_step walk size inside
    obtain ⟨_, _, same, -, can, unseen, least⟩ := isNew _ mem
    obtain ⟨rfl, rfl⟩ := List.cons.inj same
    have seenLast := foremost.reached front last walkFront size inside canLast
    rcases frontier.settled last seenLast with ⟨t, inLevel, newest⟩ | ⟨-, done⟩
    · obtain ⟨before, rfl⟩ := List.head?_eq_some_iff.1 newest
      have first := foremost.first last before front inLevel walkFront size inside
      rw [List.reverse_append, List.reverse_singleton, List.singleton_append]
      exact ((least _ inLevel last newest leads).trans first).cons x
    · exact absurd (done x leads can) unseen

/-- The trail that is found is the first of all that lead to the goal in as many steps. -/
theorem noLater_of_searchLevels (foremost : Foremost steps start allowed length level seen)
    (frontier : Frontier steps start goal allowed length level seen)
    (found : steps.searchLevels goal allowed budget level seen = some t) {way : List FileId}
    (walk : Walk steps.Leads start way goal) (inside : ∀ x ∈ way, allowed x = true)
    (size : way.length = t.length) : NoLater steps t way.reverse := by
  induction budget generalizing length level seen with
  | zero => simp [searchLevels] at found
  | succ budget ih =>
    simp only [searchLevels] at found
    split at found
    · rename_i leading here
      obtain rfl := Option.some.inj found
      have inLevel := List.mem_of_find?_eq_some here
      rw [(frontier.trail _ inLevel).length_eq] at size
      obtain ⟨front, last, rfl, walkFront, leads, size, inside, canLast⟩ :=
        exists_last_step walk size inside
      have seenLast := foremost.reached front last walkFront size inside canLast
      rw [List.reverse_append, List.reverse_singleton, List.singleton_append]
      rcases frontier.settled last seenLast with ⟨u, inLevel', newest⟩ | ⟨notGoal, -⟩
      · obtain ⟨before, rfl⟩ := List.head?_eq_some_iff.1 newest
        have first := foremost.first last before front inLevel' walkFront size inside
        obtain ⟨-, earlier, later, rfl, misses⟩ := List.find?_eq_some_iff_append.1 here
        refine NoLater.trans ?_ first
        -- the other trail leads to the goal as well, so it does not stand before the one found
        rcases List.mem_append.1 inLevel' with mem | mem
        · have leadsTo : steps.leadsTo goal (last :: before) = true := leadsTo_cons.2 leads
          simpa [leadsTo] using misses _ mem
        · rcases List.mem_cons.1 mem with same | mem
          · exact .inl same.symm
          · have ordered := (List.pairwise_append.1 foremost.ordered).2.1
            exact .inr ((List.pairwise_cons.1 ordered).1 _ mem)
      · exact absurd leads notGoal
    · rename_i none
      split at found
      · simp at found
      · have misses := not_leads_of_find?_none none
        exact ih (foremost.next frontier) (frontier.next misses) found

/-- The path that is found is the first of all shortest ones. -/
theorem before_of_shortestPath? {maxSteps : Nat} {path other : List FileId}
    (can : allowed start = true) (apart : start ≠ goal)
    (found : steps.shortestPath? start goal allowed maxSteps = some path)
    (walk : Walk steps.Leads start other goal) (inside : ∀ x ∈ other, allowed x = true)
    (size : other.length = path.length) (differ : other ≠ path) :
    Before steps path.reverse other.reverse := by
  obtain ⟨t, search, rfl⟩ := Option.map_eq_some_iff.1 found
  rw [List.length_reverse] at size
  rw [List.reverse_reverse]
  rcases noLater_of_searchLevels (foremost_start steps start allowed) (frontier_start can apart)
    search walk inside size with same | before
  · exact absurd (by rw [same, List.reverse_reverse]) differ
  · exact before

end Steps

namespace ImportGraph

variable {graph : ImportGraph} {t u : Trail}

/-- The places that the imports along a path have among the imports of its files. -/
def choices (graph : ImportGraph) : List FileId → List Nat
  | [] => []
  | [_] => []
  | file :: next :: rest => (graph.targets file).idxOf next :: graph.choices (next :: rest)

theorem choices_concat (graph : ImportGraph) (front : List FileId) (file next : FileId) :
    graph.choices (front ++ [file] ++ [next]) =
      graph.choices (front ++ [file]) ++ [(graph.targets file).idxOf next] := by
  induction front with
  | nil => rfl
  | cons first front ih =>
    cases front with
    | nil => rfl
    | cons second front =>
      simp only [List.cons_append] at ih ⊢
      rw [choices, ih, choices, List.cons_append]

theorem length_choices (graph : ImportGraph) (path : List FileId) :
    (graph.choices path).length = path.length - 1 := by
  fun_induction choices graph path with
  | case1 => rfl
  | case2 => rfl
  | case3 file next rest ih =>
    rw [List.length_cons, ih]
    rfl

/-- Lists of one length keep their order whatever is put behind them. -/
theorem lex_append {a b : List Nat} (lex : List.Lex (· < ·) a b) (size : a.length = b.length)
    (c d : List Nat) : List.Lex (· < ·) (a ++ c) (b ++ d) := by
  induction lex with
  | nil => cases size
  | rel lt => exact .rel lt
  | cons _ ih => exact .cons (ih (Nat.succ.inj size))

/-- Where one trail comes before another, its choices are the smaller ones. -/
theorem lex_choices (before : Steps.Before graph.outgoing t u) (size : t.length = u.length) :
    List.Lex (· < ·) (graph.choices t.reverse) (graph.choices u.reverse) := by
  induction before with
  | @parted t u x y before ih =>
    have size := Nat.succ.inj size
    have lex := ih size
    obtain ⟨⟨file, front, rfl⟩, other, back, rfl⟩ := before.exists_cons
    have sizes : (graph.choices (front.reverse ++ [file])).length =
        (graph.choices (back.reverse ++ [other])).length := by
      simpa [length_choices] using size
    simp only [List.reverse_cons, choices_concat] at lex ⊢
    exact lex_append lex sizes _ _
  | @parting file x y t earlier =>
    rw [next_outgoing] at earlier
    simp only [List.reverse_cons, choices_concat]
    exact List.Lex.append_left _ (.rel earlier) _

end ImportGraph

end ImportCycles
