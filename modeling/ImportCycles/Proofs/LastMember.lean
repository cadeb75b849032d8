import ImportCycles.Proofs.Components

/-! # What the last member of a cycle brings up

While no file changes, the graph after some of the analyses is the final one without the imports of
the files that are still to come. So a cycle is there as soon as the last of its members has been
analysed, and not before. The check of that member looks for the shortest way round that leaves it as
the cycle does. What it finds is returned, unless another file on that way belongs to a cycle that was
returned already. Where this cannot be, because no other cycle shares more with it than the last
member, it is the cycle itself that is returned.
-/

namespace ImportCycles

/-- Of `members` the file `last` is the last to come up in `files` for the first time. -/
def LastToAppear (files members : List FileId) (last : FileId) : Prop :=
  last ∈ members ∧ ∃ before after, files = before ++ last :: after ∧ last ∉ before ∧
    ∀ x ∈ members, x ∈ before ++ [last]

theorem exists_lastToAppear {files members : List FileId} (nonempty : members ≠ [])
    (inside : ∀ x ∈ members, x ∈ files) : ∃ last, LastToAppear files members last := by
  induction files using List.reverseRecOn with
  | nil =>
    obtain ⟨x, mem⟩ := List.exists_mem_of_ne_nil _ nonempty
    exact absurd (inside x mem) (by simp)
  | append_singleton front file ih =>
    by_cases earlier : ∀ x ∈ members, x ∈ front
    · obtain ⟨last, mem, before, after, rfl, new, known⟩ := ih earlier
      exact ⟨last, mem, before, after ++ [file], by simp, new, known⟩
    · push Not at earlier
      obtain ⟨x, mem, notFront⟩ := earlier
      have here : x = file := by simpa [notFront] using inside x mem
      subst here
      exact ⟨x, mem, front, [], rfl, notFront, inside⟩

/-- There is only one place where a list can be divided at the first occurrence of a file. -/
theorem LastToAppear.known {members before after : List FileId} {last : FileId}
    (appears : LastToAppear (before ++ last :: after) members last) (new : last ∉ before) :
    ∀ x ∈ members, x ∈ before ++ [last] := by
  obtain ⟨_, front, back, same, notFront, known⟩ := appears
  have place : front.length = before.length := by
    have positions := congrArg (List.idxOf last) same
    rw [List.idxOf_append_of_notMem new, List.idxOf_append_of_notMem notFront] at positions
    simpa using positions.symm
  rwa [List.append_inj_left same place.symm]

/-- Cycles that are rotations of each other and start at the same file are equal. -/
theorem Cycle.eq_of_isRotated {cycle other : Cycle} (same : cycle.members ~r other.members)
    (nodup : cycle.members.Nodup) (trigger : cycle.trigger? = other.trigger?) : cycle = other := by
  obtain ⟨members⟩ := cycle
  obtain ⟨others⟩ := other
  obtain ⟨n, rfl⟩ := same
  simp only [trigger?] at nodup trigger
  by_cases empty : members = []
  · simp [empty]
  · have positive : 0 < members.length := List.length_pos_iff.2 empty
    have bound : n % members.length < members.length := Nat.mod_lt n positive
    rw [← List.rotate_mod, List.head?_rotate bound, List.head?_eq_getElem?] at trigger
    have first : 0 = n % members.length := (List.getElem?_inj positive nodup).1 trigger
    rw [← List.rotate_mod, ← first, List.rotate_zero]

namespace ImportGraph

variable {graph larger : ImportGraph} {file next : FileId} {members : List FileId}

theorem RoundByFirst.eq_cons (round : graph.RoundByFirst file next members) :
    ∃ rest, members = file :: rest := by
  obtain ⟨rest, start, _⟩ := round
  exact ⟨rest, start⟩

/-- A file that goes on to itself is a cycle of its own. -/
theorem RoundByFirst.eq_singleton (round : graph.RoundByFirst file file members)
    (nodup : members.Nodup) : members = [file] := by
  obtain ⟨rest, rfl, _, walk⟩ := round
  cases walk with
  | nil => rfl
  | cons _ _ => simp at nodup

theorem RoundByFirst.mono (round : graph.RoundByFirst file next members)
    (grows : ∀ a b, graph.Imports a b → larger.Imports a b) :
    larger.RoundByFirst file next members := by
  obtain ⟨rest, rfl, step, walk⟩ := round
  exact ⟨rest, rfl, grows _ _ step, walk.imp fun a b _ => grows a b⟩

theorem SimpleCycle.ne_nil (isCycle : graph.SimpleCycle members) : members ≠ [] := by
  obtain ⟨_, _, nonempty, _⟩ := isCycle
  exact nonempty

/-- The cycle `members`, wherever it is written from, goes from `file` on to `next`. -/
def Takes (graph : ImportGraph) (members : List FileId) (file next : FileId) : Prop :=
  ∃ rotated, rotated ~r members ∧ graph.RoundByFirst file next rotated

theorem Takes.mono (takes : graph.Takes members file next)
    (grows : ∀ a b, graph.Imports a b → larger.Imports a b) : larger.Takes members file next := by
  obtain ⟨rotated, same, round⟩ := takes
  exact ⟨rotated, same, round.mono grows⟩

theorem SimpleCycle.exists_takes (isCycle : graph.SimpleCycle members) (mem : file ∈ members) :
    ∃ next, graph.Takes members file next := by
  obtain ⟨_, _, closed⟩ := isCycle
  obtain ⟨rotated, same, round⟩ := closed.rotate mem
  obtain ⟨next, round⟩ := round.roundByFirst
  exact ⟨next, rotated, same, round⟩

end ImportGraph

/-- The graph that analyses leave in a session that starts from nothing. -/
def graphAfter (limit : Nat) (history : List Analysis) : ImportGraph :=
  ((Session.new limit).analyseAll history).2.graph

/-- All the cycles that analyses return in a session that starts from nothing. -/
def returnedAfter (limit : Nat) (history : List Analysis) : List Cycle :=
  ((Session.new limit).analyseAll history).1

/-- The cycles that one analysis returns when `past` has gone before it. -/
def returnedBy (limit : Nat) (past : List Analysis) (analysis : Analysis) : List Cycle :=
  (((Session.new limit).analyseAll past).2.analyse analysis.file analysis.imports).1

variable {limit : Nat} {past rest history : List Analysis} {analysis : Analysis}
  {cycle : Cycle} {members : List FileId}

theorem returnedAfter_append_singleton :
    returnedAfter limit (past ++ [analysis]) =
      returnedAfter limit past ++ returnedBy limit past analysis := by
  simp [returnedAfter, returnedBy, Session.analyseAll_append, Session.analyseAll]

theorem returnedAfter_subset : returnedAfter limit past ⊆ returnedAfter limit (past ++ rest) := by
  rw [returnedAfter, returnedAfter, Session.analyseAll_append]
  exact List.subset_append_left _ _

/-- Analyses go on where those before them have left off. -/
theorem returnedAfter_append (limit : Nat) (past rest : List Analysis) :
    ∃ later, returnedAfter limit (past ++ rest) = returnedAfter limit past ++ later ∧
      ∀ cycle ∈ later, ∃ front analysis back, rest = front ++ analysis :: back ∧
        cycle ∈ returnedBy limit (past ++ front) analysis := by
  refine ⟨_, congrArg Prod.fst (Session.analyseAll_append _ past rest), ?_⟩
  intro cycle mem
  obtain ⟨front, analysis, back, rfl, returned⟩ := Session.exists_of_mem_analyseAll mem
  refine ⟨front, analysis, back, rfl, ?_⟩
  rwa [returnedBy, Session.analyseAll_append]

theorem mem_returnedAfter (mem : cycle ∈ returnedBy limit past analysis) :
    cycle ∈ returnedAfter limit (past ++ analysis :: rest) := by
  rw [List.append_cons]
  refine returnedAfter_subset ?_
  rw [returnedAfter_append_singleton]
  exact List.mem_append_right _ mem

theorem returnedBy_eq_select (steady : Steady past) :
    returnedBy limit past analysis =
      (((Session.new limit).analyseAll past).2.reported.select
        ((graphAfter limit (past ++ [analysis])).shortestCycles analysis.file limit)).1 := by
  have selects := Session.analyse_eq_select ((Session.new limit).analyseAll past).2 analysis.file
    analysis.imports
  rw [(accounted_of_steady limit steady).limit_eq] at selects
  rw [graphAfter, Session.analyseAll_append]
  exact congrArg Prod.fst selects

/-- What an analysis returns are cycles through its file, in the graph as it then is. -/
theorem mem_shortestCycles_of_mem_returnedBy (steady : Steady past)
    (mem : cycle ∈ returnedBy limit past analysis) :
    cycle ∈ (graphAfter limit (past ++ [analysis])).shortestCycles analysis.file limit := by
  rw [returnedBy_eq_select steady] at mem
  exact (Reported.select_sublist _ _).subset mem

theorem trigger?_of_mem_returnedBy (steady : Steady past)
    (mem : cycle ∈ returnedBy limit past analysis) : cycle.trigger? = some analysis.file := by
  have closed := ImportGraph.closedWalk_of_mem_shortestCycles
    (mem_shortestCycles_of_mem_returnedBy steady mem)
  obtain ⟨_, rest, members, _⟩ := closed.roundByFirst
  simp [Cycle.trigger?, members]

/-- The imports of a file are there once it has been analysed. -/
theorem imports_graphAfter_append (limit : Nat) (steady : Steady (past ++ rest)) (a b : FileId) :
    (graphAfter limit past).Imports a b ↔
      (graphAfter limit (past ++ rest)).Imports a b ∧ a ∈ past.map (·.file) := by
  have whole := (accounted_of_steady limit steady).imports a b
  have part := (accounted_of_steady limit (steady.mono (List.subset_append_left past rest))).imports
    a b
  rw [graphAfter, graphAfter, whole, part]
  constructor
  · rintro ⟨other, mem, atFile, target⟩
    exact ⟨⟨other, List.mem_append_left _ mem, atFile, target⟩,
      List.mem_map.2 ⟨other, mem, atFile⟩⟩
  · rintro ⟨⟨other, mem, atFile, target⟩, known⟩
    obtain ⟨early, memEarly, atEarly⟩ := List.mem_map.1 known
    have alike : early.imports = other.imports :=
      steady early (List.mem_append_left _ memEarly) other mem (atEarly.trans atFile.symm)
    exact ⟨early, memEarly, atEarly, alike ▸ target⟩

/-- A cycle is there once all its members have been analysed. -/
theorem simpleCycle_graphAfter_append (steady : Steady (past ++ rest)) :
    (graphAfter limit past).SimpleCycle members ↔
      (graphAfter limit (past ++ rest)).SimpleCycle members ∧
        ∀ x ∈ members, x ∈ past.map (·.file) := by
  have imports := imports_graphAfter_append limit steady
  constructor
  · intro isCycle
    refine ⟨isCycle.mono fun a b step => ((imports a b).1 step).1, ?_⟩
    intro x mem
    obtain ⟨_, _, closed⟩ := isCycle
    obtain ⟨y, step⟩ := closed.2.exists_link mem
    exact ((imports x y).1 step).2
  · rintro ⟨⟨nodup, file, nonempty, walk⟩, known⟩
    refine ⟨nodup, file, nonempty, walk.imp ?_⟩
    intro a b mem step
    exact (imports a b).2 ⟨step, known a mem⟩

theorem lastToAppear_map (rest : List Analysis) (mem : analysis.file ∈ members)
    (new : analysis.file ∉ past.map (·.file))
    (known : ∀ x ∈ members, x ∈ (past ++ [analysis]).map (·.file)) :
    LastToAppear ((past ++ analysis :: rest).map (·.file)) members analysis.file :=
  ⟨mem, past.map (·.file), rest.map (·.file), by simp, new, by simpa using known⟩

/-- Some analysis is the first of the last member of a cycle. -/
theorem exists_last_analysis (steady : Steady history)
    (isCycle : (graphAfter limit history).SimpleCycle members) :
    ∃ past analysis rest, history = past ++ analysis :: rest ∧ analysis.file ∈ members ∧
      analysis.file ∉ past.map (·.file) ∧
      ∀ x ∈ members, x ∈ (past ++ [analysis]).map (·.file) := by
  have imported : ∀ x ∈ members, x ∈ history.map (·.file) := by
    rw [← List.append_nil history] at steady
    exact ((simpleCycle_graphAfter_append steady).1 isCycle).2
  obtain ⟨last, mem, before, after, divided, new, known⟩ :=
    exists_lastToAppear isCycle.ne_nil imported
  obtain ⟨past, tail, rfl, rfl, cut⟩ := List.map_eq_append_iff.1 divided
  obtain ⟨analysis, rest, rfl, rfl, _⟩ := List.map_eq_cons_iff.1 cut
  exact ⟨past, analysis, rest, rfl, mem, new, by simpa using known⟩

theorem sound_returnedAfter (steady : Steady history) (mem : cycle ∈ returnedAfter limit history) :
    (graphAfter limit history).SimpleCycle cycle.members ∧ cycle.size ≤ limit :=
  (accounted_of_steady limit steady).sound cycle mem

/-- The analysis of a member of a cycle that is there finds a way round that is no longer and leaves
the member by the same import. It returns it unless another file on it was named before. -/
theorem exists_round_of_analysis (steady : Steady (past ++ [analysis]))
    (isCycle : (graphAfter limit (past ++ [analysis])).SimpleCycle members)
    (within : members.length ≤ limit) (mem : analysis.file ∈ members) :
    ∃ next cycle, (graphAfter limit (past ++ [analysis])).Takes members analysis.file next ∧
      (graphAfter limit (past ++ [analysis])).RoundByFirst analysis.file next cycle.members ∧
      cycle.members.Nodup ∧ cycle.size ≤ members.length ∧
      (cycle ∈ returnedBy limit past analysis ∨ ∃ x ∈ cycle.members.drop 1,
        ∃ other ∈ returnedAfter limit (past ++ [analysis]), x ∈ other.members) := by
  have steadyPast : Steady past := steady.mono (List.subset_append_left _ _)
  obtain ⟨next, rotated, same, round⟩ := isCycle.exists_takes mem
  have size : rotated.length = members.length := same.perm.length_eq
  obtain ⟨cycle, found, _, shortest⟩ :=
    ImportGraph.exists_shortest_byFirst round (size.trans_le within)
  refine ⟨next, cycle, ⟨rotated, same, round⟩, shortest.1, (ImportGraph.of_mem_shortestCycles
    found).1, (shortest.2 rotated round).trans_eq size, ?_⟩
  rw [returnedAfter_append_singleton, returnedBy_eq_select steadyPast]
  rcases Reported.mem_select_or_mentions found with fresh | ⟨x, inDrop, named⟩
  · exact .inl fresh
  · refine .inr ⟨x, inDrop, ?_⟩
    rcases (Reported.mentions_select _ _ _).1 named with old | ⟨other, fresh, inOther⟩
    · obtain ⟨other, before, inOther⟩ := ((accounted_of_steady limit steadyPast).named x).1 old
      exact ⟨other, List.mem_append_left _ before, inOther⟩
    · exact ⟨other, List.mem_append_right _ fresh, inOther⟩

/-- Seen from the end of a run: the first analysis of the last member of a cycle returns a way round
that is no longer and leaves the member by the same import, or another file on it is named. -/
theorem exists_round_last (steady : Steady (past ++ analysis :: rest))
    (isCycle : (graphAfter limit (past ++ analysis :: rest)).SimpleCycle members)
    (within : members.length ≤ limit) (mem : analysis.file ∈ members)
    (known : ∀ x ∈ members, x ∈ (past ++ [analysis]).map (·.file)) :
    ∃ next cycle, (graphAfter limit (past ++ analysis :: rest)).Takes members analysis.file next ∧
      (graphAfter limit (past ++ analysis :: rest)).RoundByFirst analysis.file next cycle.members ∧
      cycle.members.Nodup ∧ cycle.size ≤ members.length ∧
      (cycle ∈ returnedBy limit past analysis ∨ ∃ x ∈ cycle.members.drop 1,
        ∃ other ∈ returnedAfter limit (past ++ analysis :: rest), x ∈ other.members) := by
  rw [List.append_cons] at steady isCycle ⊢
  have grows : ∀ a b, (graphAfter limit (past ++ [analysis])).Imports a b →
      (graphAfter limit (past ++ [analysis] ++ rest)).Imports a b :=
    fun a b step => ((imports_graphAfter_append limit steady a b).1 step).1
  obtain ⟨next, cycle, takes, round, nodup, size, outcome⟩ := exists_round_of_analysis
    (steady.mono (List.subset_append_left _ _))
    ((simpleCycle_graphAfter_append steady).2 ⟨isCycle, known⟩) within mem
  refine ⟨next, cycle, takes.mono grows, round.mono grows, nodup, size, outcome.imp_right ?_⟩
  rintro ⟨x, inDrop, other, before, inOther⟩
  exact ⟨x, inDrop, other, returnedAfter_subset before, inOther⟩

/-- A cycle of the final graph is returned by the first analysis of the last of its members, provided
no other cycle shares more with it than this member. -/
theorem exists_returnedBy_last (steady : Steady (past ++ analysis :: rest))
    (isCycle : (graphAfter limit (past ++ analysis :: rest)).SimpleCycle members)
    (within : members.length ≤ limit) (mem : analysis.file ∈ members)
    (new : analysis.file ∉ past.map (·.file))
    (known : ∀ x ∈ members, x ∈ (past ++ [analysis]).map (·.file))
    (alone : ∀ other, (graphAfter limit (past ++ analysis :: rest)).SimpleCycle other →
      other.length ≤ limit → (∃ x ∈ members, x ≠ analysis.file ∧ x ∈ other) → other ~r members) :
    ∃ cycle ∈ returnedBy limit past analysis, cycle.members ~r members := by
  rw [List.append_cons] at steady isCycle alone
  have steadyHere : Steady (past ++ [analysis]) := steady.mono (List.subset_append_left _ _)
  have lift : ∀ {other}, (graphAfter limit (past ++ [analysis])).SimpleCycle other →
      (graphAfter limit (past ++ [analysis] ++ rest)).SimpleCycle other :=
    fun isCycle => ((simpleCycle_graphAfter_append steady).1 isCycle).1
  obtain ⟨next, cycle, ⟨rotated, same, roundMembers⟩, round, nodup, size, outcome⟩ :=
    exists_round_of_analysis steadyHere ((simpleCycle_graphAfter_append steady).2 ⟨isCycle, known⟩)
      within mem
  have found : (graphAfter limit (past ++ [analysis])).SimpleCycle cycle.members :=
    ⟨nodup, _, round.closedWalk⟩
  obtain ⟨way, start⟩ := round.eq_cons
  have trigger : cycle.trigger? = some analysis.file := by simp [Cycle.trigger?, start]
  -- The way round that was found is the cycle itself, because both pass through `next`.
  have itself : cycle.members ~r members := by
    by_cases loop : next = analysis.file
    · subst loop
      have single := round.eq_singleton nodup
      rw [single, ← roundMembers.eq_singleton (same.nodup_iff.2 isCycle.1)]
      exact same
    · exact alone _ (lift found) (size.trans within)
        ⟨next, same.mem_iff.1 roundMembers.next_mem, loop, round.next_mem⟩
  refine ⟨cycle, ?_, itself⟩
  rcases outcome with returned | ⟨x, inDrop, other, before, inOther⟩
  · exact returned
  · -- The cycle that stands in its way would be the same one, and that is not returned before.
    have apart : x ≠ analysis.file := by
      rw [start] at inDrop nodup
      exact fun here => (List.nodup_cons.1 nodup).1 (here ▸ inDrop)
    have inMembers : x ∈ members := itself.mem_iff.1 (List.mem_of_mem_drop inDrop)
    obtain ⟨otherCycle, otherWithin⟩ := sound_returnedAfter steadyHere before
    have sameOther : other.members ~r members :=
      alone other.members (lift otherCycle) otherWithin ⟨x, inMembers, apart, inOther⟩
    have steadyPast : Steady past := steadyHere.mono (List.subset_append_left _ _)
    rw [returnedAfter_append_singleton] at before
    rcases List.mem_append.1 before with old | here
    · have early := (simpleCycle_graphAfter_append steadyHere).1
        (sound_returnedAfter steadyPast old).1
      exact absurd (early.2 _ (sameOther.mem_iff.2 mem)) new
    · have equal : cycle = other := Cycle.eq_of_isRotated (itself.trans sameOther.symm) nodup
        (trigger.trans (trigger?_of_mem_returnedBy steadyPast here).symm)
      exact equal ▸ here

end ImportCycles
