import ImportCycles.Proofs.LastMember

/-! # Rings are returned exactly once

Where each file imports at most one other, the imports form rings with tails, and a file is on one
ring at most. Clients that share a session take turns, each with the whole analysis of a file, so what
they do together is a sequence of analyses in some order. Whatever the order is, each ring within the
depth limit is returned by the analysis of the last of its members, written from that member, and by
no other.
-/

namespace ImportCycles

open FileId (inRoot)

/-- The import list names one file at most, however often it does so. -/
def Analysis.LeadsToOne (analysis : Analysis) : Prop :=
  ∀ first ∈ analysis.imports, ∀ second ∈ analysis.imports, first.1 = second.1

/-- Each file is linked to one file at most. -/
def Functional (link : FileId → FileId → Prop) : Prop :=
  ∀ a b c, link a b → link a c → b = c

/-- Links that leave no choice lead to a file in one way only. -/
theorem Walk.eq_of_functional {link : FileId → FileId → Prop} (functional : Functional link)
    {a goal : FileId} {files others : List FileId} (walk : Walk link a files goal)
    (other : Walk link a others goal) (avoids : goal ∉ files) (otherAvoids : goal ∉ others) :
    files = others := by
  induction walk generalizing others with
  | nil =>
    cases other with
    | nil => rfl
    | cons _ _ => simp at otherAvoids
  | cons step _ ih =>
    cases other with
    | nil => simp at avoids
    | cons otherStep other =>
      rw [functional _ _ _ otherStep step] at other
      rw [ih other (List.not_mem_of_not_mem_cons avoids) (List.not_mem_of_not_mem_cons otherAvoids)]

namespace ImportGraph

variable {graph : ImportGraph} {file : FileId} {members others : List FileId}

theorem ClosedWalk.eq_of_functional (functional : Functional graph.Imports)
    (closed : graph.ClosedWalk file members) (nodup : members.Nodup)
    (other : graph.ClosedWalk file others) (otherNodup : others.Nodup) : members = others := by
  obtain ⟨next, rest, rfl, step, walk⟩ := closed.roundByFirst
  obtain ⟨otherNext, otherRest, rfl, otherStep, otherWalk⟩ := other.roundByFirst
  rw [functional _ _ _ otherStep step] at otherWalk
  rw [Walk.eq_of_functional functional walk otherWalk (List.nodup_cons.1 nodup).1
    (List.nodup_cons.1 otherNodup).1]

/-- Two rings that have a file in common are the same. -/
theorem SimpleCycle.isRotated_of_functional (functional : Functional graph.Imports)
    (isCycle : graph.SimpleCycle members) (isOther : graph.SimpleCycle others)
    (mem : file ∈ members) (memOther : file ∈ others) : others ~r members := by
  obtain ⟨nodup, _, closed⟩ := isCycle
  obtain ⟨nodupOther, _, closedOther⟩ := isOther
  obtain ⟨rotated, same, round⟩ := closed.rotate mem
  obtain ⟨rotatedOther, sameOther, roundOther⟩ := closedOther.rotate memOther
  have equal := round.eq_of_functional functional (same.nodup_iff.2 nodup) roundOther
    (sameOther.nodup_iff.2 nodupOther)
  exact sameOther.symm.trans (equal ▸ same)

end ImportGraph

variable {limit : Nat} {past rest history : List Analysis} {analysis : Analysis}
  {cycle : Cycle} {members : List FileId}

theorem functional_graphAfter (steady : Steady history)
    (single : ∀ analysis ∈ history, analysis.LeadsToOne) :
    Functional (graphAfter limit history).Imports := by
  intro a b c toB toC
  have imports := (accounted_of_steady limit steady).imports
  obtain ⟨first, memFirst, atFirst, targetB⟩ := (imports a b).1 toB
  obtain ⟨second, memSecond, atSecond, targetC⟩ := (imports a c).1 toC
  rw [steady second memSecond first memFirst (atSecond.trans atFirst.symm)] at targetC
  obtain ⟨entryB, inB, rfl⟩ := List.mem_map.1 targetB
  obtain ⟨entryC, inC, rfl⟩ := List.mem_map.1 targetC
  exact single first memFirst entryB inB entryC inC

/-- Files that are analysed once each are not seen in two versions. -/
theorem steady_of_nodup (once : (history.map (·.file)).Nodup) : Steady history := by
  intro a memA b memB same
  rw [List.inj_on_of_nodup_map once memA memB same]

theorem not_mem_past_of_nodup (once : ((past ++ analysis :: rest).map (·.file)).Nodup) :
    analysis.file ∉ past.map (·.file) := by
  rw [List.map_append, List.nodup_append] at once
  exact fun old => once.2.2 _ old analysis.file (by simp) rfl

/-- Whatever the analysis of a file returns is a cycle of the final graph, and the file is the last of
its members. -/
theorem of_mem_returnedBy (once : ((past ++ analysis :: rest).map (·.file)).Nodup)
    (mem : cycle ∈ returnedBy limit past analysis) :
    (graphAfter limit (past ++ analysis :: rest)).SimpleCycle cycle.members ∧ cycle.size ≤ limit ∧
      cycle.trigger? = some analysis.file ∧
      LastToAppear ((past ++ analysis :: rest).map (·.file)) cycle.members analysis.file := by
  have steady := steady_of_nodup once
  have steadyPast : Steady past := steady.mono (List.subset_append_left _ _)
  have found := mem_shortestCycles_of_mem_returnedBy steadyPast mem
  have trigger := trigger?_of_mem_returnedBy steadyPast mem
  have isCycle := ImportGraph.simpleCycle_of_mem_shortestCycles found
  rw [List.append_cons] at steady
  obtain ⟨final, known⟩ := (simpleCycle_graphAfter_append steady).1 isCycle
  rw [← List.append_cons] at final
  exact ⟨final, (ImportGraph.of_mem_shortestCycles found).2.1, trigger,
    lastToAppear_map rest (List.mem_of_mem_head? trigger) (not_mem_past_of_nodup once) known⟩

/-- The ring is returned by the analysis of its last member. -/
theorem exists_returnedBy_of_lastToAppear
    (once : ((past ++ analysis :: rest).map (·.file)).Nodup)
    (single : ∀ other ∈ past ++ analysis :: rest, other.LeadsToOne)
    (isCycle : (graphAfter limit (past ++ analysis :: rest)).SimpleCycle members)
    (within : members.length ≤ limit)
    (last : LastToAppear ((past ++ analysis :: rest).map (·.file)) members analysis.file) :
    ∃ cycle ∈ returnedBy limit past analysis, cycle.members ~r members := by
  have steady := steady_of_nodup once
  have new := not_mem_past_of_nodup once
  rw [List.map_append, List.map_cons] at last
  refine exists_returnedBy_last steady isCycle within last.1 new ?_ ?_
  · simpa using last.known new
  · rintro other isOther _ ⟨x, inMembers, _, inOther⟩
    exact isCycle.isRotated_of_functional (functional_graphAfter steady single) isOther inMembers
      inOther

/-- That analysis returns nothing else. -/
theorem returnedBy_eq_singleton (once : ((past ++ analysis :: rest).map (·.file)).Nodup)
    (single : ∀ other ∈ past ++ analysis :: rest, other.LeadsToOne)
    (mem : cycle ∈ returnedBy limit past analysis) : returnedBy limit past analysis = [cycle] := by
  have steady := steady_of_nodup once
  have steadyPast : Steady past := steady.mono (List.subset_append_left _ _)
  have nodup : (returnedBy limit past analysis).Nodup := by
    rw [returnedBy_eq_select steadyPast]
    exact (ImportGraph.nodup_shortestCycles _ _ _).sublist (Reported.select_sublist _ _)
  refine List.perm_singleton.1 ((List.perm_ext_iff_of_nodup nodup (List.nodup_singleton _)).2 ?_)
  intro other
  rw [List.mem_singleton]
  constructor
  · intro memOther
    obtain ⟨isCycle, _, trigger, _⟩ := of_mem_returnedBy once mem
    obtain ⟨isOther, _, triggerOther, _⟩ := of_mem_returnedBy once memOther
    have same := isCycle.isRotated_of_functional (functional_graphAfter steady single) isOther
      (List.mem_of_mem_head? trigger) (List.mem_of_mem_head? triggerOther)
    exact Cycle.eq_of_isRotated same isOther.1 (triggerOther.trans trigger.symm)
  · rintro rfl
    exact mem

/-- No other analysis returns the ring. -/
theorem countP_returnedAfter (once : ((past ++ analysis :: rest).map (·.file)).Nodup)
    (last : LastToAppear ((past ++ analysis :: rest).map (·.file)) members analysis.file)
    (returned : returnedBy limit past analysis = [cycle]) (same : cycle.members ~r members) :
    (returnedAfter limit (past ++ analysis :: rest)).countP (·.members ~r members) = 1 := by
  have steady := steady_of_nodup once
  have new := not_mem_past_of_nodup once
  rw [List.map_append, List.map_cons, List.nodup_append, List.nodup_cons] at once
  obtain ⟨_, ⟨notRest, _⟩, apart⟩ := once
  obtain ⟨later, whole, fromRest⟩ := returnedAfter_append limit (past ++ [analysis]) rest
  rw [List.append_cons, whole, returnedAfter_append_singleton, returned]
  -- Before, the last member has no imports yet; afterwards no other member comes up.
  have before : (returnedAfter limit past).countP (·.members ~r members) = 0 := by
    refine List.countP_eq_zero.2 ?_
    intro other mem rotated
    have early := (sound_returnedAfter (steady.mono (List.subset_append_left _ _)) mem).1
    have known := ((simpleCycle_graphAfter_append steady).1 early).2
    exact new (known _ ((of_decide_eq_true rotated).mem_iff.2 last.1))
  have after : later.countP (·.members ~r members) = 0 := by
    refine List.countP_eq_zero.2 ?_
    intro other mem rotated
    obtain ⟨front, next, back, rfl, found⟩ := fromRest other mem
    have early : past ++ [analysis] ++ front <+: past ++ analysis :: (front ++ next :: back) :=
      ⟨next :: back, by simp⟩
    have trigger := trigger?_of_mem_returnedBy (steady.mono early.subset) found
    have member : next.file ∈ members :=
      (of_decide_eq_true rotated).mem_iff.1 (List.mem_of_mem_head? trigger)
    have comes : next.file ∈ (front ++ next :: back).map (·.file) := by simp
    rw [List.map_append, List.map_cons] at last
    rcases List.mem_append.1 (last.known new _ member) with old | here
    · exact apart _ old _ (List.mem_cons_of_mem _ comes) rfl
    · exact notRest (List.mem_singleton.1 here ▸ comes)
  simp [before, after, same]

/-- Rings are returned exactly once. Where each file imports at most one other, and each is analysed
once, in any order, an analysis returns just those cycles of the resulting graph within the limit of
which its file is the last member, written from that file. So each cycle within the limit is all that
the analysis of its last member returns, and among all the cycles returned it is found just once. -/
theorem rings_returned_once (limit : Nat) (analyses : List Analysis)
    (once : (analyses.map (·.file)).Nodup)
    (single : ∀ analysis ∈ analyses, analysis.LeadsToOne) :
    (∀ past analysis rest, analyses = past ++ analysis :: rest → ∀ cycle,
      cycle ∈ returnedBy limit past analysis ↔
        (graphAfter limit analyses).SimpleCycle cycle.members ∧ cycle.size ≤ limit ∧
          cycle.trigger? = some analysis.file ∧
          LastToAppear (analyses.map (·.file)) cycle.members analysis.file) ∧
      ∀ members, (graphAfter limit analyses).SimpleCycle members → members.length ≤ limit →
        (∃ past analysis rest, analyses = past ++ analysis :: rest ∧
          LastToAppear (analyses.map (·.file)) members analysis.file ∧
          ∃ cycle, returnedBy limit past analysis = [cycle] ∧ cycle.members ~r members ∧
            cycle.trigger? = some analysis.file) ∧
        (returnedAfter limit analyses).countP (·.members ~r members) = 1 := by
  constructor
  · rintro past analysis rest rfl cycle
    constructor
    · exact of_mem_returnedBy once
    · rintro ⟨isCycle, within, trigger, last⟩
      obtain ⟨other, mem, same⟩ :=
        exists_returnedBy_of_lastToAppear once single isCycle within last
      obtain ⟨isOther, _, triggerOther, _⟩ := of_mem_returnedBy once mem
      have equal : other = cycle :=
        Cycle.eq_of_isRotated same isOther.1 (triggerOther.trans trigger.symm)
      exact equal ▸ mem
  · intro members isCycle within
    obtain ⟨past, analysis, rest, rfl, member, new, known⟩ :=
      exists_last_analysis (steady_of_nodup once) isCycle
    have appears := lastToAppear_map rest member new known
    obtain ⟨cycle, mem, same⟩ :=
      exists_returnedBy_of_lastToAppear once single isCycle within appears
    have returned := returnedBy_eq_singleton once single mem
    exact ⟨⟨past, analysis, rest, rfl, appears, cycle, returned, same,
      (of_mem_returnedBy once mem).2.2.1⟩, countP_returnedAfter once appears returned same⟩

/-- A ring of three files with a tail, and a file that imports itself. -/
def ringsWithTail : List Analysis :=
  [⟨inRoot "c", [(inRoot "a", {})]⟩, ⟨inRoot "tail", [(inRoot "a", {})]⟩,
    ⟨inRoot "a", [(inRoot "b", {})]⟩, ⟨inRoot "self", [(inRoot "self", {})]⟩,
    ⟨inRoot "b", [(inRoot "c", {}), (inRoot "c", {})]⟩]

theorem rings_returned_once_tail :
    (ringsWithTail.map (·.file)).Nodup ∧ (∀ analysis ∈ ringsWithTail, analysis.LeadsToOne) ∧
      (graphAfter 3 ringsWithTail).SimpleCycle [inRoot "a", inRoot "b", inRoot "c"] ∧
      (returnedAfter 3 ringsWithTail).countP
        (·.members ~r [inRoot "a", inRoot "b", inRoot "c"]) = 1 := by
  have once : (ringsWithTail.map (·.file)).Nodup := by decide
  have single : ∀ analysis ∈ ringsWithTail, analysis.LeadsToOne := by
    simp [ringsWithTail, Analysis.LeadsToOne]
  have ab : (graphAfter 3 ringsWithTail).Imports (inRoot "a") (inRoot "b") := by decide
  have bc : (graphAfter 3 ringsWithTail).Imports (inRoot "b") (inRoot "c") := by decide
  have ca : (graphAfter 3 ringsWithTail).Imports (inRoot "c") (inRoot "a") := by decide
  have ring : (graphAfter 3 ringsWithTail).SimpleCycle [inRoot "a", inRoot "b", inRoot "c"] :=
    ⟨by decide, inRoot "a", by simp, .cons ab (.cons bc (.single ca))⟩
  exact ⟨once, single, ring,
    ((rings_returned_once 3 ringsWithTail once single).2 _ ring (by decide)).2⟩

end ImportCycles
