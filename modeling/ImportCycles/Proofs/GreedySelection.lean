import ImportCycles.Proofs.Runs

/-! # Checks select greedily

A check goes through the cycles that it finds, shortest first, and takes each one that shares no file
with what was named before, its trigger apart. What it takes is named from then on, so a cycle may be
left out for the sake of one that was taken earlier in the same check. The cycles taken keep out of each
other's way, none is left out without such a reason, and there is only one choice of which this is true.
-/

namespace ImportCycles

open FileId (inRoot)

/-- `chosen` is what remains of `cycles` if they are gone through in order, and each is taken unless a
member after its first is named or belongs to one that was taken already. -/
structure GreedySelection (named : FileId → Prop) (cycles chosen : List Cycle) : Prop where
  sublist : chosen.Sublist cycles
  unnamed : ∀ cycle ∈ chosen, ∀ x ∈ cycle.members.drop 1, ¬ named x
  apart : chosen.Pairwise fun earlier later => ∀ x ∈ later.members.drop 1, x ∉ earlier.members
  maximal : ∀ before cycle after, cycles = before ++ cycle :: after → cycle ∉ chosen →
    ∃ x ∈ cycle.members.drop 1, named x ∨ ∃ earlier ∈ before, earlier ∈ chosen ∧ x ∈ earlier.members

namespace GreedySelection

variable {named : FileId → Prop} {cycle : Cycle} {cycles chosen other : List Cycle}

/-- With a first cycle that is taken, the others are selected as if its members were named too. -/
theorem cons_taken (free : ∀ x ∈ cycle.members.drop 1, ¬ named x)
    (greedy : GreedySelection (fun x => named x ∨ x ∈ cycle.members) cycles chosen) :
    GreedySelection named (cycle :: cycles) (cycle :: chosen) where
  sublist := greedy.sublist.cons_cons cycle
  unnamed := by
    intro taken mem x inTaken
    rcases List.mem_cons.1 mem with rfl | mem
    · exact free x inTaken
    · exact fun known => greedy.unnamed taken mem x inTaken (.inl known)
  apart := by
    refine List.pairwise_cons.2 ⟨?_, greedy.apart⟩
    intro later mem x inLater inCycle
    exact greedy.unnamed later mem x inLater (.inr inCycle)
  maximal := by
    intro before left after divided notTaken
    cases before with
    | nil =>
      obtain ⟨rfl, _⟩ := List.cons.inj divided
      exact absurd List.mem_cons_self notTaken
    | cons first before =>
      obtain ⟨rfl, dividedRest⟩ := List.cons.inj divided
      obtain ⟨x, inLeft, (known | inFirst) | ⟨earlier, mem, taken, inEarlier⟩⟩ :=
        greedy.maximal before left after dividedRest (List.not_mem_of_not_mem_cons notTaken)
      · exact ⟨x, inLeft, .inl known⟩
      · exact ⟨x, inLeft, .inr ⟨cycle, List.mem_cons_self, List.mem_cons_self, inFirst⟩⟩
      · exact ⟨x, inLeft, .inr
          ⟨earlier, List.mem_cons_of_mem _ mem, List.mem_cons_of_mem _ taken, inEarlier⟩⟩

/-- A first cycle that is left out makes no difference to the others. -/
theorem cons_left {x : FileId} (inCycle : x ∈ cycle.members.drop 1) (known : named x)
    (greedy : GreedySelection named cycles chosen) :
    GreedySelection named (cycle :: cycles) chosen where
  sublist := greedy.sublist.cons cycle
  unnamed := greedy.unnamed
  apart := greedy.apart
  maximal := by
    intro before left after divided notTaken
    cases before with
    | nil =>
      obtain ⟨rfl, _⟩ := List.cons.inj divided
      exact ⟨x, inCycle, .inl known⟩
    | cons first before =>
      obtain ⟨rfl, dividedRest⟩ := List.cons.inj divided
      obtain ⟨x, inLeft, reason⟩ := greedy.maximal before left after dividedRest notTaken
      refine ⟨x, inLeft, reason.imp_right ?_⟩
      rintro ⟨earlier, mem, found⟩
      exact ⟨earlier, List.mem_cons_of_mem _ mem, found⟩

/-- The first cycle is taken exactly if no member after its first is named. What is said of the whole
selection is then true of the rest. -/
theorem of_cons (nodup : (cycle :: cycles).Nodup)
    (greedy : GreedySelection named (cycle :: cycles) chosen) :
    (∃ rest, chosen = cycle :: rest ∧ (∀ x ∈ cycle.members.drop 1, ¬ named x) ∧
        GreedySelection (fun x => named x ∨ x ∈ cycle.members) cycles rest) ∨
      (∃ x ∈ cycle.members.drop 1, named x) ∧ GreedySelection named cycles chosen := by
  obtain ⟨new, _⟩ := List.nodup_cons.1 nodup
  obtain ⟨sublist, unnamed, apart, maximal⟩ := greedy
  cases sublist with
  | cons _ sublist =>
    have notTaken : cycle ∉ chosen := fun mem => new (sublist.subset mem)
    have reason := maximal [] cycle cycles rfl notTaken
    refine .inr ⟨by simpa using reason, sublist, unnamed, apart, ?_⟩
    intro before left after divided out
    obtain ⟨x, inLeft, reason⟩ := maximal (cycle :: before) left after (by simp [divided]) out
    refine ⟨x, inLeft, reason.imp_right ?_⟩
    rintro ⟨earlier, mem, taken, inEarlier⟩
    have other : earlier ≠ cycle := fun same => notTaken (same ▸ taken)
    exact ⟨earlier, (List.mem_cons.1 mem).resolve_left other, taken, inEarlier⟩
  | @cons_cons rest _ _ sublist =>
    obtain ⟨apartFirst, apart⟩ := List.pairwise_cons.1 apart
    refine .inl ⟨rest, rfl, unnamed cycle List.mem_cons_self, sublist, ?_, apart, ?_⟩
    · intro taken mem x inTaken
      rintro (known | inFirst)
      · exact unnamed taken (List.mem_cons_of_mem _ mem) x inTaken known
      · exact apartFirst taken mem x inTaken inFirst
    · intro before left after divided out
      have apartLeft : left ≠ cycle := by
        rintro rfl
        exact new (by simp [divided])
      obtain ⟨x, inLeft, reason⟩ := maximal (cycle :: before) left after (by simp [divided])
        (by simp [apartLeft, out])
      refine ⟨x, inLeft, ?_⟩
      rcases reason with known | ⟨earlier, mem, taken, inEarlier⟩
      · exact .inl (.inl known)
      · rcases List.mem_cons.1 mem with rfl | later
        · exact .inl (.inr inEarlier)
        · have other : earlier ≠ cycle := by
            rintro rfl
            exact new (by simp [divided, later])
          exact .inr ⟨earlier, later, (List.mem_cons.1 taken).resolve_left other, inEarlier⟩

/-- There is only one greedy selection from cycles that are listed once. -/
theorem unique (nodup : cycles.Nodup) (greedy : GreedySelection named cycles chosen)
    (greedyOther : GreedySelection named cycles other) : chosen = other := by
  induction cycles generalizing named chosen other with
  | nil => rw [List.sublist_nil.1 greedy.sublist, List.sublist_nil.1 greedyOther.sublist]
  | cons cycle cycles ih =>
    have nodupRest := (List.nodup_cons.1 nodup).2
    rcases greedy.of_cons nodup with ⟨rest, rfl, free, greedy⟩ | ⟨⟨x, inCycle, known⟩, greedy⟩
    · rcases greedyOther.of_cons nodup with ⟨rest, rfl, _, greedyOther⟩ | ⟨⟨x, inCycle, known⟩, _⟩
      · rw [ih nodupRest greedy greedyOther]
      · exact absurd known (free x inCycle)
    · rcases greedyOther.of_cons nodup with ⟨_, _, free, _⟩ | ⟨_, greedyOther⟩
      · exact absurd known (free x inCycle)
      · exact ih nodupRest greedy greedyOther

/-- Nothing is selected exactly if every cycle has a named member after its first. -/
theorem eq_nil_iff (greedy : GreedySelection named cycles chosen) :
    chosen = [] ↔ ∀ cycle ∈ cycles, ∃ x ∈ cycle.members.drop 1, named x := by
  constructor
  · rintro rfl cycle mem
    obtain ⟨before, after, divided⟩ := List.append_of_mem mem
    obtain ⟨x, inDrop, known | ⟨_, _, taken, _⟩⟩ :=
      greedy.maximal before cycle after divided List.not_mem_nil
    · exact ⟨x, inDrop, known⟩
    · cases taken
  · intro passed
    refine List.eq_nil_iff_forall_not_mem.2 fun cycle taken => ?_
    obtain ⟨x, inDrop, known⟩ := passed cycle (greedy.sublist.subset taken)
    exact greedy.unnamed cycle taken x inDrop known

end GreedySelection

namespace Reported

variable {reported : Reported} {cycle : Cycle}

theorem isFresh_iff :
    reported.isFresh cycle = true ↔ ∀ x ∈ cycle.members.drop 1, ¬ reported.mentions x = true := by
  rw [isFresh, Bool.not_eq_true', List.any_eq_false]

/-- What a session reports of a list of cycles is the greedy selection from it. -/
theorem greedySelection_select (reported : Reported) (cycles : List Cycle) :
    GreedySelection (reported.mentions · = true) cycles (reported.select cycles).1 := by
  induction cycles generalizing reported with
  | nil => exact ⟨.slnil, nofun, .nil, by simp⟩
  | cons cycle cycles ih =>
    cases fresh : reported.isFresh cycle with
    | true =>
      rw [select_cons_fresh fresh]
      refine .cons_taken (isFresh_iff.1 fresh) ?_
      simpa only [mentions_insertAll] using ih (reported.insertAll cycle.members)
    | false =>
      rw [select_cons_stale fresh]
      rw [isFresh, Bool.not_eq_false', List.any_eq_true] at fresh
      obtain ⟨x, inCycle, known⟩ := fresh
      exact .cons_left inCycle known (ih reported)

end Reported

namespace Session

variable {session : Session} {file : FileId}

theorem nodup_cyclesAt (session : Session) (file : FileId) : (session.cyclesAt file).Nodup := by
  rw [cyclesAt_eq_shortestCycles]
  exact ImportGraph.nodup_shortestCycles _ _ _

theorem trigger?_of_mem_cyclesAt {cycle : Cycle} (mem : cycle ∈ session.cyclesAt file) :
    cycle.trigger? = some file := by
  rw [cyclesAt_eq_shortestCycles] at mem
  exact ImportGraph.trigger?_of_mem_shortestCycles mem

/-- A check returns the greedy selection from the cycles through the file, and no other choice is one.
All of them start at the file, so the members in question are those apart from it, and no two of the
cycles returned share one. An import of the file by itself is never left out. The check adds the members
of the cycles it returns to those that are named, and leaves the graph and the limit as they are. -/
theorem check_greedily (session : Session) (file : FileId) :
    (∀ chosen, GreedySelection (session.reported.mentions · = true) (session.cyclesAt file) chosen ↔
      chosen = (session.check file).1) ∧
      (∀ cycle ∈ session.cyclesAt file, cycle.trigger? = some file) ∧
      ((session.check file).1.Pairwise fun a b => (a.members.drop 1).Disjoint (b.members.drop 1)) ∧
      (⟨[file]⟩ ∈ session.cyclesAt file → ⟨[file]⟩ ∈ (session.check file).1) ∧
      (∀ x, (session.check file).2.reported.mentions x = true ↔
        session.reported.mentions x = true ∨ ∃ cycle ∈ (session.check file).1, x ∈ cycle.members) ∧
      (session.check file).2.graph = session.graph ∧
      (session.check file).2.depthLimit = session.depthLimit := by
  have greedy := Reported.greedySelection_select session.reported (session.cyclesAt file)
  refine ⟨?_, fun cycle => trigger?_of_mem_cyclesAt, ?_, ?_, ?_, rfl, rfl⟩
  · intro chosen
    constructor
    · intro isGreedy
      exact isGreedy.unique (session.nodup_cyclesAt file) greedy
    · rintro rfl
      exact greedy
  · refine greedy.apart.imp ?_
    intro a b apart x inA inB
    exact apart x inB (List.mem_of_mem_drop inA)
  · intro mem
    refine Decidable.of_not_not fun out => ?_
    obtain ⟨before, after, divided⟩ := List.append_of_mem mem
    obtain ⟨x, inDrop, _⟩ := greedy.maximal before _ after divided out
    simp at inDrop
  · exact Reported.mentions_select session.reported (session.cyclesAt file)

/-- A file that imports itself and is in two further cycles; the other file of one of them is named. -/
def hubSession : Session where
  graph := ⟨[⟨inRoot "a", inRoot "a", {}⟩, ⟨inRoot "a", inRoot "b", {}⟩,
    ⟨inRoot "a", inRoot "c", {}⟩, ⟨inRoot "b", inRoot "a", {}⟩, ⟨inRoot "c", inRoot "a", {}⟩]⟩
  reported := ⟨[inRoot "b"]⟩

theorem check_greedily_hub :
    hubSession.cyclesAt (inRoot "a") =
        [⟨[inRoot "a"]⟩, ⟨[inRoot "a", inRoot "b"]⟩, ⟨[inRoot "a", inRoot "c"]⟩] ∧
      ⟨[inRoot "a"]⟩ ∈ (hubSession.check (inRoot "a")).1 ∧
      (hubSession.check (inRoot "a")).1 = [⟨[inRoot "a"]⟩, ⟨[inRoot "a", inRoot "c"]⟩] := by
  have found : hubSession.cyclesAt (inRoot "a") =
      [⟨[inRoot "a"]⟩, ⟨[inRoot "a", inRoot "b"]⟩, ⟨[inRoot "a", inRoot "c"]⟩] := by cbv
  have returned : (hubSession.check (inRoot "a")).1 =
      [⟨[inRoot "a"]⟩, ⟨[inRoot "a", inRoot "c"]⟩] := by cbv
  have self : ⟨[inRoot "a"]⟩ ∈ hubSession.cyclesAt (inRoot "a") := by simp [found]
  exact ⟨found, (check_greedily hubSession (inRoot "a")).2.2.2.1 self, returned⟩

end Session

end ImportCycles
