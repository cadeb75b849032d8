import ImportCycles.Proofs.Runs
import Mathlib.Data.List.Rotate

/-! # Reported cycles keep apart

A run is any sequence of calls: imports come and go in whatever order, and files are checked in
between. As long as nothing is forgotten, the named files are the members of the cycles returned so
far, and each cycle shares no file with an earlier one, except perhaps the file it was found from. So
no cycle of several files comes up again, from whichever of its members it is found.
-/

namespace ImportCycles

open FileId (inRoot)

/-- What a session is asked to do in the course of a run. -/
inductive Call where
  | forgetImports (file : FileId)
  | recordImport (source target : FileId) (location : Location)
  | check (file : FileId)
  deriving DecidableEq, Repr

namespace Session

/-- Answers one call. Only a check returns cycles. -/
def answer (session : Session) : Call → List Cycle × Session
  | .forgetImports file => ([], session.forgetImports file)
  | .recordImport source target location => ([], session.recordImport source target location)
  | .check file => session.check file

/-- Answers calls one after the other, and gives all the cycles that are returned. -/
def answerAll (session : Session) : List Call → List Cycle × Session
  | [] => ([], session)
  | call :: rest =>
    let (found, session) := session.answer call
    let (others, session) := session.answerAll rest
    (found ++ others, session)

end Session

/-- What holds in a run that has returned the cycles `found`: just their members are named, and none
of them shares a file other than its first with one before it. -/
structure Apart (found : List Cycle) (reported : Reported) : Prop where
  named : ∀ x, reported.mentions x = true ↔ ∃ cycle ∈ found, x ∈ cycle.members
  apart : found.Pairwise fun earlier later => ∀ x ∈ later.members.drop 1, x ∉ earlier.members

variable {found : List Cycle} {reported : Reported} {cycle : Cycle} {session : Session}

/-- A fresh cycle can be reported. -/
theorem Apart.report (apart : Apart found reported) (fresh : reported.isFresh cycle = true) :
    Apart (found ++ [cycle]) (reported.insertAll cycle.members) := by
  constructor
  · intro x
    rw [Reported.mentions_insertAll, apart.named]
    simp only [List.mem_append, List.mem_singleton, or_and_right, exists_or, exists_eq_left]
  · rw [List.pairwise_append]
    refine ⟨apart.apart, List.pairwise_singleton _ _, ?_⟩
    intro earlier before later last x inLater inEarlier
    obtain rfl := List.mem_singleton.1 last
    have named : reported.mentions x = true := (apart.named x).2 ⟨earlier, before, inEarlier⟩
    have known : (later.members.drop 1).any reported.mentions = true :=
      List.any_eq_true.2 ⟨x, inLater, named⟩
    rw [Reported.isFresh, known] at fresh
    cases fresh

/-- A selection keeps the reported cycles apart, each being judged after those before it. -/
theorem Apart.select (apart : Apart found reported) (cycles : List Cycle) :
    Apart (found ++ (reported.select cycles).1) (reported.select cycles).2 := by
  induction cycles generalizing found reported with
  | nil => simpa [Reported.select] using apart
  | cons cycle cycles ih =>
    cases fresh : reported.isFresh cycle with
    | true =>
      rw [Reported.select_cons_fresh fresh, List.append_cons]
      exact ih (apart.report fresh)
    | false =>
      rw [Reported.select_cons_stale fresh]
      exact ih apart

theorem Apart.answer (apart : Apart found session.reported) (call : Call) :
    Apart (found ++ (session.answer call).1) (session.answer call).2.reported := by
  cases call with
  | forgetImports file => simpa [Session.answer, Session.forgetImports] using apart
  | recordImport source target location =>
    simpa [Session.answer, Session.recordImport] using apart
  | check file => exact apart.select (session.cyclesAt file)

theorem Apart.answerAll (apart : Apart found session.reported) (calls : List Call) :
    Apart (found ++ (session.answerAll calls).1) (session.answerAll calls).2.reported := by
  induction calls generalizing found session with
  | nil => simpa [Session.answerAll] using apart
  | cons call calls ih =>
    simp only [Session.answerAll, ← List.append_assoc]
    exact ih (apart.answer call)

/-- Files that keep out of each other's way are not the same cycle, wherever it is entered. -/
theorem Cycle.not_isRotated_of_apart {earlier later : Cycle} (several : 2 ≤ earlier.size)
    (apart : ∀ x ∈ later.members.drop 1, x ∉ earlier.members) :
    ¬ earlier.members ~r later.members := by
  intro same
  have size : later.members.length = earlier.members.length := same.perm.length_eq.symm
  obtain ⟨second, inDrop⟩ : ∃ x, x ∈ later.members.drop 1 := by
    refine List.exists_mem_of_length_pos ?_
    rw [List.length_drop, size]
    exact Nat.sub_pos_of_lt several
  exact apart second inDrop (same.mem_iff.2 (List.mem_of_mem_drop inDrop))

/-- The cycles of a run keep apart. Wherever a run stands, its named files are the members of the
cycles returned so far, and a cycle that is returned after another one, in the same check or later,
has at most its trigger in common with it. So no cycle of two or more files is returned twice, nor is
a rotation of it. -/
theorem reported_cycles_apart (session : Session) (calls : List Call)
    (unnamed : session.reported = {}) :
    (∀ past, past <+: calls → ∀ x, (session.answerAll past).2.reported.mentions x = true ↔
      ∃ cycle ∈ (session.answerAll past).1, x ∈ cycle.members) ∧
      (session.answerAll calls).1.Pairwise (fun earlier later =>
        ∀ x ∈ later.members, later.trigger? ≠ some x → x ∉ earlier.members) ∧
      (session.answerAll calls).1.Pairwise (fun earlier later =>
        2 ≤ earlier.size → ¬ earlier.members ~r later.members) := by
  have start : Apart [] session.reported := by
    rw [unnamed]
    exact ⟨by simp [Reported.mentions], .nil⟩
  have apart := (start.answerAll calls).apart
  rw [List.nil_append] at apart
  refine ⟨?_, apart.imp ?_, apart.imp ?_⟩
  · intro past _
    exact (start.answerAll past).named
  · intro earlier later apart x mem notTrigger
    refine apart x ?_
    obtain ⟨members⟩ := later
    cases members with
    | nil => simp at mem
    | cons first rest =>
      have other : x ≠ first := fun same => notTrigger (congrArg some same.symm)
      exact (List.mem_cons.1 mem).resolve_left other
  · intro earlier later apart several
    exact Cycle.not_isRotated_of_apart several apart

/-- A file that lies on two cycles is checked when it closes the first, and again when it closes the
second. -/
def hubCalls : List Call :=
  [.recordImport (inRoot "a") (inRoot "b") {}, .recordImport (inRoot "b") (inRoot "a") {},
    .check (inRoot "a"), .recordImport (inRoot "a") (inRoot "c") {},
    .recordImport (inRoot "c") (inRoot "a") {}, .check (inRoot "a"), .check (inRoot "b")]

/-- The two cycles share their trigger, and the second check does not bring up the first again. -/
theorem reported_cycles_apart_hub :
    ((Session.new 50).answerAll hubCalls).1 =
        [⟨[inRoot "a", inRoot "b"]⟩, ⟨[inRoot "a", inRoot "c"]⟩] ∧
      (∀ x, ((Session.new 50).answerAll hubCalls).2.reported.mentions x = true ↔
        ∃ cycle ∈ ((Session.new 50).answerAll hubCalls).1, x ∈ cycle.members) ∧
      ((Session.new 50).answerAll hubCalls).1.Pairwise (fun earlier later =>
        ∀ x ∈ later.members, later.trigger? ≠ some x → x ∉ earlier.members) := by
  obtain ⟨named, apart, _⟩ := reported_cycles_apart (Session.new 50) hubCalls rfl
  exact ⟨by cbv, named hubCalls List.prefix_rfl, apart⟩

end ImportCycles
