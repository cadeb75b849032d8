import ImportCycles.Lint.Linter
import ImportCycles.Proofs.Edges
import ImportCycles.Proofs.ShortestCycles

/-! # Runs

A run is a list of analyses, carried out one after the other. What is reported in it is decided by
what was reported before: a cycle that is passed over shares a member with a reported one. The linter
runs the same analyses and turns the cycles into diagnostics.
-/

namespace ImportCycles

namespace Reported

variable {reported : Reported} {cycle : Cycle} {cycles : List Cycle} {x : FileId}

/-- Remembering files adds them to those that are named. -/
theorem mentions_insertAll (files : List FileId) :
    (reported.insertAll files).mentions x = true ↔ reported.mentions x = true ∨ x ∈ files := by
  unfold insertAll
  induction files generalizing reported with
  | nil => simp
  | cons file rest ih =>
    rw [List.foldl_cons, ih]
    by_cases known : file ∈ reported.files
    · rw [if_pos known]
      by_cases same : x = file
      · simp [mentions, same, known]
      · simp [same]
    · rw [if_neg known]
      simp [mentions, or_assoc]

theorem select_cons_fresh (fresh : reported.isFresh cycle = true) :
    reported.select (cycle :: cycles) =
      (cycle :: ((reported.insertAll cycle.members).select cycles).1,
        ((reported.insertAll cycle.members).select cycles).2) := by
  simp only [select, judge, fresh, if_true]

theorem select_cons_stale (stale : reported.isFresh cycle = false) :
    reported.select (cycle :: cycles) = reported.select cycles := by
  simp only [select, judge, stale, Bool.false_eq_true, if_false]

/-- What is reported is among what was found, in the same order. -/
theorem select_sublist (reported : Reported) (cycles : List Cycle) :
    (reported.select cycles).1.Sublist cycles := by
  induction cycles generalizing reported with
  | nil => exact .slnil
  | cons cycle cycles ih =>
    cases fresh : reported.isFresh cycle with
    | true =>
      rw [select_cons_fresh fresh]
      exact (ih _).cons_cons cycle
    | false =>
      rw [select_cons_stale fresh]
      exact (ih _).cons cycle

/-- After a selection those files are named that were named before or are members of a cycle that it
reports. -/
theorem mentions_select (reported : Reported) (cycles : List Cycle) (x : FileId) :
    (reported.select cycles).2.mentions x = true ↔
      reported.mentions x = true ∨ ∃ cycle ∈ (reported.select cycles).1, x ∈ cycle.members := by
  induction cycles generalizing reported with
  | nil => simp [select]
  | cons cycle cycles ih =>
    cases fresh : reported.isFresh cycle with
    | true =>
      rw [select_cons_fresh fresh, ih, mentions_insertAll, or_assoc]
      simp only [List.mem_cons, exists_eq_or_imp]
    | false => rw [select_cons_stale fresh, ih]

/-- A cycle that a selection passes over has a member that is named in the end, apart from the file
it was found from. -/
theorem mem_select_or_mentions (mem : cycle ∈ cycles) :
    cycle ∈ (reported.select cycles).1 ∨
      ∃ member ∈ cycle.members.drop 1, (reported.select cycles).2.mentions member = true := by
  induction cycles generalizing reported with
  | nil => simp at mem
  | cons first cycles ih =>
    cases fresh : reported.isFresh first with
    | true =>
      rw [select_cons_fresh fresh]
      rcases List.mem_cons.1 mem with rfl | mem
      · exact .inl (by simp)
      · exact (ih mem).imp_left (List.mem_cons_of_mem _)
    | false =>
      rw [select_cons_stale fresh]
      rcases List.mem_cons.1 mem with rfl | mem
      · simp only [isFresh, Bool.not_eq_false', List.any_eq_true] at fresh
        obtain ⟨member, inCycle, named⟩ := fresh
        exact .inr ⟨member, inCycle, (mentions_select _ _ _).2 (.inl named)⟩
      · exact ih mem

end Reported

namespace Session

/-- The question whether a file is on a cycle changes nothing: where it is answered by no there is
nothing to find. -/
theorem cyclesAt_eq_shortestCycles (session : Session) (file : FileId) :
    session.cyclesAt file = session.graph.shortestCycles file session.depthLimit := by
  unfold cyclesAt
  split
  · rfl
  · rename_i offCycle
    exact (ImportGraph.shortestCycles_eq_nil (Bool.eq_false_iff.2 offCycle) _).symm

/-- Recording imports leaves the reports and the limit alone. -/
theorem recordImports_frame (session : Session) (file : FileId) (imports : List (FileId × Location)) :
    (imports.foldl (fun s (target, location) => s.recordImport file target location)
        session).reported = session.reported ∧
      (imports.foldl (fun s (target, location) => s.recordImport file target location)
        session).depthLimit = session.depthLimit := by
  induction imports generalizing session with
  | nil => exact ⟨rfl, rfl⟩
  | cons first rest ih => exact ih _

/-- An analysis finds the cycles of the graph that it leaves. -/
theorem analyse_eq_select (session : Session) (file : FileId) (imports : List (FileId × Location)) :
    session.analyse file imports =
      ((session.reported.select
          ((session.analyse file imports).2.graph.shortestCycles file session.depthLimit)).1,
        { session with
          graph := (session.analyse file imports).2.graph
          reported := (session.reported.select
            ((session.analyse file imports).2.graph.shortestCycles file session.depthLimit)).2 }) := by
  obtain ⟨reported, depthLimit⟩ := recordImports_frame (session.forgetImports file) file imports
  simp only [analyse, check, cyclesAt_eq_shortestCycles]
  rw [reported, depthLimit]
  rfl

/-- An analysis returns some of the shortest cycles through its file, in their order. -/
theorem analyse_sublist (session : Session) (file : FileId) (imports : List (FileId × Location)) :
    (session.analyse file imports).1.Sublist
      ((session.analyse file imports).2.graph.shortestCycles file session.depthLimit) := by
  rw [congrArg Prod.fst (analyse_eq_select session file imports)]
  exact Reported.select_sublist _ _

end Session

/-- One analysis: a file, and what it imports where. -/
structure Analysis where
  file : FileId
  imports : List (FileId × Location)
  deriving DecidableEq, Repr

/-- Every file has the same import list each time it is analysed. -/
def Steady (history : List Analysis) : Prop :=
  ∀ a ∈ history, ∀ b ∈ history, a.file = b.file → a.imports = b.imports

theorem Steady.mono {history past : List Analysis} (steady : Steady history)
    (subset : past ⊆ history) : Steady past :=
  fun a memA b memB => steady a (subset memA) b (subset memB)

namespace Session

/-- Carries out analyses one after the other, and gives all the cycles they return. -/
def analyseAll (session : Session) : List Analysis → List Cycle × Session
  | [] => ([], session)
  | analysis :: rest =>
    let (found, session) := session.analyse analysis.file analysis.imports
    let (others, session) := session.analyseAll rest
    (found ++ others, session)

theorem analyseAll_append (session : Session) (past rest : List Analysis) :
    session.analyseAll (past ++ rest) =
      ((session.analyseAll past).1 ++ ((session.analyseAll past).2.analyseAll rest).1,
        ((session.analyseAll past).2.analyseAll rest).2) := by
  induction past generalizing session with
  | nil => rfl
  | cons analysis past ih => simp only [List.cons_append, analyseAll, ih, List.append_assoc]

/-- Whatever a run returns is returned by one of its analyses. -/
theorem exists_of_mem_analyseAll {session : Session} {history : List Analysis} {cycle : Cycle}
    (mem : cycle ∈ (session.analyseAll history).1) :
    ∃ past analysis rest, history = past ++ analysis :: rest ∧
      cycle ∈ ((session.analyseAll past).2.analyse analysis.file analysis.imports).1 := by
  induction history generalizing session with
  | nil => simp [analyseAll] at mem
  | cons analysis rest ih =>
    rcases List.mem_append.1 mem with here | later
    · exact ⟨[], analysis, rest, rfl, here⟩
    · obtain ⟨past, other, rest, rfl, returned⟩ := ih later
      exact ⟨analysis :: past, other, rest, rfl, returned⟩

end Session

/-- The analysis that linting a scanned file comes to. -/
def ScannedFile.analysis (resolve : Resolve) (scanned : ScannedFile) : Analysis :=
  ⟨scanned.file, Linter.resolved resolve scanned.file scanned.imports⟩

theorem ScannedFile.file_of_read {disk : Disk} {file : FileId} {scanned : ScannedFile}
    (read : (ScannedFile.read disk file).toOption = some scanned) : scanned.file = file := by
  unfold ScannedFile.read at read
  cases text : disk.readText file.path with
  | error _ => simp [text, Except.map, Except.toOption] at read
  | ok source =>
    simp only [text, Except.map, Except.toOption, Option.some.injEq] at read
    rw [← read]

namespace Linter

/-- Linting files runs their analyses, reports the cycles these return and keeps the root. -/
theorem lintScanned_eq (linter : Linter) (resolve : Resolve) (scanned : List ScannedFile) :
    (linter.lintScanned resolve scanned).1.map (·.cycle) =
        (linter.session.analyseAll (scanned.map (·.analysis resolve))).1 ∧
      (linter.lintScanned resolve scanned).2 =
        { linter with session :=
            (linter.session.analyseAll (scanned.map (·.analysis resolve))).2 } := by
  induction scanned generalizing linter with
  | nil => exact ⟨rfl, rfl⟩
  | cons first rest ih =>
    obtain ⟨cycles, linted⟩ :=
      ih (linter.lintStatements resolve first.file first.imports first.source).2
    refine ⟨?_, linted⟩
    simp only [lintScanned, List.map_append, List.map_cons, Session.analyseAll]
    rw [cycles]
    simp only [lintStatements, List.map_map]
    congr 1
    exact List.map_id _

/-- A disk has one text for each file, so its files are analysed alike each time. -/
theorem steady_readable (disk : Disk) (resolve : Resolve) (files : List FileId) :
    Steady ((readable disk files).map (·.analysis resolve)) := by
  have reads : ∀ scanned ∈ readable disk files,
      (ScannedFile.read disk scanned.file).toOption = some scanned := by
    intro scanned mem
    obtain ⟨file, _, read⟩ := List.mem_filterMap.1 mem
    rw [ScannedFile.file_of_read read, read]
  intro a memA b memB sameFile
  obtain ⟨first, memFirst, rfl⟩ := List.mem_map.1 memA
  obtain ⟨second, memSecond, rfl⟩ := List.mem_map.1 memB
  have readFirst := reads first memFirst
  have sameFile : first.file = second.file := sameFile
  rw [sameFile, reads second memSecond] at readFirst
  rw [Option.some.inj readFirst]

section Files

variable {disk : Disk} {resolve : Resolve} {files : List FileId}

theorem session_lintFiles (linter : Linter) (disk : Disk) (resolve : Resolve)
    (files : List FileId) :
    (linter.lintFiles disk resolve files).2.session =
      (linter.session.analyseAll ((readable disk files).map (·.analysis resolve))).2 :=
  congrArg Linter.session (lintScanned_eq linter resolve (readable disk files)).2

/-- Linting files comes to the graph, and reports the cycles, of the analyses of those that can be
read. -/
theorem graph_lintFiles {linter final : Linter} {report : LintReport}
    (linted : linter.lintFiles disk resolve files = (report, final)) :
    report.diagnostics.map (·.cycle) =
        (linter.session.analyseAll ((readable disk files).map (·.analysis resolve))).1 ∧
      final.graph =
        (linter.session.analyseAll ((readable disk files).map (·.analysis resolve))).2.graph := by
  have state := session_lintFiles linter disk resolve files
  rw [linted] at state
  refine ⟨?_, congrArg Session.graph state⟩
  rw [← (lintScanned_eq linter resolve (readable disk files)).1]
  exact congrArg (fun outcome => outcome.1.diagnostics.map (·.cycle)) linted.symm

theorem readable_append (disk : Disk) (before after : List FileId) :
    readable disk (before ++ after) = readable disk before ++ readable disk after :=
  List.filterMap_append

/-- The analyses come in the order in which the files are given. -/
theorem exists_file_of_readable {past rest : List Analysis} {analysis : Analysis}
    (divided : (readable disk files).map (·.analysis resolve) = past ++ analysis :: rest) :
    ∃ before after, files = before ++ analysis.file :: after ∧
      past = (readable disk before).map (·.analysis resolve) ∧
      [analysis] = (readable disk [analysis.file]).map (·.analysis resolve) ∧
      rest = (readable disk after).map (·.analysis resolve) := by
  obtain ⟨front, tail, scanned, rfl, cut⟩ := List.map_eq_append_iff.1 divided
  obtain ⟨first, back, rfl, rfl, rfl⟩ := List.map_eq_cons_iff.1 cut
  obtain ⟨before, others, rfl, rfl, read⟩ := List.filterMap_eq_append_iff.1 scanned
  obtain ⟨skipped, file, after, rfl, unread, readFirst, rfl⟩ := List.filterMap_eq_cons_iff.1 read
  obtain rfl : first.file = file := ScannedFile.file_of_read readFirst
  have none : readable disk skipped = [] := List.filterMap_eq_nil_iff.2 unread
  refine ⟨before ++ skipped, after, ?_, ?_, ?_, rfl⟩
  · exact (List.append_assoc _ _ _).symm
  · rw [readable_append, none, List.append_nil]
    rfl
  · simp [readable, ScannedFile.analysis, readFirst]

theorem mem_files_readable {x : FileId} :
    x ∈ ((readable disk files).map (·.analysis resolve)).map (·.file) ↔
      x ∈ files ∧ (ScannedFile.read disk x).toOption.isSome = true := by
  simp only [readable, List.mem_map, List.mem_filterMap, Option.isSome_iff_exists]
  constructor
  · rintro ⟨_, ⟨scanned, ⟨file, mem, read⟩, rfl⟩, rfl⟩
    obtain rfl : scanned.file = file := ScannedFile.file_of_read read
    exact ⟨mem, scanned, read⟩
  · rintro ⟨mem, scanned, read⟩
    exact ⟨_, ⟨scanned, ⟨x, mem, read⟩, rfl⟩, ScannedFile.file_of_read read⟩

end Files

end Linter

end ImportCycles
