import ImportCycles.Proofs.Components

/-! # Imports that an edit is about to remove

A linter that keeps its graph between runs lints the files of a new run one after the other. While it
checks one of them the later ones still have the imports of their earlier versions. So each reported
cycle is one of the graph at the moment of its check. It is one of the final graph as well, unless a
file that is linted later has dropped an import that the cycle takes.
-/

namespace ImportCycles

open FileId (inRoot)

namespace Session

variable {session : Session} {past rest history : List Analysis} {a b : FileId}

@[simp] theorem graph_forgetReports : session.forgetReports.graph = session.graph := rfl

@[simp] theorem depthLimit_forgetReports :
    session.forgetReports.depthLimit = session.depthLimit := rfl

@[simp] theorem reported_forgetReports : session.forgetReports.reported = {} := rfl

/-- A file that is analysed imports what its import list names, the others what they did before. -/
theorem imports_analyseAll (steady : Steady history) :
    (session.analyseAll history).2.graph.Imports a b ↔
      (∃ analysis ∈ history, analysis.file = a ∧ b ∈ analysis.imports.map (·.1)) ∨
        a ∉ history.map (·.file) ∧ session.graph.Imports a b := by
  induction history generalizing session with
  | nil => simp [analyseAll]
  | cons analysis rest ih =>
    have steadyRest : Steady rest := steady.mono (List.subset_cons_self _ _)
    simp only [analyseAll]
    rw [ih steadyRest, imports_analyse, List.map_cons, List.mem_cons, not_or]
    constructor
    · rintro (⟨other, mem, atFile, target⟩ | ⟨notLater, step⟩)
      · exact .inl ⟨other, List.mem_cons_of_mem _ mem, atFile, target⟩
      · by_cases here : a = analysis.file
        · rw [if_pos here] at step
          exact .inl ⟨analysis, List.mem_cons_self, here.symm, step⟩
        · rw [if_neg here] at step
          exact .inr ⟨⟨here, notLater⟩, step⟩
    · rintro (⟨other, mem, atFile, target⟩ | ⟨⟨notHere, notLater⟩, step⟩)
      · by_cases later : a ∈ rest.map (·.file)
        · -- The last analysis of the file counts, and it has the same import list.
          obtain ⟨last, memLast, atLast⟩ := List.mem_map.1 later
          have alike : other.imports = last.imports :=
            steady other mem last (List.mem_cons_of_mem _ memLast) (atFile.trans atLast.symm)
          exact .inl ⟨last, memLast, atLast, alike ▸ target⟩
        · rcases List.mem_cons.1 mem with rfl | mem
          · exact .inr ⟨later, by rwa [if_pos atFile.symm]⟩
          · exact absurd (List.mem_map.2 ⟨other, mem, atFile⟩) later
      · exact .inr ⟨notLater, by rwa [if_neg notHere]⟩

/-- An import is lost only where its file comes up later for the first time. -/
theorem imports_append_or_stale (steady : Steady (past ++ rest))
    (step : (session.analyseAll past).2.graph.Imports a b) :
    (session.analyseAll (past ++ rest)).2.graph.Imports a b ∨
      session.graph.Imports a b ∧ a ∈ rest.map (·.file) ∧ a ∉ past.map (·.file) := by
  have steadyPast : Steady past := steady.mono (List.subset_append_left _ _)
  rw [imports_analyseAll steady]
  rcases (imports_analyseAll steadyPast).1 step with ⟨other, mem, found⟩ | ⟨notPast, before⟩
  · exact .inl (.inl ⟨other, List.mem_append_left _ mem, found⟩)
  · by_cases later : a ∈ rest.map (·.file)
    · exact .inr ⟨before, later, notPast⟩
    · refine .inl (.inr ⟨?_, before⟩)
      rw [List.map_append, List.mem_append]
      exact fun mem => mem.elim notPast later

/-- Whatever a run returns is a closed walk at the moment of its check. -/
theorem closedWalk_of_mem_analyseAll {cycle : Cycle}
    (mem : cycle ∈ (session.analyseAll history).1) :
    ∃ past analysis rest, history = past ++ analysis :: rest ∧
      (session.analyseAll (past ++ [analysis])).2.graph.ClosedWalk analysis.file cycle.members := by
  obtain ⟨past, analysis, rest, rfl, returned⟩ := exists_of_mem_analyseAll mem
  refine ⟨past, analysis, rest, rfl, ?_⟩
  rw [analyseAll_append]
  exact ImportGraph.closedWalk_of_mem_shortestCycles ((analyse_sublist _ _ _).subset returned)

/-- The first check of a run reports a cycle if there is a short one through the file. -/
theorem analyse_ne_nil {file : FileId} {imports : List (FileId × Location)} {walk : List FileId}
    (quiet : session.reported = {})
    (closed : (session.analyse file imports).2.graph.ClosedWalk file walk)
    (within : walk.length ≤ session.depthLimit) : (session.analyse file imports).1 ≠ [] := by
  rw [congrArg Prod.fst (analyse_eq_select session file imports), quiet]
  have found := ImportGraph.shortestCycles_ne_nil_iff.2 ⟨walk, closed, within⟩
  cases cycles : (session.analyse file imports).2.graph.shortestCycles file session.depthLimit with
  | nil => exact absurd cycles found
  | cons cycle others =>
    have fresh : ({} : Reported).isFresh cycle = true := by
      simp [Reported.isFresh, Reported.mentions]
    rw [Reported.select_cons_fresh fresh]
    exact List.cons_ne_nil _ _

end Session

namespace Linter

variable {linter final : Linter} {disk : Disk} {resolve : Resolve} {files before after : List FileId}
  {report : LintReport} {a b : FileId}

theorem imports_lintFiles_or_stale
    (step : (linter.lintFiles disk resolve before).2.graph.Imports a b) :
    (linter.lintFiles disk resolve (before ++ after)).2.graph.Imports a b ∨
      linter.graph.Imports a b ∧ a ∈ after ∧ a ∉ before := by
  have steady := steady_readable disk resolve (before ++ after)
  rw [readable_append, List.map_append] at steady
  rw [graph, session_lintFiles] at step ⊢
  rw [readable_append, List.map_append]
  refine (Session.imports_append_or_stale steady step).imp_right ?_
  rintro ⟨old, later, new⟩
  rw [mem_files_readable] at later new
  exact ⟨old, later.1, fun early => new ⟨early, later.2⟩⟩

theorem exists_check (linted : linter.lintFiles disk resolve files = (report, final)) :
    ∀ diagnostic ∈ report.diagnostics, ∃ before file after, files = before ++ file :: after ∧
      (linter.lintFiles disk resolve (before ++ [file])).2.graph.ClosedWalk file
        diagnostic.cycle.members := by
  intro diagnostic inReport
  have returned : diagnostic.cycle ∈
      (linter.session.analyseAll ((readable disk files).map (·.analysis resolve))).1 := by
    rw [← (graph_lintFiles linted).1]
    exact List.mem_map.2 ⟨diagnostic, inReport, rfl⟩
  obtain ⟨past, analysis, rest, divided, closed⟩ := Session.closedWalk_of_mem_analyseAll returned
  obtain ⟨before, after, split, pastRead, here, _⟩ := exists_file_of_readable divided
  refine ⟨before, analysis.file, after, split, ?_⟩
  rwa [graph, session_lintFiles, readable_append, List.map_append, ← pastRead, ← here]

/-- Each cycle of a report is a closed walk of the graph in which its file was checked. Of its imports
the final graph may lack those of files that come up later: they were recorded before the run, and an
edit has dropped them. So every cycle of the report is still there if no import has been lost. -/
theorem reported_cycle_closed
    (linted : linter.lintFiles disk resolve files = (report, final)) :
    (∀ diagnostic ∈ report.diagnostics, ∃ before file after, files = before ++ file :: after ∧
        (linter.lintFiles disk resolve (before ++ [file])).2.graph.ClosedWalk file
          diagnostic.cycle.members ∧
        ∀ link ∈ diagnostic.cycle.links, final.graph.Imports link.1 link.2 ∨
          linter.graph.Imports link.1 link.2 ∧ link.1 ∈ after ∧ link.1 ∉ before ++ [file]) ∧
      ((∀ a b, linter.graph.Imports a b → final.graph.Imports a b) →
        ∀ diagnostic ∈ report.diagnostics, ∃ file ∈ files,
          final.graph.ClosedWalk file diagnostic.cycle.members) := by
  have outcome : ∀ before file after, files = before ++ file :: after → ∀ a b,
      (linter.lintFiles disk resolve (before ++ [file])).2.graph.Imports a b →
        final.graph.Imports a b ∨ linter.graph.Imports a b ∧ a ∈ after ∧ a ∉ before ++ [file] := by
    rintro before file after rfl a b step
    rw [List.append_cons] at linted
    have ends : (linter.lintFiles disk resolve (before ++ [file] ++ after)).2 = final :=
      congrArg Prod.snd linted
    rw [← ends]
    exact imports_lintFiles_or_stale step
  constructor
  · intro diagnostic inReport
    obtain ⟨before, file, after, split, closed⟩ := exists_check linted diagnostic inReport
    refine ⟨before, file, after, split, closed, ?_⟩
    intro link mem
    exact outcome before file after split _ _ (closed.links link mem)
  · intro kept diagnostic inReport
    obtain ⟨before, file, after, split, closed⟩ := exists_check linted diagnostic inReport
    refine ⟨file, by simp [split], closed.1, closed.2.imp ?_⟩
    intro a b _ step
    rcases outcome before file after split a b step with still | ⟨old, _⟩
    · exact still
    · exact kept a b old

end Linter

/-- Two sources that import each other. -/
def mutualDisk : Disk where
  root := .file (.text "a") (.text "import './b'") <|
    .file (.text "b") (.text "import './a'") .empty
  cwd := some "/"

/-- The same sources after the second one has lost its import. -/
def loosenedDisk : Disk where
  root := .file (.text "a") (.text "import './b'") <| .file (.text "b") (.text "") .empty
  cwd := some "/"

def firstAnalysis : Analysis := ⟨inRoot "a", [(inRoot "b", ⟨0, 12, 1, 1⟩)]⟩

def mutualAnalyses : List Analysis :=
  [firstAnalysis, ⟨inRoot "b", [(inRoot "a", ⟨0, 12, 1, 1⟩)]⟩]

/-- A linter that has linted the two sources and is about to begin another run. -/
def mutualLinter : Linter :=
  ((Linter.new (some "/") 50 none).lintFiles mutualDisk
    (Resolver.resolve mutualDisk defaultExtensions) [inRoot "a", inRoot "b"]).2.forgetReports

theorem session_mutualLinter :
    mutualLinter.session = ((Session.new 50).analyseAll mutualAnalyses).2.forgetReports :=
  congrArg Session.forgetReports (Linter.session_lintFiles _ mutualDisk _ _)

theorem steady_mutualAnalyses : Steady mutualAnalyses := by
  simp [Steady, mutualAnalyses, firstAnalysis, inRoot]

theorem imports_mutualLinter {a b : FileId} : mutualLinter.graph.Imports a b ↔
    ∃ analysis ∈ mutualAnalyses, analysis.file = a ∧ b ∈ analysis.imports.map (·.1) := by
  rw [Linter.graph, session_mutualLinter, Session.graph_forgetReports,
    Session.imports_analyseAll steady_mutualAnalyses]
  exact or_iff_left fun other => not_imports_new 50 a b other.2

/-- If the first source comes first and is as before, a cycle is reported, whatever comes later. -/
theorem exists_reported_mutualLinter {disk : Disk} {resolve : Resolve} {files : List FileId}
    {rest : List Analysis} {report : LintReport} {final : Linter}
    (linted : mutualLinter.lintFiles disk resolve files = (report, final))
    (analyses : (Linter.readable disk files).map (·.analysis resolve) = firstAnalysis :: rest) :
    ∃ diagnostic, diagnostic ∈ report.diagnostics := by
  have ab : (mutualLinter.session.analyse firstAnalysis.file firstAnalysis.imports).2.graph.Imports
      (inRoot "a") (inRoot "b") := by
    simp [Session.imports_analyse, firstAnalysis]
  have ba : (mutualLinter.session.analyse firstAnalysis.file firstAnalysis.imports).2.graph.Imports
      (inRoot "b") (inRoot "a") := by
    rw [Session.imports_analyse, if_neg (by decide)]
    exact imports_mutualLinter.2 ⟨_, List.mem_cons_of_mem _ (List.mem_singleton_self _), rfl, by simp⟩
  have limit : mutualLinter.session.depthLimit = 50 := by
    rw [session_mutualLinter, Session.depthLimit_forgetReports]
    exact (accounted_of_steady 50 steady_mutualAnalyses).limit_eq
  have quiet : mutualLinter.session.reported = {} := by
    rw [session_mutualLinter, Session.reported_forgetReports]
  have within : [inRoot "a", inRoot "b"].length ≤ mutualLinter.session.depthLimit := by
    rw [limit]
    decide
  obtain ⟨cycle, returned⟩ := List.exists_mem_of_ne_nil _
    (Session.analyse_ne_nil quiet ⟨by simp, .cons ab (.single ba)⟩ within)
  have inReport : cycle ∈ report.diagnostics.map (·.cycle) := by
    rw [(Linter.graph_lintFiles linted).1, analyses]
    exact List.mem_append_left _ returned
  obtain ⟨diagnostic, mem, _⟩ := List.mem_map.1 inReport
  exact ⟨diagnostic, mem⟩

/-- In a second run over the same sources the cycle is reported again, and it is still there. -/
theorem reported_cycle_closed_again :
    ∃ report final, mutualLinter.lintFiles mutualDisk
        (Resolver.resolve mutualDisk defaultExtensions) [inRoot "a", inRoot "b"] =
          (report, final) ∧
      ∃ diagnostic ∈ report.diagnostics, ∃ file ∈ [inRoot "a", inRoot "b"],
        final.graph.ClosedWalk file diagnostic.cycle.members := by
  obtain ⟨report, final, linted⟩ : ∃ report final, mutualLinter.lintFiles mutualDisk
      (Resolver.resolve mutualDisk defaultExtensions) [inRoot "a", inRoot "b"] =
        (report, final) := ⟨_, _, rfl⟩
  have graph : final.graph = (mutualLinter.session.analyseAll mutualAnalyses).2.graph :=
    (Linter.graph_lintFiles linted).2
  have kept : ∀ a b, mutualLinter.graph.Imports a b → final.graph.Imports a b := by
    intro a b step
    rw [graph, Session.imports_analyseAll steady_mutualAnalyses]
    exact .inl (imports_mutualLinter.1 step)
  obtain ⟨diagnostic, inReport⟩ := exists_reported_mutualLinter linted rfl
  exact ⟨report, final, linted, diagnostic, inReport,
    (Linter.reported_cycle_closed linted).2 kept diagnostic inReport⟩

/-- A report may name a cycle that is no longer there, if the file that has dropped an import comes
last. -/
theorem reported_cycle_removed :
    ∃ report final, mutualLinter.lintFiles loosenedDisk
        (Resolver.resolve loosenedDisk defaultExtensions) [inRoot "a", inRoot "b"] =
          (report, final) ∧
      ∃ diagnostic ∈ report.diagnostics, ∀ file,
        ¬ final.graph.ClosedWalk file diagnostic.cycle.members := by
  obtain ⟨report, final, linted⟩ : ∃ report final, mutualLinter.lintFiles loosenedDisk
      (Resolver.resolve loosenedDisk defaultExtensions) [inRoot "a", inRoot "b"] =
        (report, final) := ⟨_, _, rfl⟩
  have steady : Steady [firstAnalysis, ⟨inRoot "b", []⟩] := by
    simp [Steady, firstAnalysis, inRoot]
  have graph : final.graph =
      (mutualLinter.session.analyseAll [firstAnalysis, ⟨inRoot "b", []⟩]).2.graph :=
    (Linter.graph_lintFiles linted).2
  obtain ⟨diagnostic, inReport⟩ := exists_reported_mutualLinter linted rfl
  refine ⟨report, final, linted, diagnostic, inReport, ?_⟩
  -- Only the first source imports anything, and it does not import itself.
  have only : ∀ x y, final.graph.Imports x y → x = inRoot "a" ∧ y = inRoot "b" := by
    intro x y step
    rw [graph, Session.imports_analyseAll steady] at step
    rcases step with ⟨analysis, mem, rfl, target⟩ | ⟨absent, old⟩
    · rcases List.mem_pair.1 mem with rfl | rfl
      · exact ⟨rfl, by simpa [firstAnalysis] using target⟩
      · simp at target
    · obtain ⟨analysis, mem, rfl, _⟩ := imports_mutualLinter.1 old
      rcases List.mem_pair.1 mem with rfl | rfl
      · simp [firstAnalysis] at absent
      · simp at absent
  intro file closed
  obtain ⟨next, rest, _, step, walk⟩ := closed.roundByFirst
  obtain ⟨rfl, rfl⟩ := only _ _ step
  rcases walk.reaches.cases_head with same | ⟨third, onward, _⟩
  · exact absurd same (by decide)
  · exact absurd (only _ _ onward).1 (by decide)

end ImportCycles
