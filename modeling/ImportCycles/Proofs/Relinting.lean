import ImportCycles.Proofs.CyclicFiles
import ImportCycles.Proofs.GreedySelection
import ImportCycles.Proofs.LastVersions
import ImportCycles.Proofs.StaleImports

/-! # Linting again what has not changed

When files are linted for the first time, each of them is checked before the imports of the later ones
are known. When they are linted again, every check sees the whole graph, which stays as it is: together
the checks make one greedy selection from all cycles that are found in it. A cycle that was passed over
from the file that closed it can be found from another of its members, and is reported if none of the
members apart from this one was named. After that each cycle has been reported or passed over with the
whole graph in view, so a third time there is nothing to report but imports of files by themselves.
-/

namespace ImportCycles

open FileId (inRoot)

namespace Reported

theorem select_append (reported : Reported) (cycles others : List Cycle) :
    reported.select (cycles ++ others) =
      ((reported.select cycles).1 ++ ((reported.select cycles).2.select others).1,
        ((reported.select cycles).2.select others).2) := by
  induction cycles generalizing reported with
  | nil => rfl
  | cons cycle cycles ih =>
    rw [List.cons_append]
    cases fresh : reported.isFresh cycle with
    | true => rw [select_cons_fresh fresh, select_cons_fresh fresh, ih, List.cons_append]
    | false => rw [select_cons_stale fresh, select_cons_stale fresh, ih]

/-- A second selection from cycles of several files takes none of them. -/
theorem select_again (reported : Reported) {cycles : List Cycle}
    (several : ∀ cycle ∈ cycles, cycle.members.drop 1 ≠ []) :
    ((reported.select cycles).2.select cycles).1 = [] := by
  refine (greedySelection_select _ cycles).eq_nil_iff.2 fun cycle mem => ?_
  have outcome : cycle ∈ (reported.select cycles).1 ∨
      ∃ x ∈ cycle.members.drop 1, (reported.select cycles).2.mentions x = true :=
    mem_select_or_mentions mem
  rcases outcome with taken | passed
  · obtain ⟨x, inDrop⟩ := List.exists_mem_of_ne_nil _ (several cycle mem)
    exact ⟨x, inDrop, (mentions_select _ _ _).2 (.inr ⟨cycle, taken, List.mem_of_mem_drop inDrop⟩)⟩
  · exact passed

end Reported

/-! ### The graph after the same analyses -/

theorem ImportGraph.insertEdge_append {edge : Edge} {front : List Edge} (back : List Edge)
    (others : ∀ old ∈ front, old.source ≠ edge.source) :
    insertEdge edge (front ++ back) = front ++ insertEdge edge back := by
  induction front with
  | nil => rfl
  | cons old front ih =>
    have apart : ¬ (old.source = edge.source ∧ old.target = edge.target) :=
      fun same => others old List.mem_cons_self same.1
    rw [List.cons_append, insertEdge, if_neg apart,
      ih fun other mem => others other (List.mem_cons_of_mem _ mem), List.cons_append]

namespace Session

variable {session : Session} {history : List Analysis}

theorem edges_recordImports (session : Session) {file : FileId} (imports : List (FileId × Location))
    {front back : List Edge} (others : ∀ old ∈ front, old.source ≠ file)
    (edges : session.graph.edges = front ++ back) :
    (imports.foldl (fun s (target, location) => s.recordImport file target location)
        session).graph.edges =
      front ++ imports.foldl (fun edges (target, location) =>
        ImportGraph.insertEdge ⟨file, target, location⟩ edges) back := by
  induction imports generalizing session back with
  | nil => exact edges
  | cons first rest ih =>
    refine ih _ ?_
    change ImportGraph.insertEdge ⟨file, first.1, first.2⟩ session.graph.edges = _
    rw [edges]
    exact ImportGraph.insertEdge_append back others

/-- An analysis takes out the imports of its file and puts the new ones at the end. -/
theorem edges_analyse (session : Session) (file : FileId) (imports : List (FileId × Location)) :
    (session.analyse file imports).2.graph.edges =
      session.graph.edges.filter (·.source ≠ file) ++ importEdges file imports := by
  refine edges_recordImports (session.forgetImports file) imports ?_ (List.append_nil _).symm
  intro old mem
  exact of_decide_eq_true (List.mem_filter.1 mem).2

/-- A run leaves the imports of other files in front, and its own do not depend on what was there. -/
theorem edges_analyseAll (session : Session) (limit : Nat) (history : List Analysis) :
    (session.analyseAll history).2.graph.edges =
      session.graph.edges.filter (·.source ∉ history.map (·.file)) ++
        ((new limit).analyseAll history).2.graph.edges := by
  induction history generalizing session limit with
  | nil => simp [analyseAll, new]
  | cons analysis rest ih =>
    have others : (session.graph.edges.filter (·.source ≠ analysis.file)).filter
        (·.source ∉ rest.map (·.file)) =
        session.graph.edges.filter (·.source ∉ (analysis :: rest).map (·.file)) := by
      rw [List.filter_filter]
      refine List.filter_congr fun edge _ => ?_
      rw [Bool.eq_iff_iff]
      simp [and_comm]
    simp only [analyseAll]
    rw [ih _ limit, ih ((new limit).analyse _ _).2 limit, edges_analyse, edges_analyse,
      List.filter_append, others, List.append_assoc]
    rfl

/-- In a fresh session only files that were analysed import anything. -/
theorem file_mem_of_imports {limit : Nat} {file next : FileId} (steady : Steady history)
    (step : ((new limit).analyseAll history).2.graph.Imports file next) :
    file ∈ history.map (·.file) := by
  obtain ⟨analysis, mem, atFile, _⟩ := ((accounted_of_steady limit steady).imports _ _).1 step
  exact List.mem_map.2 ⟨analysis, mem, atFile⟩

/-- The same analyses once more leave the graph as it is. -/
theorem graph_analyseAll_again (session : Session) (steady : Steady history) :
    ((session.analyseAll history).2.analyseAll history).2.graph =
      (session.analyseAll history).2.graph := by
  have own : ((new 0).analyseAll history).2.graph.edges.filter (·.source ∉ history.map (·.file)) =
      [] := by
    refine List.filter_eq_nil_iff.2 fun edge mem => ?_
    have step := ImportGraph.imports_iff_mem_edges.2 ⟨edge, mem, rfl, rfl⟩
    simpa using file_mem_of_imports steady step
  have edges : ((session.analyseAll history).2.analyseAll history).2.graph.edges =
      (session.analyseAll history).2.graph.edges := by
    rw [edges_analyseAll _ 0, edges_analyseAll session 0, List.filter_append, own, List.append_nil,
      List.filter_filter]
    simp only [Bool.and_self]
  exact congrArg ImportGraph.mk edges

/-! ### Checks of a graph that stays -/

/-- The imports that each of some analyses would record are there already. -/
def Settled (session : Session) (history : List Analysis) : Prop :=
  ∀ analysis ∈ history,
    session.graph.edgesFrom analysis.file = importEdges analysis.file analysis.imports

theorem settled_analyseAll (session : Session) (steady : Steady history) :
    (session.analyseAll history).2.Settled history := by
  intro analysis mem
  rw [analyseAll_eq_play, edgesFrom_play, (steady.latest_eq_some_iff).2 mem]
  rfl

theorem Settled.sameImports {analysis : Analysis} (settled : session.Settled history)
    (mem : analysis ∈ history) :
    (session.analyse analysis.file analysis.imports).2.graph.SameImports session.graph := by
  intro file
  rw [edgesFrom_analyse]
  by_cases here : file = analysis.file
  · rw [if_pos here, here, settled analysis mem]
  · rw [if_neg here]

theorem Settled.congr {other : Session} (settled : session.Settled history)
    (same : other.graph.SameImports session.graph) : other.Settled history :=
  fun analysis mem => (same analysis.file).trans (settled analysis mem)

theorem depthLimit_analyse (session : Session) (file : FileId)
    (imports : List (FileId × Location)) :
    (session.analyse file imports).2.depthLimit = session.depthLimit := by
  rw [analyse_eq_select]

/-- The cycles through the files of some analyses, one file after the other. -/
def cyclesAlong (session : Session) (history : List Analysis) : List Cycle :=
  history.flatMap fun analysis => session.cyclesAt analysis.file

/-- Where nothing is new, a run is one selection from the cycles found through its files. -/
theorem Settled.analyseAll_eq_select (settled : session.Settled history) :
    (session.analyseAll history).1 =
        (session.reported.select (session.cyclesAlong history)).1 ∧
      (session.analyseAll history).2.reported =
        (session.reported.select (session.cyclesAlong history)).2 := by
  induction history generalizing session with
  | nil => exact ⟨rfl, rfl⟩
  | cons analysis rest ih =>
    have same := settled.sameImports List.mem_cons_self
    have limit := depthLimit_analyse session analysis.file analysis.imports
    have settledRest : (session.analyse analysis.file analysis.imports).2.Settled rest :=
      Settled.congr (fun other mem => settled other (List.mem_cons_of_mem _ mem)) same
    have found : (session.analyse analysis.file analysis.imports).2.graph.shortestCycles
        analysis.file session.depthLimit = session.cyclesAt analysis.file := by
      rw [same.shortestCycles, cyclesAt_eq_shortestCycles]
    have selects := analyse_eq_select session analysis.file analysis.imports
    rw [found] at selects
    obtain ⟨returned, reported⟩ := ih settledRest
    simp only [cyclesAlong, cyclesAt_congr same limit] at returned reported
    simp only [analyseAll, cyclesAlong, List.flatMap_cons, Reported.select_append]
    rw [returned, reported]
    constructor
    · rw [congrArg Prod.fst selects, congrArg (·.2.reported) selects]
    · rw [congrArg (·.2.reported) selects]

/-- A fresh session finds cycles through files that were analysed. -/
theorem file_mem_of_mem_cyclesAt {limit : Nat} {file : FileId} {cycle : Cycle}
    (steady : Steady history)
    (mem : cycle ∈ ((new limit).analyseAll history).2.cyclesAt file) :
    file ∈ history.map (·.file) := by
  rw [cyclesAt_eq_shortestCycles] at mem
  obtain ⟨next, round⟩ := (ImportGraph.closedWalk_of_mem_shortestCycles mem).roundByFirst
  exact file_mem_of_imports steady round.imports

/-- Where no file imports itself, every cycle has a member apart from the file it is found from. -/
theorem drop_ne_nil_of_mem_cyclesAt {file : FileId} {cycle : Cycle}
    (irreflexive : ¬ session.graph.Imports file file) (mem : cycle ∈ session.cyclesAt file) :
    cycle.members.drop 1 ≠ [] := by
  rw [cyclesAt_eq_shortestCycles] at mem
  obtain ⟨next, round⟩ := (ImportGraph.closedWalk_of_mem_shortestCycles mem).roundByFirst
  rcases round.members_eq with ⟨_, rfl⟩ | ⟨rest, members⟩
  · exact absurd round.imports irreflexive
  · simp [members]

end Session

/-- A file is a member of a cycle of the report. -/
def LintReport.Names (report : LintReport) (file : FileId) : Prop :=
  ∃ diagnostic ∈ report.diagnostics, file ∈ diagnostic.cycle.members

theorem LintReport.names_iff {report : LintReport} {file : FileId} :
    report.Names file ↔ ∃ cycle ∈ report.diagnostics.map (·.cycle), file ∈ cycle.members := by
  simp [Names]

namespace Linter

variable {cwd root : Option String} {limit : Nat} {disk : Disk} {resolve : Resolve}
  {files : List FileId} {report again last : LintReport} {linter relinted final : Linter}

/-- Files that cannot be read have nothing to add where nothing belongs to them. -/
theorem cyclesAlong_readable
    (none : ∀ file, (ScannedFile.read disk file).toOption = none →
      linter.session.cyclesAt file = []) :
    linter.session.cyclesAlong ((readable disk files).map (·.analysis resolve)) =
      files.flatMap linter.session.cyclesAt := by
  rw [Session.cyclesAlong]
  induction files with
  | nil => rfl
  | cons file rest ih =>
    rw [List.flatMap_cons, ← ih]
    cases read : (ScannedFile.read disk file).toOption with
    | none => simp [readable, read, none file read]
    | some scanned =>
      obtain rfl : scanned.file = file := ScannedFile.file_of_read read
      simp [readable, read, ScannedFile.analysis]

theorem session_of_lintFiles (linted : linter.lintFiles disk resolve files = (report, final)) :
    final.session =
      (linter.session.analyseAll ((readable disk files).map (·.analysis resolve))).2 := by
  rw [← session_lintFiles, linted]

theorem depthLimit_of_lintFiles (linted : linter.lintFiles disk resolve files = (report, final)) :
    final.session.depthLimit = linter.session.depthLimit := by
  rw [session_of_lintFiles linted, Session.analyseAll_eq_play, Session.depthLimit_play]

/-- Where files are linted twice, the graph stays. -/
theorem graph_relinted (linted : linter.lintFiles disk resolve files = (report, relinted))
    (twice : relinted.lintFiles disk resolve files = (again, final)) :
    final.graph = relinted.graph := by
  have steady := steady_readable disk resolve files
  rw [graph, session_of_lintFiles twice, graph, session_of_lintFiles linted,
    Session.graph_analyseAll_again linter.session steady]

/-- Linted again, files bring up one selection from the cycles found through them. -/
theorem select_relinted (linted : linter.lintFiles disk resolve files = (report, relinted))
    (twice : relinted.lintFiles disk resolve files = (again, final)) :
    again.diagnostics.map (·.cycle) =
        (relinted.session.reported.select (relinted.session.cyclesAlong
          ((readable disk files).map (·.analysis resolve)))).1 ∧
      final.session.reported =
        (relinted.session.reported.select (relinted.session.cyclesAlong
          ((readable disk files).map (·.analysis resolve)))).2 := by
  have settled : relinted.session.Settled ((readable disk files).map (·.analysis resolve)) := by
    rw [session_of_lintFiles linted]
    exact Session.settled_analyseAll _ (steady_readable disk resolve files)
  rw [(graph_lintFiles twice).1, session_of_lintFiles twice]
  exact settled.analyseAll_eq_select

theorem mentions_iff_names
    (linted : (new cwd limit root).lintFiles disk resolve files = (report, linter)) (x : FileId) :
    linter.session.reported.mentions x = true ↔ report.Names x := by
  have accounted := accounted_of_steady limit (steady_readable disk resolve files)
  rw [session_of_lintFiles linted, LintReport.names_iff, (graph_lintFiles linted).1]
  exact accounted.named x

theorem imports_of_fresh
    (linted : (new cwd limit root).lintFiles disk resolve files = (report, linter)) (a b : FileId) :
    linter.graph.Imports a b ↔ ∃ analysis ∈ (readable disk files).map (·.analysis resolve),
      analysis.file = a ∧ b ∈ analysis.imports.map (·.1) := by
  rw [(lintFiles_fresh linted).1]
  exact (accounted_of_steady limit (steady_readable disk resolve files)).imports a b

/-- In a fresh linter nothing is found through files that were not given or cannot be read. -/
theorem given_of_mem_cyclesAt
    (linted : (new cwd limit root).lintFiles disk resolve files = (report, linter)) {file : FileId}
    {cycle : Cycle} (mem : cycle ∈ linter.session.cyclesAt file) :
    file ∈ files ∧ (ScannedFile.read disk file).toOption.isSome = true := by
  rw [session_of_lintFiles linted] at mem
  exact mem_files_readable.1
    (Session.file_mem_of_mem_cyclesAt (steady_readable disk resolve files) mem)

/-- The second report is the greedy selection from all cycles of the graph, given the first. -/
theorem greedySelection_relinted
    (linted : (new cwd limit root).lintFiles disk resolve files = (report, linter))
    (twice : linter.lintFiles disk resolve files = (again, relinted)) :
    GreedySelection report.Names (files.flatMap linter.session.cyclesAt)
      (again.diagnostics.map (·.cycle)) := by
  have greedy := Reported.greedySelection_select linter.session.reported
    (linter.session.cyclesAlong ((readable disk files).map (·.analysis resolve)))
  rw [← (select_relinted linted twice).1, cyclesAlong_readable] at greedy
  · simpa only [mentions_iff_names linted] using greedy
  · intro file unread
    refine List.eq_nil_iff_forall_not_mem.2 fun cycle mem => ?_
    have read := (given_of_mem_cyclesAt linted mem).2
    rw [unread] at read
    cases read

/-- After two times every cycle of several files has been reported or passed over for good. -/
theorem diagnostics_eq_nil_of_relinted
    (linted : linter.lintFiles disk resolve files = (report, relinted))
    (twice : relinted.lintFiles disk resolve files = (again, final)) {ended : Linter}
    (thrice : final.lintFiles disk resolve files = (last, ended))
    (irreflexive : ∀ file, ¬ relinted.graph.Imports file file) : last.diagnostics = [] := by
  have graph := graph_relinted linted twice
  have found : ∀ file, final.session.cyclesAt file = relinted.session.cyclesAt file := by
    intro file
    rw [Session.cyclesAt_eq_shortestCycles, Session.cyclesAt_eq_shortestCycles,
      depthLimit_of_lintFiles twice]
    exact congrArg (·.shortestCycles file relinted.session.depthLimit) graph
  have returned := (select_relinted twice thrice).1
  simp only [Session.cyclesAlong, found] at returned
  rw [(select_relinted linted twice).2, Session.cyclesAlong, Reported.select_again] at returned
  · exact List.map_eq_nil_iff.1 returned
  · intro cycle mem
    obtain ⟨analysis, _, mem⟩ := List.mem_flatMap.1 mem
    exact Session.drop_ne_nil_of_mem_cyclesAt (irreflexive _) mem

/-- What comes of linting the same files again in the same run, with no edit in between. The graph
stays. The second report is a selection from the cycles found through the files, one file after the
other: each is taken unless a member apart from the file it was found from is on a cycle of the first
report, or on one that was taken before. So the second report is empty exactly if every cycle found has
such a member on a cycle of the first. If no file imports itself, it is empty whenever the first names
every file on a cycle within the limit, and the third report is empty in any case. -/
theorem relinted_greedily
    (linted : (new cwd limit root).lintFiles disk resolve files = (report, linter))
    (twice : linter.lintFiles disk resolve files = (again, relinted))
    (thrice : relinted.lintFiles disk resolve files = (last, final)) :
    relinted.graph = linter.graph ∧ final.graph = linter.graph ∧
      GreedySelection report.Names (files.flatMap linter.session.cyclesAt)
        (again.diagnostics.map (·.cycle)) ∧
      (again.diagnostics = [] ↔ ∀ file, ∀ cycle ∈ linter.session.cyclesAt file,
        ∃ x ∈ cycle.members.drop 1, report.Names x) ∧
      ((∀ file, ¬ linter.graph.Imports file file) →
        ((∀ members, linter.graph.SimpleCycle members → members.length ≤ limit →
            ∀ x ∈ members, report.Names x) → again.diagnostics = []) ∧
          last.diagnostics = []) := by
  have greedy := greedySelection_relinted linted twice
  have empty : again.diagnostics = [] ↔ ∀ file, ∀ cycle ∈ linter.session.cyclesAt file,
      ∃ x ∈ cycle.members.drop 1, report.Names x := by
    rw [← List.map_eq_nil_iff, greedy.eq_nil_iff]
    constructor
    · intro passed file cycle mem
      exact passed cycle (List.mem_flatMap.2 ⟨file, (given_of_mem_cyclesAt linted mem).1, mem⟩)
    · intro passed cycle mem
      obtain ⟨file, _, mem⟩ := List.mem_flatMap.1 mem
      exact passed file cycle mem
  have stays := graph_relinted linted twice
  have staysAgain := (graph_relinted twice thrice).trans stays
  refine ⟨stays, staysAgain, greedy, empty, fun irreflexive => ⟨fun named => empty.2 ?_, ?_⟩⟩
  · intro file cycle mem
    obtain ⟨x, inDrop⟩ := List.exists_mem_of_ne_nil _
      (Session.drop_ne_nil_of_mem_cyclesAt (irreflexive file) mem)
    rw [Session.cyclesAt_eq_shortestCycles, depthLimit_of_lintFiles linted] at mem
    have isCycle := ImportGraph.simpleCycle_of_mem_shortestCycles mem
    have within : cycle.members.length ≤ limit := (ImportGraph.of_mem_shortestCycles mem).2.1
    exact ⟨x, inDrop, named cycle.members isCycle within x (List.mem_of_mem_drop inDrop)⟩
  · exact diagnostics_eq_nil_of_relinted linted twice thrice irreflexive

end Linter

/-- The files of the hub, which comes first. -/
def hubFiles : List FileId := [inRoot "a", inRoot "b", inRoot "c"]

theorem analyses_hubFiles : (Linter.readable hubDisk hubFiles).map
    (·.analysis (Resolver.resolve hubDisk defaultExtensions)) = hubAnalysis :: spokeAnalyses := rfl

theorem not_imports_self_hub {report : LintReport} {linter : Linter}
    (linted : (Linter.new (some "/") 50 none).lintFiles hubDisk
      (Resolver.resolve hubDisk defaultExtensions) hubFiles = (report, linter)) (file : FileId) :
    ¬ linter.graph.Imports file file := by
  rw [Linter.imports_of_fresh linted, analyses_hubFiles]
  rintro ⟨analysis, mem, rfl, target⟩
  revert analysis
  decide

/-- The first time the hub is checked none of its cycles is there yet. The second time both are, and
one of them has not been named. -/
theorem cycles_relinted_hub {report again : LintReport} {linter relinted : Linter}
    (linted : (Linter.new (some "/") 50 none).lintFiles hubDisk
      (Resolver.resolve hubDisk defaultExtensions) hubFiles = (report, linter))
    (twice : linter.lintFiles hubDisk (Resolver.resolve hubDisk defaultExtensions) hubFiles =
      (again, relinted)) :
    again.diagnostics.map (·.cycle) = [⟨[inRoot "a", inRoot "c"]⟩] := by
  have first : ((Session.new 50).analyseAll (hubAnalysis :: spokeAnalyses)).1 =
      [⟨[inRoot "b", inRoot "a"]⟩] := by cbv
  have both : ((Session.new 50).analyseAll
      ((hubAnalysis :: spokeAnalyses) ++ hubAnalysis :: spokeAnalyses)).1 =
      [⟨[inRoot "b", inRoot "a"]⟩, ⟨[inRoot "a", inRoot "c"]⟩] := by cbv
  rw [Session.analyseAll_append, first, List.singleton_append, List.cons.injEq] at both
  rw [(Linter.graph_lintFiles twice).1, Linter.session_of_lintFiles linted, analyses_hubFiles]
  exact both.2

/-- Of two files that import each other both are named the first time. -/
theorem names_mutual {report : LintReport} {linter : Linter}
    (linted : (Linter.new (some "/") 50 none).lintFiles mutualDisk
      (Resolver.resolve mutualDisk defaultExtensions) [inRoot "a", inRoot "b"] = (report, linter))
    {members : List FileId} (isCycle : linter.graph.SimpleCycle members) {x : FileId}
    (mem : x ∈ members) : report.Names x := by
  have returned : ((Session.new 50).analyseAll mutualAnalyses).1 =
      [⟨[inRoot "b", inRoot "a"]⟩] := by cbv
  have cycles : report.diagnostics.map (·.cycle) = [⟨[inRoot "b", inRoot "a"]⟩] :=
    (Linter.graph_lintFiles linted).1.trans returned
  obtain ⟨next, _, _, round⟩ := isCycle.exists_takes mem
  obtain ⟨analysis, given, rfl, _⟩ := (Linter.imports_of_fresh linted _ _).1 round.imports
  have both : ∀ analysis ∈ mutualAnalyses, analysis.file ∈ [inRoot "b", inRoot "a"] := by decide
  rw [LintReport.names_iff, cycles]
  exact ⟨_, List.mem_singleton_self _, both analysis given⟩

theorem relinted_greedily_hub :
    (∃ report linter again relinted last final,
      (Linter.new (some "/") 50 none).lintFiles hubDisk
          (Resolver.resolve hubDisk defaultExtensions) hubFiles = (report, linter) ∧
        linter.lintFiles hubDisk (Resolver.resolve hubDisk defaultExtensions) hubFiles =
          (again, relinted) ∧
        relinted.lintFiles hubDisk (Resolver.resolve hubDisk defaultExtensions) hubFiles =
          (last, final) ∧
        again.diagnostics.map (·.cycle) = [⟨[inRoot "a", inRoot "c"]⟩] ∧
        GreedySelection report.Names (hubFiles.flatMap linter.session.cyclesAt)
          [⟨[inRoot "a", inRoot "c"]⟩] ∧
        final.graph = linter.graph ∧ last.diagnostics = []) ∧
      ∃ report linter again relinted,
        (Linter.new (some "/") 50 none).lintFiles mutualDisk
            (Resolver.resolve mutualDisk defaultExtensions) [inRoot "a", inRoot "b"] =
          (report, linter) ∧
        linter.lintFiles mutualDisk (Resolver.resolve mutualDisk defaultExtensions)
          [inRoot "a", inRoot "b"] = (again, relinted) ∧
        again.diagnostics = [] := by
  constructor
  · refine ⟨_, _, _, _, _, _, rfl, rfl, rfl, cycles_relinted_hub rfl rfl, ?_, ?_, ?_⟩
    · rw [← cycles_relinted_hub rfl rfl]
      exact (Linter.relinted_greedily rfl rfl rfl).2.2.1
    · exact (Linter.relinted_greedily rfl rfl rfl).2.1
    · exact ((Linter.relinted_greedily rfl rfl rfl).2.2.2.2 (not_imports_self_hub rfl)).2
  · refine ⟨_, _, _, _, rfl, rfl, ?_⟩
    refine ((Linter.relinted_greedily rfl rfl rfl).2.2.2.2 ?_).1 ?_
    · intro file
      rw [Linter.imports_of_fresh rfl]
      rintro ⟨analysis, mem, rfl, target⟩
      revert analysis
      decide
    · intro members isCycle _ x mem
      exact names_mutual rfl isCycle mem

/-- Linting the same files twice can bring up a cycle the second time. -/
theorem relinted_reports :
    hubFiles.Nodup ∧ Linter.unreadable hubDisk hubFiles = [] ∧
      ∃ report linter again relinted,
        (Linter.new (some "/") 50 none).lintFiles hubDisk
            (Resolver.resolve hubDisk defaultExtensions) hubFiles = (report, linter) ∧
          (∀ file, ¬ linter.graph.Imports file file) ∧
          linter.lintFiles hubDisk (Resolver.resolve hubDisk defaultExtensions) hubFiles =
            (again, relinted) ∧
          again.diagnostics ≠ [] := by
  refine ⟨by decide, rfl, _, _, _, _, rfl, not_imports_self_hub rfl, rfl, ?_⟩
  intro empty
  have cycles := cycles_relinted_hub rfl rfl
  rw [empty] at cycles
  cases cycles

end ImportCycles
