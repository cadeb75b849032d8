import ImportCycles.CommandLine.Program
import ImportCycles.Proofs.Runs

/-! # Every component with a short cycle is reported

As long as no file changes, the graph only grows from one analysis to the next, and so do its
components. The reports keep pace: at any time a component holds a cycle within the depth limit
exactly if a cycle inside it was returned. A cycle that is passed over does no harm, because the
member that stands in its way belongs to a reported cycle of the same component.
-/

namespace ImportCycles

open FileId (inRoot)

/-- What holds after the analyses `past` have returned the cycles `found`: the graph has the imports
that were analysed, the named files are the members of what was returned, all of it are cycles within
the limit, and every closed walk within the limit is connected with one of them. -/
structure Accounted (limit : Nat) (past : List Analysis) (found : List Cycle) (session : Session) :
    Prop where
  limit_eq : session.depthLimit = limit
  imports : ∀ a b, session.graph.Imports a b ↔
    ∃ analysis ∈ past, analysis.file = a ∧ b ∈ analysis.imports.map (·.1)
  named : ∀ x, session.reported.mentions x = true ↔ ∃ cycle ∈ found, x ∈ cycle.members
  sound : ∀ cycle ∈ found,
    session.graph.SimpleCycle cycle.members ∧ cycle.members.length ≤ limit
  complete : ∀ file walk, session.graph.ClosedWalk file walk → walk.length ≤ limit →
    ∃ cycle ∈ found, ∀ member ∈ cycle.members, session.graph.Connected file member

namespace ImportGraph

variable {graph larger : ImportGraph}

theorem SimpleCycle.mono {members : List FileId} (cycle : graph.SimpleCycle members)
    (grows : ∀ a b, graph.Imports a b → larger.Imports a b) : larger.SimpleCycle members := by
  obtain ⟨nodup, file, nonempty, walk⟩ := cycle
  exact ⟨nodup, file, nonempty, walk.imp fun a b _ => grows a b⟩

theorem Connected.mono {a b : FileId} (connected : graph.Connected a b)
    (grows : ∀ a b, graph.Imports a b → larger.Imports a b) : larger.Connected a b :=
  ⟨Relation.ReflTransGen.mono grows _ _ connected.1,
    Relation.ReflTransGen.mono grows _ _ connected.2⟩

theorem SimpleCycle.connected {members : List FileId} (cycle : graph.SimpleCycle members)
    {x y : FileId} (memX : x ∈ members) (memY : y ∈ members) : graph.Connected x y := by
  obtain ⟨_, file, closed⟩ := cycle
  exact closed.connected memX memY

theorem simpleCycle_of_mem_shortestCycles {file : FileId} {depthLimit : Nat} {cycle : Cycle}
    (mem : cycle ∈ graph.shortestCycles file depthLimit) : graph.SimpleCycle cycle.members :=
  ⟨(of_mem_shortestCycles mem).1, file, closedWalk_of_mem_shortestCycles mem⟩

end ImportGraph

/-- After a selection from the cycles found through a file some returned cycle is connected with the
file, provided a closed walk through it is within the limit. -/
theorem exists_connected_of_select {graph : ImportGraph} {file : FileId} {limit : Nat}
    {reported : Reported} {found : List Cycle} {walk : List FileId}
    (named : ∀ x, reported.mentions x = true ↔ ∃ cycle ∈ found, x ∈ cycle.members)
    (cycles : ∀ cycle ∈ found, graph.SimpleCycle cycle.members)
    (closed : graph.ClosedWalk file walk) (within : walk.length ≤ limit) :
    ∃ cycle ∈ found ++ (reported.select (graph.shortestCycles file limit)).1,
      ∀ member ∈ cycle.members, graph.Connected file member := by
  obtain ⟨candidate, mem⟩ :=
    List.exists_mem_of_ne_nil _ (ImportGraph.shortestCycles_ne_nil_iff.2 ⟨walk, closed, within⟩)
  have round := ImportGraph.closedWalk_of_mem_shortestCycles mem
  rcases Reported.mem_select_or_mentions mem with fresh | ⟨member, inRound, seen⟩
  · exact ⟨candidate, List.mem_append_right _ fresh,
      fun member inside => round.connected round.head_mem inside⟩
  · -- The candidate is passed over: the cycle that stands in its way meets it in `member`.
    have toMember := round.connected round.head_mem (List.mem_of_mem_drop inRound)
    rcases (Reported.mentions_select _ _ _).1 seen with old | ⟨other, fresh, inOther⟩
    · obtain ⟨other, before, inOther⟩ := (named member).1 old
      refine ⟨other, List.mem_append_left _ before, ?_⟩
      exact fun x inside => toMember.trans ((cycles other before).connected inOther inside)
    · refine ⟨other, List.mem_append_right _ fresh, ?_⟩
      have isCycle := ImportGraph.simpleCycle_of_mem_shortestCycles
        ((Reported.select_sublist _ _).subset fresh)
      exact fun x inside => toMember.trans (isCycle.connected inOther inside)

theorem not_imports_new (limit : Nat) (a b : FileId) : ¬ (Session.new limit).graph.Imports a b := by
  simp [ImportGraph.imports_iff_mem_targets, ImportGraph.targets, ImportGraph.edgesFrom, Session.new]

theorem accounted_new (limit : Nat) : Accounted limit [] [] (Session.new limit) where
  limit_eq := rfl
  imports := by
    intro a b
    simp [not_imports_new]
  named := by simp [Session.new, Reported.mentions]
  sound := by simp
  complete := by
    rintro file walk ⟨nonempty, walks⟩ _
    cases walks with
    | nil => exact absurd rfl nonempty
    | cons step _ => exact absurd step (not_imports_new _ _ _)

variable {limit : Nat} {past history : List Analysis} {found : List Cycle} {session : Session}
  {analysis : Analysis}

theorem Accounted.imports_analyse (accounted : Accounted limit past found session)
    (steady : Steady (past ++ [analysis])) (a b : FileId) :
    (session.analyse analysis.file analysis.imports).2.graph.Imports a b ↔
      ∃ other ∈ past ++ [analysis], other.file = a ∧ b ∈ other.imports.map (·.1) := by
  rw [Session.imports_analyse]
  by_cases here : a = analysis.file
  · rw [if_pos here]
    constructor
    · intro mem
      exact ⟨analysis, by simp, here.symm, mem⟩
    · rintro ⟨other, mem, atFile, target⟩
      rwa [steady other mem analysis (by simp) (atFile.trans here)] at target
  · rw [if_neg here, accounted.imports]
    constructor
    · rintro ⟨other, mem, found⟩
      exact ⟨other, List.mem_append_left _ mem, found⟩
    · rintro ⟨other, mem, atFile, target⟩
      rcases List.mem_append.1 mem with mem | mem
      · exact ⟨other, mem, atFile, target⟩
      · obtain rfl := List.mem_singleton.1 mem
        exact absurd atFile.symm here

/-- The graph only grows while no file changes. -/
theorem Accounted.grows (accounted : Accounted limit past found session)
    (steady : Steady (past ++ [analysis])) (a b : FileId) (step : session.graph.Imports a b) :
    (session.analyse analysis.file analysis.imports).2.graph.Imports a b := by
  obtain ⟨other, mem, found⟩ := (accounted.imports a b).1 step
  exact (accounted.imports_analyse steady a b).2 ⟨other, List.mem_append_left _ mem, found⟩

/-- One more analysis keeps account. -/
theorem Accounted.analyse (accounted : Accounted limit past found session)
    (steady : Steady (past ++ [analysis])) :
    Accounted limit (past ++ [analysis])
      (found ++ (session.analyse analysis.file analysis.imports).1)
      (session.analyse analysis.file analysis.imports).2 := by
  have grows := accounted.grows steady
  have selects := Session.analyse_eq_select session analysis.file analysis.imports
  rw [accounted.limit_eq] at selects
  have fresh := congrArg Prod.fst selects
  have reported := congrArg (fun result => result.2.reported) selects
  have oldCycles : ∀ cycle ∈ found, (session.analyse analysis.file
      analysis.imports).2.graph.SimpleCycle cycle.members :=
    fun cycle mem => (accounted.sound cycle mem).1.mono grows
  refine ⟨?_, accounted.imports_analyse steady, ?_, ?_, ?_⟩
  · rw [selects]
  · intro x
    rw [reported, Reported.mentions_select, accounted.named, fresh]
    simp only [List.mem_append, or_and_right, exists_or]
  · intro cycle mem
    rcases List.mem_append.1 mem with old | new
    · exact ⟨oldCycles cycle old, (accounted.sound cycle old).2⟩
    · rw [fresh] at new
      have found := (Reported.select_sublist _ _).subset new
      exact ⟨ImportGraph.simpleCycle_of_mem_shortestCycles found,
        (ImportGraph.of_mem_shortestCycles found).2.1⟩
  · intro file walk closed within
    by_cases through : analysis.file ∈ walk
    · -- The analysis looks for cycles through its own file, so the walk has to start there.
      obtain ⟨rotated, sameRound, roundFile⟩ := closed.rotate through
      have size : rotated.length ≤ limit := sameRound.perm.length_eq.trans_le within
      obtain ⟨cycle, mem, connected⟩ :=
        exists_connected_of_select accounted.named oldCycles roundFile size
      rw [← fresh] at mem
      have toFile := closed.connected closed.head_mem through
      exact ⟨cycle, mem, fun member inside => toFile.trans (connected member inside)⟩
    · -- A walk that avoids the analysed file was there before the analysis.
      have before : session.graph.ClosedWalk file walk := by
        refine ⟨closed.1, closed.2.imp ?_⟩
        intro a b mem step
        have elsewhere : a ≠ analysis.file := fun same => through (same ▸ mem)
        rwa [Session.imports_analyse, if_neg elsewhere] at step
      obtain ⟨cycle, mem, connected⟩ := accounted.complete file walk before within
      exact ⟨cycle, List.mem_append_left _ mem,
        fun member inside => (connected member inside).mono grows⟩

/-- Any number of analyses keeps account. -/
theorem Accounted.analyseAll (accounted : Accounted limit past found session)
    (steady : Steady (past ++ history)) :
    Accounted limit (past ++ history) (found ++ (session.analyseAll history).1)
      (session.analyseAll history).2 := by
  induction history generalizing past found session with
  | nil => simpa [Session.analyseAll] using accounted
  | cons analysis history ih =>
    rw [List.append_cons] at steady ⊢
    have first : Steady (past ++ [analysis]) := by
      intro a memA b memB
      exact steady a (List.mem_append_left _ memA) b (List.mem_append_left _ memB)
    simp only [Session.analyseAll, ← List.append_assoc]
    exact ih (accounted.analyse first) steady

/-- Where account is kept, a component holds a cycle within the limit exactly if one inside it was
returned. -/
theorem Accounted.component_iff (accounted : Accounted limit past found session)
    {component : Set FileId} (isComponent : session.graph.IsComponent component) :
    (∃ members, session.graph.SimpleCycle members ∧ members.length ≤ limit ∧
        ∀ x ∈ members, x ∈ component) ↔
      ∃ cycle ∈ found, ∀ x ∈ cycle.members, x ∈ component := by
  obtain ⟨center, inComponent⟩ := isComponent
  constructor
  · rintro ⟨members, ⟨_, file, closed⟩, within, inside⟩
    obtain ⟨cycle, mem, connected⟩ := accounted.complete file members closed within
    have toFile := (inComponent file).1 (inside file closed.head_mem)
    refine ⟨cycle, mem, ?_⟩
    intro x inCycle
    exact (inComponent x).2 (toFile.trans (connected x inCycle))
  · rintro ⟨cycle, mem, inside⟩
    obtain ⟨isCycle, within⟩ := accounted.sound cycle mem
    exact ⟨cycle.members, isCycle, within, inside⟩

/-- Where account is kept, something was returned exactly if there is a cycle within the limit. -/
theorem Accounted.ne_nil_iff (accounted : Accounted limit past found session) :
    found ≠ [] ↔ session.graph.HasCycleWithin limit := by
  constructor
  · intro nonempty
    obtain ⟨cycle, mem⟩ := List.exists_mem_of_ne_nil _ nonempty
    exact ⟨cycle.members, accounted.sound cycle mem⟩
  · rintro ⟨members, ⟨_, file, closed⟩, within⟩
    obtain ⟨cycle, mem, _⟩ := accounted.complete file members closed within
    exact List.ne_nil_of_mem mem

theorem accounted_of_steady (limit : Nat) (steady : Steady history) :
    Accounted limit history ((Session.new limit).analyseAll history).1
      ((Session.new limit).analyseAll history).2 := by
  simpa using (accounted_new limit).analyseAll steady

namespace Linter

/-- A fresh linter reports a cycle exactly if the graph it builds has one within the limit. -/
theorem hasCycles_lintFiles_iff (cwd : Option String) (depthLimit : Nat) (root : Option String)
    (disk : Disk) (resolve : Resolve) (files : List FileId) :
    ((new cwd depthLimit root).lintFiles disk resolve files).1.hasCycles = true ↔
      ((new cwd depthLimit root).lintFiles disk resolve files).2.graph.HasCycleWithin depthLimit := by
  have accounted := accounted_of_steady depthLimit (steady_readable disk resolve files)
  obtain ⟨cycles, linted⟩ :=
    lintScanned_eq (new cwd depthLimit root) resolve (readable disk files)
  have graph : ((new cwd depthLimit root).lintFiles disk resolve files).2.graph =
      ((Session.new depthLimit).analyseAll
        ((readable disk files).map (·.analysis resolve))).2.graph :=
    congrArg Linter.graph linted
  rw [graph, ← accounted.ne_nil_iff, LintReport.hasCycles, Bool.not_eq_true',
    List.isEmpty_eq_false_iff]
  refine not_congr ?_
  rw [← List.map_eq_nil_iff (f := (·.cycle))]
  exact iff_of_eq (congrArg (· = []) cycles)

end Linter

/-- A command lints with a fresh linter. -/
theorem lintAll_ok {disk : Disk} {settings : Settings} {run : LintRun}
    (linted : lintAll disk settings = .ok run) :
    ∃ files,
      run.report = ((Linter.new disk.cwd settings.depthLimit settings.root).lintFiles disk
        (Resolver.resolve disk settings.extensions) files).1 ∧
      run.linter = ((Linter.new disk.cwd settings.depthLimit settings.root).lintFiles disk
        (Resolver.resolve disk settings.extensions) files).2 := by
  unfold lintAll at linted
  cases prepared : Discovery.prepare settings.extensions settings.exclude with
  | error error => simp [prepared, bind, Except.bind] at linted
  | ok discovery =>
    simp only [prepared, bind, Except.bind, pure, Except.pure, Except.ok.injEq] at linted
    rw [← linted]
    exact ⟨discovery.discover disk (settings.paths.map .text), rfl, rfl⟩

/-- Where no file could be read nothing is reported. -/
theorem Linter.hasCycles_of_filesChecked_eq_zero {linter : Linter} {disk : Disk} {resolve : Resolve}
    {files : List FileId} (none : (linter.lintFiles disk resolve files).1.filesChecked = 0) :
    (linter.lintFiles disk resolve files).1.hasCycles = false := by
  have empty : readable disk files = [] := List.length_eq_zero_iff.1 none
  simp [lintFiles, empty, lintScanned, LintReport.hasCycles]

/-- The exit code of `inspect` when it is asked to fail on cycles. -/
theorem exitCode_inspect_eq_one_iff {around : CommandLine.Surroundings} {args : List String}
    {verbose : Nat} {common : SharedArgs} {format : Report.Format} {search : SearchArgs}
    {settings : Settings} {run : LintRun}
    (parsed : CommandLine.parse around.env args =
      .ok ⟨verbose, .inspect common format search true⟩)
    (configured : Settings.ofArgs around.disk common search = .ok settings)
    (linted : lintAll around.disk settings = .ok run) :
    (CommandLine.run around args).exitCode = 1 ↔ run.report.hasCycles = true := by
  have options : InspectOptions.ofCommand around.disk (.inspect common format search true) =
      .ok ⟨settings, format, true, search.maxCycles⟩ := by
    simp [InspectOptions.ofCommand, configured, InspectOptions.Draft.complete, requireField, bind,
      Except.bind, pure, Except.pure]
  obtain ⟨files, report, _⟩ := lintAll_ok linted
  simp only [CommandLine.run, parsed, Command.perform, options, InspectOptions.perform, linted]
  split
  · rename_i none
    have quiet : run.report.hasCycles = false := by
      rw [report] at none ⊢
      exact Linter.hasCycles_of_filesChecked_eq_zero none
    simp [CommandLine.outcomeOf, quiet]
  · cases found : run.report.hasCycles with
    | true => simp [CommandLine.outcomeOf]
    | false => simp [CommandLine.outcomeOf]

/-- Every component with a short cycle is reported, and no other. This holds after each step of a run
in which no file changes; a run in which several clients take turns is a run like any other. So a
fresh linter reports a cycle exactly if the graph it builds has one within the limit, in whatever
order the files come, and `inspect` fails exactly then if it is asked to. -/
theorem component_reported_iff :
    (∀ limit history, Steady history → ∀ past, past <+: history → ∀ component,
      ((Session.new limit).analyseAll past).2.graph.IsComponent component →
      ((∃ members, ((Session.new limit).analyseAll past).2.graph.SimpleCycle members ∧
          members.length ≤ limit ∧ ∀ x ∈ members, x ∈ component) ↔
        ∃ cycle ∈ ((Session.new limit).analyseAll past).1, ∀ x ∈ cycle.members, x ∈ component)) ∧
      (∀ cwd limit root disk resolve files,
        ((Linter.new cwd limit root).lintFiles disk resolve files).1.hasCycles = true ↔
          ((Linter.new cwd limit root).lintFiles disk resolve files).2.graph.HasCycleWithin limit) ∧
      ∀ around args verbose common format search settings run,
        CommandLine.parse around.env args = .ok ⟨verbose, .inspect common format search true⟩ →
        Settings.ofArgs around.disk common search = .ok settings →
        lintAll around.disk settings = .ok run →
        ((CommandLine.run around args).exitCode = 1 ↔
          run.linter.graph.HasCycleWithin settings.depthLimit) := by
  refine ⟨?_, Linter.hasCycles_lintFiles_iff, ?_⟩
  · intro limit history steady past before component isComponent
    have steadyPast : Steady past := by
      intro a memA b memB
      exact steady a (before.subset memA) b (before.subset memB)
    exact (accounted_of_steady limit steadyPast).component_iff isComponent
  · intro around args verbose common format search settings run parsed configured linted
    obtain ⟨files, report, linter⟩ := lintAll_ok linted
    rw [exitCode_inspect_eq_one_iff parsed configured linted, report, linter]
    exact Linter.hasCycles_lintFiles_iff ..

/-- Two files that import each other, and a third that shares a cycle with the second. -/
def threeAnalyses : List Analysis :=
  [⟨inRoot "a", [(inRoot "b", {})]⟩, ⟨inRoot "b", [(inRoot "a", {}), (inRoot "c", {})]⟩,
    ⟨inRoot "c", [(inRoot "b", {})]⟩]

/-- A directory with two sources that import each other. -/
def pairDisk : Disk where
  root := .file (.text "a.ts") (.text "import './b'") <|
    .file (.text "b.ts") (.text "import './a'") .empty
  cwd := some "/"

/-- The cycle through the third file is passed over, and yet its component is accounted for. -/
theorem component_reported_iff_three :
    (∃ cycle ∈ ((Session.new 2).analyseAll threeAnalyses).1, ∀ x ∈ cycle.members,
      ((Session.new 2).analyseAll threeAnalyses).2.graph.Connected (inRoot "c") x) ∧
      (CommandLine.run { disk := pairDisk } ["inspect", "--error-on-cycles"]).exitCode = 1 := by
  constructor
  · have cb : ((Session.new 2).analyseAll threeAnalyses).2.graph.Imports (inRoot "c") (inRoot "b") :=
      by decide
    have bc : ((Session.new 2).analyseAll threeAnalyses).2.graph.Imports (inRoot "b") (inRoot "c") :=
      by decide
    have closed : ((Session.new 2).analyseAll threeAnalyses).2.graph.ClosedWalk (inRoot "c")
        [inRoot "c", inRoot "b"] := ⟨by simp, .cons cb (.single bc)⟩
    refine (component_reported_iff.1 2 threeAnalyses ?_ _ List.prefix_rfl _
      ⟨inRoot "c", fun _ => Iff.rfl⟩).1 ⟨_, ⟨by decide, _, closed⟩, by decide, ?_⟩
    · simp [Steady, threeAnalyses, inRoot]
    · exact fun x mem => closed.connected closed.head_mem mem
  · have parsed : CommandLine.parse (fun _ => none) ["inspect", "--error-on-cycles"] =
        .ok ⟨0, .inspect {} .human {} true⟩ := rfl
    have linted : ∃ run, lintAll pairDisk { paths := ["/"], root := some "/" } = .ok run ∧
        run.linter.graph.Imports (inRoot "a.ts") (inRoot "b.ts") ∧
        run.linter.graph.Imports (inRoot "b.ts") (inRoot "a.ts") := ⟨_, rfl, by decide, by decide⟩
    obtain ⟨run, linted, ab, ba⟩ := linted
    refine (component_reported_iff.2.2 { disk := pairDisk } _ _ _ _ _ _ run parsed rfl linted).2 ?_
    exact ⟨[inRoot "a.ts", inRoot "b.ts"],
      ⟨by decide, inRoot "a.ts", by simp, .cons ab (.single ba)⟩, by decide⟩

end ImportCycles
