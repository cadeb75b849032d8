import ImportCycles.Proofs.LastMember

/-! # Which cyclic files a report names

A report does not name every file that lies on a short cycle. The search keeps to the shortest ways
round, so a file may be left out because an import bypasses it, and a cycle is passed over if another
of its members than the last one was named before. What the report does hold is settled by the last
member of each cycle: the cycle itself where no other cycle shares more with it than that member, and
at least a member of a cycle that is no longer and leaves the last member by the same way.
-/

namespace ImportCycles

open FileId (inRoot)

namespace Linter

variable {cwd root : Option String} {limit : Nat} {disk : Disk} {resolve : Resolve}
  {files : List FileId} {report : LintReport} {linter : Linter} {members : List FileId}

/-- A fresh linter comes to the graph, and reports the cycles, of the analyses of the files that can
be read. -/
theorem lintFiles_fresh
    (linted : (new cwd limit root).lintFiles disk resolve files = (report, linter)) :
    linter.graph = graphAfter limit ((readable disk files).map (·.analysis resolve)) ∧
      report.diagnostics.map (·.cycle) =
        returnedAfter limit ((readable disk files).map (·.analysis resolve)) :=
  ⟨(graph_lintFiles linted).2, (graph_lintFiles linted).1⟩

/-- The last member to be analysed is the last to come up among the files given. -/
theorem lastToAppear_of_readable {past rest : List Analysis} {analysis : Analysis}
    (divided : (readable disk files).map (·.analysis resolve) = past ++ analysis :: rest)
    (mem : analysis.file ∈ members) (new : analysis.file ∉ past.map (·.file))
    (known : ∀ x ∈ members, x ∈ (past ++ [analysis]).map (·.file)) :
    LastToAppear files members analysis.file := by
  have given : analysis.file ∈ ((readable disk files).map (·.analysis resolve)).map (·.file) := by
    simp [divided]
  obtain ⟨before, after, rfl, rfl, _, _⟩ := exists_file_of_readable divided
  refine ⟨mem, before, after, rfl, ?_, ?_⟩
  · intro early
    exact new (mem_files_readable.2 ⟨early, (mem_files_readable.1 given).2⟩)
  · intro x inMembers
    have analysed := known x inMembers
    rw [List.map_append, List.mem_append] at analysed
    rcases analysed with old | here
    · exact List.mem_append_left _ (mem_files_readable.1 old).1
    · exact List.mem_append_right _ here

/-- What a report holds of the files on short cycles. Each cycle within the limit has a member that
comes up last. If no other cycle within the limit shares a file other than this one with it, the cycle
is in the report with all its members. In any case there is a cycle that is no longer, leaves the last
member for the same file, and is in the report unless another of its members is on a cycle that is. -/
theorem cyclic_file_reported
    (linted : (new cwd limit root).lintFiles disk resolve files = (report, linter))
    (isCycle : linter.graph.SimpleCycle members) (within : members.length ≤ limit) :
    ∃ last, LastToAppear files members last ∧
      ((∀ other, linter.graph.SimpleCycle other → other.length ≤ limit →
          (∃ x ∈ members, x ≠ last ∧ x ∈ other) → other ~r members) →
        ∃ diagnostic ∈ report.diagnostics, diagnostic.cycle.members ~r members) ∧
      ∃ next cycle, linter.graph.Takes members last next ∧
        linter.graph.RoundByFirst last next cycle.members ∧ cycle.members.Nodup ∧
        cycle.size ≤ members.length ∧
        ((∃ diagnostic ∈ report.diagnostics, diagnostic.cycle = cycle) ∨
          ∃ x ∈ cycle.members.drop 1, ∃ diagnostic ∈ report.diagnostics,
            x ∈ diagnostic.cycle.members) := by
  obtain ⟨graph, cycles⟩ := lintFiles_fresh linted
  have reported : ∀ {cycle}, cycle ∈ returnedAfter limit ((readable disk files).map
      (·.analysis resolve)) → ∃ diagnostic ∈ report.diagnostics, diagnostic.cycle = cycle := by
    intro cycle mem
    rw [← cycles] at mem
    exact List.mem_map.1 mem
  have steady := steady_readable disk resolve files
  rw [graph] at isCycle ⊢
  obtain ⟨past, analysis, rest, divided, mem, new, known⟩ := exists_last_analysis steady isCycle
  rw [divided] at steady isCycle reported ⊢
  refine ⟨analysis.file, lastToAppear_of_readable divided mem new known, ?_, ?_⟩
  · intro alone
    obtain ⟨cycle, returned, same⟩ :=
      exists_returnedBy_last steady isCycle within mem new known alone
    obtain ⟨diagnostic, inReport, rfl⟩ := reported (mem_returnedAfter returned)
    exact ⟨diagnostic, inReport, same⟩
  · obtain ⟨next, cycle, takes, round, nodup, size, outcome⟩ :=
      exists_round_last steady isCycle within mem known
    refine ⟨next, cycle, takes, round, nodup, size, ?_⟩
    rcases outcome with returned | ⟨x, inDrop, other, before, inOther⟩
    · exact .inl (reported (mem_returnedAfter returned))
    · obtain ⟨diagnostic, inReport, rfl⟩ := reported before
      exact .inr ⟨x, inDrop, diagnostic, inReport, inOther⟩

end Linter

/-- Two sources that each import the one they are imported by. -/
def hubDisk : Disk where
  root := .file (.text "a") (.text "import './b'; import './c'") <|
    .file (.text "b") (.text "import './a'") <| .file (.text "c") (.text "import './a'") .empty
  cwd := some "/"

def hubAnalysis : Analysis :=
  ⟨inRoot "a", [(inRoot "b", ⟨0, 12, 1, 1⟩), (inRoot "c", ⟨14, 12, 1, 15⟩)]⟩

def spokeAnalyses : List Analysis :=
  [⟨inRoot "b", [(inRoot "a", ⟨0, 12, 1, 1⟩)]⟩, ⟨inRoot "c", [(inRoot "a", ⟨0, 12, 1, 1⟩)]⟩]

/-- Where every import starts or ends at one file, a cycle through another one goes straight back. -/
theorem ImportGraph.SimpleCycle.isRotated_of_hub {graph : ImportGraph} {hub spoke : FileId}
    {members : List FileId} (imports : ∀ x y, graph.Imports x y → x = hub ∨ y = hub)
    (irreflexive : ¬ graph.Imports hub hub) (apart : spoke ≠ hub)
    (isCycle : graph.SimpleCycle members) (mem : spoke ∈ members) : members ~r [hub, spoke] := by
  obtain ⟨nodup, _, closed⟩ := isCycle
  obtain ⟨rotated, same, round⟩ := closed.rotate mem
  obtain ⟨next, rest, rfl, toNext, walk⟩ := round.roundByFirst
  rw [← same.nodup_iff] at nodup
  obtain rfl : next = hub := (imports _ _ toNext).resolve_left apart
  cases walk with
  | nil => exact absurd rfl apart
  | @cons _ second _ rest fromHub walk =>
    cases walk with
    | nil => exact same.symm.trans ⟨1, rfl⟩
    | @cons _ third _ rest onward walk =>
      rcases imports _ _ onward with rfl | rfl
      · exact absurd fromHub irreflexive
      · cases walk with
        | nil => exact absurd rfl apart
        | cons _ _ => simp at nodup

/-- Linted after the others, the file that both cycles share brings up both of them. -/
theorem cyclic_file_reported_hub_last :
    ∃ report linter, (Linter.new (some "/") 50 none).lintFiles hubDisk
        (Resolver.resolve hubDisk defaultExtensions) [inRoot "b", inRoot "c", inRoot "a"] =
          (report, linter) ∧
      linter.graph.SimpleCycle [inRoot "a", inRoot "b"] ∧
      ∃ diagnostic ∈ report.diagnostics, diagnostic.cycle.members ~r [inRoot "a", inRoot "b"] := by
  obtain ⟨report, linter, linted⟩ : ∃ report linter, (Linter.new (some "/") 50 none).lintFiles hubDisk
      (Resolver.resolve hubDisk defaultExtensions) [inRoot "b", inRoot "c", inRoot "a"] =
        (report, linter) := ⟨_, _, rfl⟩
  have graph : linter.graph = graphAfter 50 (spokeAnalyses ++ [hubAnalysis]) :=
    (Linter.lintFiles_fresh linted).1
  have steady : Steady (spokeAnalyses ++ [hubAnalysis]) := by
    simp [Steady, spokeAnalyses, hubAnalysis, inRoot]
  have star : ∀ x y, linter.graph.Imports x y → x = inRoot "a" ∨ y = inRoot "a" := by
    intro x y step
    rw [graph] at step
    obtain ⟨analysis, mem, rfl, target⟩ := ((accounted_of_steady 50 steady).imports x y).1 step
    simp only [spokeAnalyses, hubAnalysis, List.cons_append, List.nil_append, List.mem_cons,
      List.not_mem_nil, or_false] at mem
    rcases mem with rfl | rfl | rfl
    · exact .inr (by simpa using target)
    · exact .inr (by simpa using target)
    · exact .inl rfl
  have irreflexive : ¬ linter.graph.Imports (inRoot "a") (inRoot "a") := by
    rw [graph]
    decide
  have isCycle : linter.graph.SimpleCycle [inRoot "a", inRoot "b"] := by
    have ab : linter.graph.Imports (inRoot "a") (inRoot "b") := by
      rw [graph]
      decide
    have ba : linter.graph.Imports (inRoot "b") (inRoot "a") := by
      rw [graph]
      decide
    exact ⟨by decide, inRoot "a", by simp, .cons ab (.single ba)⟩
  obtain ⟨last, appears, reported, _⟩ :=
    Linter.cyclic_file_reported linted isCycle (by decide)
  refine ⟨report, linter, linted, isCycle, reported ?_⟩
  rintro other isOther _ ⟨x, mem, notLast, inOther⟩
  rcases List.mem_pair.1 mem with rfl | rfl
  · -- The hub is not the first to come up, so it is the last member.
    obtain rfl : last = inRoot "b" := (List.mem_pair.1 appears.1).resolve_left (Ne.symm notLast)
    have first : LastToAppear ([] ++ inRoot "b" :: [inRoot "c", inRoot "a"])
        [inRoot "a", inRoot "b"] (inRoot "b") := appears
    exact absurd (first.known (by simp) (inRoot "a") (by simp)) (by decide)
  · exact isOther.isRotated_of_hub star irreflexive (by decide) inOther

/-- Four sources that import each other in a ring, and one import that leaves out the second. -/
def chordDisk : Disk where
  root := .file (.text "a") (.text "import './b'; import './c'") <|
    .file (.text "b") (.text "import './c'") <|
    .file (.text "c") (.text "import './d'") <|
    .file (.text "d") (.text "import './a'") .empty
  cwd := some "/"

/-- The analyses of these sources in path order. -/
def chordAnalyses : List Analysis :=
  [⟨inRoot "a", [(inRoot "b", ⟨0, 12, 1, 1⟩), (inRoot "c", ⟨14, 12, 1, 15⟩)]⟩,
    ⟨inRoot "b", [(inRoot "c", ⟨0, 12, 1, 1⟩)]⟩,
    ⟨inRoot "c", [(inRoot "d", ⟨0, 12, 1, 1⟩)]⟩,
    ⟨inRoot "d", [(inRoot "a", ⟨0, 12, 1, 1⟩)]⟩]

/-- A fresh linter that is given `files` reports no cycle through `file`, although it is on a cycle
within the limit. -/
def Unreported (disk : Disk) (limit : Nat) (files : List FileId) (file : FileId) : Prop :=
  ∃ report linter, (Linter.new disk.cwd limit none).lintFiles disk
      (Resolver.resolve disk defaultExtensions) files = (report, linter) ∧
    (∃ members, linter.graph.SimpleCycle members ∧ members.length ≤ limit ∧ file ∈ members) ∧
    ∀ diagnostic ∈ report.diagnostics, file ∉ diagnostic.cycle.members

theorem unreported_of_returnedAfter {disk : Disk} {limit : Nat} {files members : List FileId}
    {file : FileId} {history : List Analysis} {returned : List Cycle}
    (analyses : (Linter.readable disk files).map
      (·.analysis (Resolver.resolve disk defaultExtensions)) = history)
    (isCycle : (graphAfter limit history).SimpleCycle members) (within : members.length ≤ limit)
    (mem : file ∈ members) (returns : returnedAfter limit history = returned)
    (absent : ∀ cycle ∈ returned, file ∉ cycle.members) : Unreported disk limit files file := by
  refine ⟨_, _, rfl, ?_, ?_⟩
  · rw [(Linter.lintFiles_fresh rfl).1, analyses]
    exact ⟨members, isCycle, within, mem⟩
  · intro diagnostic inReport
    refine absent diagnostic.cycle ?_
    rw [← returns, ← analyses, ← (Linter.lintFiles_fresh rfl).2]
    exact List.mem_map.2 ⟨diagnostic, inReport, rfl⟩

/-- Not every file on a short cycle is named. An import may leave the file out, and in an unlucky order
a file is passed over because the only other member of its cycle has been named for another one. -/
theorem cyclic_file_unreported :
    ([inRoot "a", inRoot "b", inRoot "c", inRoot "d"].Nodup ∧
      Linter.unreadable chordDisk [inRoot "a", inRoot "b", inRoot "c", inRoot "d"] = [] ∧
      Unreported chordDisk 50 [inRoot "a", inRoot "b", inRoot "c", inRoot "d"]
        (inRoot "b")) ∧
      [inRoot "a", inRoot "b", inRoot "c"].Nodup ∧
      Linter.unreadable hubDisk [inRoot "a", inRoot "b", inRoot "c"] = [] ∧
      Unreported hubDisk 50 [inRoot "a", inRoot "b", inRoot "c"] (inRoot "c") := by
  have ab : (graphAfter 50 chordAnalyses).Imports (inRoot "a") (inRoot "b") := by decide
  have bc : (graphAfter 50 chordAnalyses).Imports (inRoot "b") (inRoot "c") := by decide
  have cd : (graphAfter 50 chordAnalyses).Imports (inRoot "c") (inRoot "d") := by decide
  have da : (graphAfter 50 chordAnalyses).Imports (inRoot "d") (inRoot "a") := by decide
  have ring : (graphAfter 50 chordAnalyses).SimpleCycle
      [inRoot "a", inRoot "b", inRoot "c", inRoot "d"] :=
    ⟨by decide, inRoot "a", by simp, .cons ab (.cons bc (.cons cd (.single da)))⟩
  have ac : (graphAfter 50 (hubAnalysis :: spokeAnalyses)).Imports (inRoot "a") (inRoot "c") := by
    decide
  have ca : (graphAfter 50 (hubAnalysis :: spokeAnalyses)).Imports (inRoot "c") (inRoot "a") := by
    decide
  have pair : (graphAfter 50 (hubAnalysis :: spokeAnalyses)).SimpleCycle [inRoot "a", inRoot "c"] :=
    ⟨by decide, inRoot "a", by simp, .cons ac (.single ca)⟩
  have chordReturns : returnedAfter 50 chordAnalyses =
      [⟨[inRoot "d", inRoot "a", inRoot "c"]⟩] := by cbv
  have hubReturns : returnedAfter 50 (hubAnalysis :: spokeAnalyses) =
      [⟨[inRoot "b", inRoot "a"]⟩] := by cbv
  refine ⟨⟨by decide, rfl, ?_⟩, by decide, rfl, ?_⟩
  · exact unreported_of_returnedAfter rfl ring (by decide) (by simp) chordReturns (by decide)
  · exact unreported_of_returnedAfter rfl pair (by decide) (by simp) hubReturns (by decide)

end ImportCycles
