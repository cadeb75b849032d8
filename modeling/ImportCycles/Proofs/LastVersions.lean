import ImportCycles.Proofs.SameImports
import Mathlib.Data.List.Basic

/-! # Only the last version of a file counts

In the course of time files are analysed in one version after the other, in any order, and runs end
in between. Each analysis replaces what the earlier ones of its file have left and touches nothing
else, so the imports of a file are those of its last version. A session that starts from nothing and
sees only the last versions, in any order, comes to the same imports and answers alike.
-/

namespace ImportCycles

open FileId (inRoot)

/-- What is done in the course of time: a file is analysed in one of its versions, or a run ends. -/
inductive Deed (V : Type) where
  | analyse (file : FileId) (version : V)
  | endRun
  deriving DecidableEq, Repr

namespace Deed

variable {V W : Type}

/-- The analysis of a file in a version. -/
def of (entry : FileId × V) : Deed V := .analyse entry.1 entry.2

theorem of_injective : Function.Injective (of (V := V)) := by
  rintro ⟨file, version⟩ ⟨_, _⟩ eq
  obtain ⟨rfl, rfl⟩ := analyse.inj eq
  rfl

/-- Takes the version of a file for something else. -/
def map (f : FileId → V → W) : Deed V → Deed W
  | .analyse file version => .analyse file (f file version)
  | .endRun => .endRun

end Deed

section Latest

variable {V W : Type} {history other : List (Deed V)} {file : FileId} {version : V}

/-- The version in which `file` was analysed last. -/
def latest : List (Deed V) → FileId → Option V
  | [], _ => none
  | .analyse other version :: rest, file =>
    (latest rest file).or (if other = file then some version else none)
  | .endRun :: rest, file => latest rest file

theorem mem_of_latest (last : latest history file = some version) :
    .analyse file version ∈ history := by
  induction history with
  | nil => simp [latest] at last
  | cons deed rest ih =>
    cases deed with
    | analyse first version =>
      simp only [latest, Option.or_eq_some_iff] at last
      rcases last with later | ⟨_, here⟩
      · exact List.mem_cons_of_mem _ (ih later)
      · split at here
        · rename_i same
          rw [same, Option.some.inj here]
          exact List.mem_cons_self
        · simp at here
    | endRun => exact List.mem_cons_of_mem _ (ih last)

theorem exists_latest_of_mem (mem : .analyse file version ∈ history) :
    ∃ last, latest history file = some last := by
  induction history with
  | nil => simp at mem
  | cons deed rest ih =>
    cases deed with
    | analyse first earlier =>
      cases later : latest rest file with
      | some last => exact ⟨last, by simp [latest, later]⟩
      | none =>
        rcases List.mem_cons.1 mem with here | mem
        · obtain ⟨rfl, rfl⟩ := Deed.analyse.inj here
          exact ⟨version, by simp [latest, later]⟩
        · obtain ⟨last, found⟩ := ih mem
          rw [later] at found
          cases found
    | endRun =>
      rcases List.mem_cons.1 mem with here | mem
      · cases here
      · exact ih mem

/-- Where a file is analysed in no more than one version, that version is the last. -/
theorem latest_eq_some_iff (alike : ∀ first second, .analyse file first ∈ history →
      .analyse file second ∈ history → first = second) :
    latest history file = some version ↔ .analyse file version ∈ history := by
  constructor
  · exact mem_of_latest
  · intro mem
    obtain ⟨last, found⟩ := exists_latest_of_mem mem
    rw [found, alike last version (mem_of_latest found) mem]

theorem latest_map (f : FileId → V → W) :
    latest (history.map (·.map f)) file = (latest history file).map (f file) := by
  induction history with
  | nil => rfl
  | cons deed rest ih =>
    cases deed with
    | analyse first version =>
      change (latest (rest.map (·.map f)) file).or _ = _
      rw [ih, latest]
      cases latest rest file with
      | some last => rfl
      | none =>
        by_cases here : first = file
        · simp [here]
        · simp [here]
    | endRun => exact ih

/-- `fresh` lists the last version of each file that `history` analyses and no other version, in any
order. -/
def LastVersions (history : List (Deed V)) (fresh : List (FileId × V)) : Prop :=
  ∀ file version, (file, version) ∈ fresh ↔ latest history file = some version

/-- A history that analyses just the last versions of another has these for its own. -/
theorem LastVersions.latest_eq {fresh : List (FileId × V)} (versions : LastVersions history fresh)
    (file : FileId) : latest (fresh.map Deed.of) file = latest history file := by
  have mem_iff : ∀ version, .analyse file version ∈ fresh.map Deed.of ↔
      latest history file = some version := by
    intro version
    rw [← versions file version]
    exact List.mem_map_of_injective (a := (file, version)) Deed.of_injective
  have alike : ∀ first second, .analyse file first ∈ fresh.map Deed.of →
      .analyse file second ∈ fresh.map Deed.of → first = second := by
    intro first second memFirst memSecond
    exact Option.some.inj (((mem_iff first).1 memFirst).symm.trans ((mem_iff second).1 memSecond))
  apply Option.ext
  intro version
  rw [latest_eq_some_iff alike, mem_iff]

end Latest

/-- An analysis as something that is done. -/
def Analysis.deed (analysis : Analysis) : Deed (List (FileId × Location)) :=
  .analyse analysis.file analysis.imports

theorem Analysis.deed_injective : Function.Injective deed := by
  rintro ⟨file, imports⟩ ⟨_, _⟩ eq
  obtain ⟨rfl, rfl⟩ := Deed.analyse.inj eq
  rfl

/-- Where no file changes, the last import list of a file is any that it was analysed with. -/
theorem Steady.latest_eq_some_iff {analyses : List Analysis} (steady : Steady analyses)
    {file : FileId} {imports : List (FileId × Location)} :
    latest (analyses.map Analysis.deed) file = some imports ↔ ⟨file, imports⟩ ∈ analyses := by
  have mem_iff : ∀ imports, .analyse file imports ∈ analyses.map Analysis.deed ↔
      ⟨file, imports⟩ ∈ analyses :=
    fun imports => List.mem_map_of_injective (a := ⟨file, imports⟩) Analysis.deed_injective
  rw [ImportCycles.latest_eq_some_iff, mem_iff]
  intro first second memFirst memSecond
  exact steady _ ((mem_iff first).1 memFirst) _ ((mem_iff second).1 memSecond) rfl

namespace Session

variable {session : Session} {history other : List (Deed (List (FileId × Location)))}

/-- Does one thing. What an analysis reports is left out. -/
def act (session : Session) : Deed (List (FileId × Location)) → Session
  | .analyse file imports => (session.analyse file imports).2
  | .endRun => session.forgetReports

/-- Does one thing after the other. -/
def play (session : Session) (history : List (Deed (List (FileId × Location)))) : Session :=
  history.foldl act session

theorem depthLimit_play : (session.play history).depthLimit = session.depthLimit := by
  induction history generalizing session with
  | nil => rfl
  | cons deed rest ih =>
    change ((session.act deed).play rest).depthLimit = _
    rw [ih]
    cases deed with
    | analyse file imports => rw [act, analyse_eq_select]
    | endRun => rfl

/-- A file has the imports of its last version, or what it had before where it is not analysed. -/
theorem edgesFrom_play (file : FileId) :
    (session.play history).graph.edgesFrom file =
      (latest history file).elim (session.graph.edgesFrom file) (importEdges file) := by
  induction history generalizing session with
  | nil => rfl
  | cons deed rest ih =>
    change ((session.act deed).play rest).graph.edgesFrom file = _
    rw [ih]
    cases deed with
    | analyse first imports =>
      rw [act, edgesFrom_analyse, latest]
      cases latest rest file with
      | some last => rfl
      | none =>
        -- Nothing later concerns `file`, so this analysis is its last one if it is its own.
        by_cases here : file = first
        · simp [here]
        · simp [here, Ne.symm here]
    | endRun => rfl

/-- Fresh sessions that see the same last versions come to the same imports. -/
theorem sameImports_play (limit : Nat) (same : ∀ file, latest history file = latest other file) :
    ((new limit).play history).graph.SameImports ((new limit).play other).graph := by
  intro file
  rw [edgesFrom_play, same, ← edgesFrom_play]

theorem analyseAll_eq_play (analyses : List Analysis) :
    (session.analyseAll analyses).2 = session.play (analyses.map Analysis.deed) := by
  induction analyses generalizing session with
  | nil => rfl
  | cons analysis rest ih => exact ih

end Session

namespace Linter

/-- A version of a file as a linter is given it: the import statements and the whole text. -/
abbrev Version := List ImportStatement × String

/-- Does one thing. The diagnostics are left out. -/
def act (resolve : Resolve) (linter : Linter) : Deed Version → Linter
  | .analyse file (imports, source) => (linter.lintStatements resolve file imports source).2
  | .endRun => linter.forgetReports

/-- Does one thing after the other. -/
def play (resolve : Resolve) (linter : Linter) (history : List (Deed Version)) : Linter :=
  history.foldl (act resolve) linter

/-- The session of a linter sees the resolved imports of each version. -/
theorem play_eq (resolve : Resolve) (linter : Linter) (history : List (Deed Version)) :
    linter.play resolve history =
      { linter with session :=
          linter.session.play (history.map (·.map fun file version =>
            resolved resolve file version.1)) } := by
  induction history generalizing linter with
  | nil => rfl
  | cons deed rest ih =>
    change (linter.act resolve deed).play resolve rest = _
    rw [ih]
    cases deed with
    | analyse file version => rfl
    | endRun => rfl

/-- Linting the files of a disk is a history like any other. -/
theorem lintFiles_eq (linter : Linter) (disk : Disk) (resolve : Resolve) (files : List FileId) :
    (linter.lintFiles disk resolve files).2 =
      { linter with session :=
          linter.session.play (((readable disk files).map (·.analysis resolve)).map
            Analysis.deed) } := by
  rw [← Session.analyseAll_eq_play]
  exact (lintScanned_eq linter resolve (readable disk files)).2

/-- The order in which files are given, and how often, has no effect on their last versions. -/
theorem latest_readable (disk : Disk) (resolve : Resolve) {files others : List FileId}
    (same : ∀ file, file ∈ files ↔ file ∈ others) (file : FileId) :
    latest (((readable disk files).map (·.analysis resolve)).map Analysis.deed) file =
      latest (((readable disk others).map (·.analysis resolve)).map Analysis.deed) file := by
  have readAlike : ∀ scanned, scanned ∈ readable disk files ↔ scanned ∈ readable disk others := by
    intro scanned
    simp only [readable, List.mem_filterMap, same]
  apply Option.ext
  intro imports
  rw [(steady_readable disk resolve files).latest_eq_some_iff,
    (steady_readable disk resolve others).latest_eq_some_iff]
  simp only [List.mem_map, readAlike]

end Linter

/-- Sessions that have the same imports for every file, in the same order and at the same places, and
find the same cycles through it. -/
def Session.Alike (session other : Session) : Prop :=
  (∀ file, session.graph.edgesFrom file = other.graph.edgesFrom file) ∧
    ∀ file, session.cyclesAt file = other.cyclesAt file

/-- Linters that have the same imports for every file, in the same order and at the same places, and
put the same cycles through it into the spotlight. -/
def Linter.Alike (linter other : Linter) : Prop :=
  (∀ file, linter.graph.edgesFrom file = other.graph.edgesFrom file) ∧
    ∀ file source, linter.spotlight file source = other.spotlight file source

section Alike

variable {history other : List (Deed (List (FileId × Location)))}

theorem Session.alike_play (limit : Nat) (same : ∀ file, latest history file = latest other file) :
    Alike ((new limit).play history) ((new limit).play other) := by
  have imports := sameImports_play limit same
  exact ⟨imports, cyclesAt_congr imports (by rw [depthLimit_play, depthLimit_play])⟩

theorem Linter.alike_play (linter : Linter) (limit : Nat)
    (same : ∀ file, latest history file = latest other file) :
    Alike { linter with session := (Session.new limit).play history }
      { linter with session := (Session.new limit).play other } := by
  have imports := Session.sameImports_play limit same
  have limits : ((Session.new limit).play history).depthLimit =
      ((Session.new limit).play other).depthLimit := by
    rw [Session.depthLimit_play, Session.depthLimit_play]
  exact ⟨imports, spotlight_congr imports limits rfl⟩

end Alike

/-- Only the last version of a file counts. However often files were analysed, in whatever order, with
whatever changes and with whatever ends of runs in between: every file has the imports of its last
version, and a session or a linter that starts from nothing and sees just the last versions, in any
order, has the same imports and answers alike. So does a linter that is given the same files in
another order. -/
theorem rebuilt_alike :
    (∀ limit history file, ((Session.new limit).play history).graph.edgesFrom file =
      (latest history file).elim [] (importEdges file)) ∧
      (∀ limit history fresh, LastVersions history fresh →
        ((Session.new limit).play history).Alike ((Session.new limit).play (fresh.map Deed.of))) ∧
      (∀ cwd limit root resolve history fresh, LastVersions history fresh →
        ((Linter.new cwd limit root).play resolve history).Alike
          ((Linter.new cwd limit root).play resolve (fresh.map Deed.of))) ∧
      ∀ cwd limit root disk resolve files others, (∀ file, file ∈ files ↔ file ∈ others) →
        ((Linter.new cwd limit root).lintFiles disk resolve files).2.Alike
          ((Linter.new cwd limit root).lintFiles disk resolve others).2 := by
  refine ⟨?_, ?_, ?_, ?_⟩
  · intro limit history file
    exact Session.edgesFrom_play file
  · intro limit history fresh versions
    apply Session.alike_play
    intro file
    rw [versions.latest_eq]
  · intro cwd limit root resolve history fresh versions
    rw [Linter.play_eq, Linter.play_eq]
    apply Linter.alike_play
    intro file
    rw [latest_map, latest_map, versions.latest_eq]
  · intro cwd limit root disk resolve files others same
    rw [Linter.lintFiles_eq, Linter.lintFiles_eq]
    apply Linter.alike_play
    exact Linter.latest_readable disk resolve same

/-- A run over two files, and then an edit of the first and a new file. -/
def edited {V : Type} (old new b c : V) : List (Deed V) :=
  [.analyse (inRoot "a") old, .analyse (inRoot "b") b, .endRun, .analyse (inRoot "a") new,
    .analyse (inRoot "c") c]

theorem lastVersions_edited {V : Type} (old new b c : V) :
    LastVersions (edited old new b c) [(inRoot "c", c), (inRoot "a", new), (inRoot "b", b)] := by
  intro file version
  by_cases atA : file = inRoot "a"
  · simp [edited, latest, atA, inRoot, eq_comm]
  · by_cases atB : file = inRoot "b"
    · simp [edited, latest, atB, inRoot, eq_comm]
    · by_cases atC : file = inRoot "c"
      · simp [edited, latest, atC, inRoot, eq_comm]
      · simp [edited, latest, atA, atB, atC, Ne.symm atA, Ne.symm atB, Ne.symm atC]

theorem rebuilt_alike_edited :
    ((Session.new 50).play (edited [(inRoot "b", {})] [(inRoot "c", {})] [(inRoot "a", {})]
        [(inRoot "a", {})])).Alike
      ((Session.new 50).play [.analyse (inRoot "c") [(inRoot "a", {})],
        .analyse (inRoot "a") [(inRoot "c", {})], .analyse (inRoot "b") [(inRoot "a", {})]]) ∧
      ((Linter.new none 50 none).play (fun specifier _ => .file (inRoot specifier))
        (edited ([⟨"b", {}⟩], "import 'b'") ([⟨"c", {}⟩], "import 'c'") ([⟨"a", {}⟩], "import 'a'")
          ([⟨"a", {}⟩], "import 'a'"))).Alike
        ((Linter.new none 50 none).play (fun specifier _ => .file (inRoot specifier))
          [.analyse (inRoot "c") ([⟨"a", {}⟩], "import 'a'"),
            .analyse (inRoot "a") ([⟨"c", {}⟩], "import 'c'"),
            .analyse (inRoot "b") ([⟨"a", {}⟩], "import 'a'")]) :=
  ⟨rebuilt_alike.2.1 50 _ _ (lastVersions_edited _ _ _ _),
    rebuilt_alike.2.2.1 none 50 none _ _ _ (lastVersions_edited _ _ _ _)⟩

end ImportCycles
