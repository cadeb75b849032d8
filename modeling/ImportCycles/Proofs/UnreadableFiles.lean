import ImportCycles.Proofs.Entrances
import ImportCycles.Proofs.LastVersions

/-! # Files that cannot be read

Linting files replaces the imports of those that can be read by what their texts resolve to. A file that
cannot be read is passed over: it keeps the imports that were recorded when it was linted last. They can
outlive the file that they stood in, until the linter starts over or the file is linted again.
-/

namespace ImportCycles

open FileId (inRoot)

namespace Linter

/-- What can be asked of a linter that may change it. -/
inductive Request where
  | lintText (file : FileId) (source : String)
  | lintStatements (file : FileId) (imports : List ImportStatement) (source : String)
  | lintFiles (files : List FileId)
  | forgetReports
  | startOver
  deriving DecidableEq, Repr

section Requests

variable {cwd root : Option String} {limit : Nat} {disk : Disk} {resolve : Resolve}
  {resolver : Disk → Resolve} {linter : Linter} {files : List FileId} {file : FileId}
  {had : List (FileId × Location)}

/-- Does what is asked, with the disk as it is at the time. -/
def serve (resolver : Disk → Resolve) (linter : Linter) : Disk × Request → Linter
  | (disk, .lintText file source) => (linter.lintText (resolver disk) file source).2
  | (disk, .lintStatements file imports source) =>
    (linter.lintStatements (resolver disk) file imports source).2
  | (disk, .lintFiles files) => (linter.lintFiles disk (resolver disk) files).2
  | (_, .forgetReports) => linter.forgetReports
  | (_, .startOver) => linter.startOver

/-- The imports that a file has after a request, given those that it had. -/
def importsAfter (resolve : Resolve) (disk : Disk) (file : FileId)
    (had : List (FileId × Location)) : Request → List (FileId × Location)
  | .lintText other source =>
    if other = file then resolved resolve file (Source.imports source) else had
  | .lintStatements other imports _ => if other = file then resolved resolve file imports else had
  | .lintFiles files =>
    if file ∈ files then
      match disk.readText file.path with
      | .ok source => resolved resolve file (Source.imports source)
      | .error _ => had
    else had
  | .forgetReports => had
  | .startOver => []

/-- The imports that were recorded for a file in the course of a history. -/
def recorded (resolver : Disk → Resolve) (file : FileId) (history : List (Disk × Request)) :
    List (FileId × Location) :=
  history.foldl (fun had entry => importsAfter (resolver entry.1) entry.1 file had entry.2) []

theorem mem_analyses_readable {imports : List (FileId × Location)} :
    ⟨file, imports⟩ ∈ (readable disk files).map (·.analysis resolve) ↔
      file ∈ files ∧ ∃ source, disk.readText file.path = .ok source ∧
        resolved resolve file (Source.imports source) = imports := by
  simp only [readable, List.mem_map, List.mem_filterMap]
  constructor
  · rintro ⟨scanned, ⟨other, given, read⟩, same⟩
    cases text : disk.readText other.path with
    | error _ => simp [ScannedFile.read, text, Except.map, Except.toOption] at read
    | ok source =>
      simp only [ScannedFile.read, text, Except.map, Except.toOption, Option.some.injEq] at read
      subst read
      obtain ⟨rfl, rfl⟩ := Analysis.mk.inj same
      exact ⟨given, source, text, rfl⟩
  · rintro ⟨given, source, text, rfl⟩
    refine ⟨⟨file, source, Source.imports source⟩, ⟨file, given, ?_⟩, rfl⟩
    rw [ScannedFile.read, text]
    rfl

theorem latest_analysis_eq (disk : Disk) (resolve : Resolve) (files : List FileId)
    (file : FileId) :
    latest (((readable disk files).map (·.analysis resolve)).map Analysis.deed) file =
      if file ∈ files then
        (disk.readText file.path).toOption.map fun source =>
          resolved resolve file (Source.imports source)
      else none := by
  apply Option.ext
  intro imports
  rw [(steady_readable disk resolve files).latest_eq_some_iff, mem_analyses_readable]
  by_cases given : file ∈ files
  · cases disk.readText file.path <;> simp [given, Except.toOption]
  · simp [given]

/-- Linting files gives those that can be read the imports of their texts. It leaves all others alone,
those that are to be linted and cannot be read among them. -/
theorem edgesFrom_lintFiles (linter : Linter) (disk : Disk) (resolve : Resolve)
    (files : List FileId) (file : FileId) :
    (linter.lintFiles disk resolve files).2.graph.edgesFrom file =
      if file ∈ files then
        match disk.readText file.path with
        | .ok source => orderedEdges file (resolved resolve file (Source.imports source))
        | .error _ => linter.graph.edgesFrom file
      else linter.graph.edgesFrom file := by
  rw [lintFiles_eq, graph, Session.edgesFrom_play, latest_analysis_eq]
  split
  · cases disk.readText file.path with
    | ok source => exact importEdges_eq_orderedEdges _ _
    | error failure => rfl
  · rfl

/-- Linting a file gives it the imports that it is linted with. -/
theorem edgesFrom_lintStatements (linter : Linter) (resolve : Resolve) (file other : FileId)
    (imports : List ImportStatement) (source : String) :
    (linter.lintStatements resolve file imports source).2.graph.edgesFrom other =
      if file = other then orderedEdges other (resolved resolve other imports)
      else linter.graph.edgesFrom other := by
  refine (Session.edgesFrom_analyse _ _ _ _).trans ?_
  by_cases same : file = other
  · subst same
    rw [if_pos rfl, if_pos rfl, importEdges_eq_orderedEdges]
  · rw [if_neg same, if_neg (Ne.symm same)]
    rfl

/-- One request changes what is recorded for a file to what `importsAfter` says. -/
theorem edgesFrom_serve (before : linter.graph.edgesFrom file = orderedEdges file had)
    (disk : Disk) (request : Request) :
    (linter.serve resolver (disk, request)).graph.edgesFrom file =
      orderedEdges file (importsAfter (resolver disk) disk file had request) := by
  cases request with
  | lintText other source =>
    rw [serve, lintText, edgesFrom_lintStatements, importsAfter, before]
    split <;> rfl
  | lintStatements other imports source =>
    rw [serve, edgesFrom_lintStatements, importsAfter, before]
    split <;> rfl
  | lintFiles files =>
    rw [serve, edgesFrom_lintFiles, importsAfter, before]
    split
    · cases disk.readText file.path <;> rfl
    · rfl
  | forgetReports => exact before
  | startOver => rfl

/-- The graph holds for each file what was recorded for it. -/
theorem edgesFrom_foldl_serve (history : List (Disk × Request)) (file : FileId) :
    (history.foldl (serve resolver) (new cwd limit root)).graph.edgesFrom file =
      orderedEdges file (recorded resolver file history) := by
  induction history using List.reverseRecOn with
  | nil => rfl
  | append_singleton history last ih =>
    rw [List.foldl_concat, recorded, List.foldl_concat]
    exact edgesFrom_serve ih last.1 last.2

/-- What linting files leaves, after any history. A file that can be read has exactly the imports that
its text resolves to, each target once. One that cannot be read keeps what was recorded for it before,
and so does one that was not to be linted. -/
theorem unreadable_keeps_recorded (cwd root : Option String) (limit : Nat)
    (resolver : Disk → Resolve) (history : List (Disk × Request)) (disk : Disk)
    (files : List FileId) {linter final : Linter}
    (reached : history.foldl (serve resolver) (new cwd limit root) = linter)
    (linted : (linter.lintFiles disk (resolver disk) files).2 = final) :
    (∀ file ∈ files, ∀ source, disk.readText file.path = .ok source →
      final.graph.edgesFrom file =
        orderedEdges file (resolved (resolver disk) file (Source.imports source))) ∧
    (∀ file ∈ files, ∀ failure, disk.readText file.path = .error failure →
      final.graph.edgesFrom file = linter.graph.edgesFrom file) ∧
    (∀ file, file ∉ files → final.graph.edgesFrom file = linter.graph.edgesFrom file) ∧
    ∀ file, linter.graph.edgesFrom file = orderedEdges file (recorded resolver file history) := by
  subst reached linted
  refine ⟨?_, ?_, ?_, edgesFrom_foldl_serve history⟩
  · intro file given source text
    rw [edgesFrom_lintFiles, if_pos given, text]
  · intro file given failure text
    rw [edgesFrom_lintFiles, if_pos given, text]
  · intro file absent
    rw [edgesFrom_lintFiles, if_neg absent]

end Requests

end Linter

/-- A source that imports another one. -/
def importingDisk : Disk where
  root := .file (.text "a") (.text "import './b'") <| .file (.text "b") (.text "") .empty
  cwd := some "/"

/-- The first source has been taken away. -/
def removedDisk : Disk where
  root := .file (.text "b") (.text "") .empty
  cwd := some "/"

/-- The first source is no text any more. -/
def garbledDisk : Disk where
  root := .file (.text "a") (.raw [255]) <| .file (.text "b") (.text "") .empty
  cwd := some "/"

/-- A run over the two sources that has ended. -/
def endedRun : List (Disk × Linter.Request) :=
  [(importingDisk, .lintFiles [inRoot "a", inRoot "b"]), (importingDisk, .forgetReports)]

/-- Resolves specifiers on the disk as it is. -/
def resolveOn (disk : Disk) : Resolve := Resolver.resolve disk defaultExtensions

theorem recorded_endedRun : Linter.recorded resolveOn (inRoot "a") endedRun =
    [(inRoot "b", ⟨0, 12, 1, 1⟩)] := rfl

theorem unreadable_keeps_recorded_removed :
    ∃ linter final, endedRun.foldl (Linter.serve resolveOn) (Linter.new (some "/") 50 none) = linter ∧
      (linter.lintFiles removedDisk (resolveOn removedDisk) [inRoot "a", inRoot "b"]).2 = final ∧
      removedDisk.readText (inRoot "b").path = .ok "" ∧ final.graph.edgesFrom (inRoot "b") = [] ∧
      removedDisk.readText (inRoot "a").path = .error .notFound ∧
      final.graph.edgesFrom (inRoot "a") = [⟨inRoot "a", inRoot "b", ⟨0, 12, 1, 1⟩⟩] := by
  obtain ⟨read, unread, _, before⟩ := Linter.unreadable_keeps_recorded (some "/") none 50 resolveOn
    endedRun removedDisk [inRoot "a", inRoot "b"] rfl rfl
  refine ⟨_, _, rfl, rfl, rfl, ?_, rfl, ?_⟩
  · exact read (inRoot "b") (by simp) "" rfl
  · rw [unread (inRoot "a") (by simp) .notFound rfl, before, recorded_endedRun]
    rfl

/-- A file that was to be linted and cannot be read can have an import all the same, be it that it is
gone or that it is no text. -/
theorem unreadable_imports :
    ∃ linter, endedRun.foldl (Linter.serve resolveOn) (Linter.new (some "/") 50 none) = linter ∧
      (removedDisk.readText (inRoot "a").path = .error .notFound ∧
        (linter.lintFiles removedDisk (resolveOn removedDisk)
          [inRoot "a", inRoot "b"]).2.graph.edgesFrom (inRoot "a") ≠ []) ∧
      garbledDisk.readText (inRoot "a").path = .error .notText ∧
        (linter.lintFiles garbledDisk (resolveOn garbledDisk)
          [inRoot "a", inRoot "b"]).2.graph.edgesFrom (inRoot "a") ≠ [] := by
  have kept : (endedRun.foldl (Linter.serve resolveOn)
      (Linter.new (some "/") 50 none)).graph.edgesFrom (inRoot "a") ≠ [] := by
    rw [Linter.edgesFrom_foldl_serve, recorded_endedRun]
    decide
  have removed : removedDisk.readText (inRoot "a").path = .error .notFound := rfl
  have garbled : garbledDisk.readText (inRoot "a").path = .error .notText := rfl
  refine ⟨_, rfl, ⟨removed, ?_⟩, garbled, ?_⟩
  · rw [Linter.edgesFrom_lintFiles, if_pos (by simp), removed]
    exact kept
  · rw [Linter.edgesFrom_lintFiles, if_pos (by simp), garbled]
    exact kept

end ImportCycles
