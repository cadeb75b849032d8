import ImportCycles.Disk
import ImportCycles.Event
import ImportCycles.Lint.Report
import ImportCycles.Resolver
import ImportCycles.Session
import ImportCycles.Source.Scan

/-! # The linter

The linter feeds files into a session and turns the cycles it finds into diagnostics. The session
stays between runs, so linting an edited file again replaces only that file's imports.
-/

namespace ImportCycles

/-- A session, and the directory that messages are relative to. -/
structure Linter where
  session : Session := {}
  root : Option String := none
  deriving DecidableEq, Repr, Inhabited

/-- A file that was read, and the imports found in it. -/
structure ScannedFile where
  file : FileId
  source : String
  imports : List ImportStatement
  deriving DecidableEq, Repr, Inhabited

/-- Reads and scans a file. -/
def ScannedFile.read (disk : Disk) (file : FileId) : Except FileFailure ScannedFile :=
  (disk.readText file.path).map fun source => ⟨file, source, Source.imports source⟩

namespace Linter

/-- A linter that has seen nothing. Its root is normalised like a file. -/
def new (cwd : Option String) (depthLimit : Nat) (root : Option String) : Linter where
  session := Session.new depthLimit
  root := root.map fun path => (FileId.ofPath (cwd.map .text) path).text

/-- The import graph so far. -/
def graph (linter : Linter) : ImportGraph := linter.session.graph

/-- The files that a list of imports resolves to, with the places of the imports. -/
def resolved (resolve : Resolve) (file : FileId) (imports : List ImportStatement) :
    List (FileId × Location) :=
  imports.filterMap fun statement =>
    match resolve statement.specifier file with
    | .file target => some (target, statement.location)
    | _ => none

/-- The place of the import that leads into the cycle. -/
def entrance (linter : Linter) (cycle : Cycle) : Location :=
  match cycle.links.head? with
  | some (source, target) => ((linter.graph.find? source target).map (·.location)).getD {}
  | none => {}

/-- The diagnostic for a cycle found in a file with the given text. -/
def diagnose (linter : Linter) (source : String) (cycle : Cycle) : Diagnostic :=
  Diagnostic.new cycle (linter.entrance cycle) source (linter.root.map .text)

/-- Replaces the imports of a file, and reports the cycles it closes that were not reported yet. -/
def lintStatements (linter : Linter) (resolve : Resolve) (file : FileId)
    (imports : List ImportStatement) (source : String) : List Diagnostic × Linter :=
  let (cycles, session) := linter.session.analyse file (resolved resolve file imports)
  let linter := { linter with session }
  (cycles.map (linter.diagnose source), linter)

/-- Lints a file with the given text. -/
def lintText (linter : Linter) (resolve : Resolve) (file : FileId) (source : String) :
    List Diagnostic × Linter :=
  linter.lintStatements resolve file (Source.imports source) source

/-- Lints files that were read already, one after the other. -/
def lintScanned (linter : Linter) (resolve : Resolve) :
    List ScannedFile → List Diagnostic × Linter
  | [] => ([], linter)
  | scanned :: rest =>
    let (found, linter) :=
      linter.lintStatements resolve scanned.file scanned.imports scanned.source
    let (others, linter) := linter.lintScanned resolve rest
    (found ++ others, linter)

/-- The files that can be read, scanned. -/
def readable (disk : Disk) (files : List FileId) : List ScannedFile :=
  files.filterMap fun file => (ScannedFile.read disk file).toOption

/-- The files that cannot be read. -/
def unreadable (disk : Disk) (files : List FileId) : List FileId :=
  files.filter fun file => (ScannedFile.read disk file).toOption.isNone

/-- Reads, scans and lints files in the order given. Files that cannot be read are left out. -/
def lintFiles (linter : Linter) (disk : Disk) (resolve : Resolve) (files : List FileId) :
    LintReport × Linter :=
  let scanned := readable disk files
  let (diagnostics, linter) := linter.lintScanned resolve scanned
  ({ filesChecked := scanned.length, diagnostics, root := linter.root.map .text }, linter)

/-- What happens while files are read, scanned and linted. -/
def events (linter : Linter) (disk : Disk) (files : List FileId) : List Event :=
  let scanned := readable disk files
  [.readingBegins files.length] ++
    (unreadable disk files).map (fun file => .fileUnreadable file.text) ++
    [.readingEnds, .lintingBegins scanned.length] ++
    scanned.map (fun entry => .linting (entry.file.shown (linter.root.map .text))) ++
    [.lintingEnds]

/-- The shortest cycles through a file with the given text, reported or not. -/
def spotlight (linter : Linter) (file : FileId) (source : String) : List Diagnostic :=
  (linter.session.cyclesAt file).map (linter.diagnose source)

/-- Ends a run: what was reported is forgotten, the graph stays. -/
def forgetReports (linter : Linter) : Linter :=
  { linter with session := linter.session.forgetReports }

/-- Forgets the graph and everything reported. -/
def startOver (linter : Linter) : Linter :=
  { linter with session := linter.session.startOver }

end Linter

end ImportCycles
