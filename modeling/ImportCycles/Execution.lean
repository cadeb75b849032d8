import ImportCycles.CommandLine.Command
import ImportCycles.Discovery
import ImportCycles.Failure
import ImportCycles.Lint.Linter

/-! # Carrying out commands

Each command finds the sources, lints them in one run, and writes a report or a drawing. Nothing is
written here: a command gives what it puts out, what happened on the way and the disk as it leaves
it.
-/

namespace ImportCycles

/-- What a command did. -/
structure Execution where
  /-- What happened, in order. -/
  events : List Event := []
  /-- What it puts out. -/
  output : String := ""
  /-- Why it failed, if it did. -/
  failure : Option Failure := none
  /-- Does it succeed, and yet ask for attention? -/
  alarming : Bool := false
  /-- The disk afterwards. -/
  disk : Disk

/-- The outcome of linting all sources. -/
structure LintRun where
  events : List Event
  linter : Linter
  report : LintReport

/-- Finds the sources and lints them in one run. -/
def lintAll (disk : Disk) (settings : Settings) : Except Error LintRun := do
  let discovery ← Discovery.prepare settings.extensions settings.exclude
  let paths : List Octets := settings.paths.map .text
  let files := discovery.discover disk paths
  let linter := Linter.new disk.cwd settings.depthLimit settings.root
  let (report, linted) := linter.lintFiles disk (Resolver.resolve disk settings.extensions) files
  let search :=
    [.searchBegins] ++ Discovery.events disk paths ++ [.searchEnds files.length]
  return ⟨search ++ linter.events disk files, linted, report⟩

/-- What a command was doing when the patterns of files to leave out could not be read. -/
def preparing : String := "Failed to prepare source discovery"

namespace InspectOptions

/-- Reports the circular imports of the sources. -/
def perform (disk : Disk) (options : InspectOptions) : Execution :=
  let heading := Event.said "🎢 Checking for circular imports...\n\n"
  match lintAll disk options.settings with
  | .error error =>
    { disk
      events := [heading]
      failure := some ⟨["Failed to lint source files", preparing], .error error⟩ }
  | .ok ⟨events, _, report⟩ =>
    if report.filesChecked = 0 then
      { disk
        events := [heading] ++ events ++ [.said "ℹ No source files found to lint\n"] }
    else
      { disk
        events := [heading] ++ events ++ [.cyclesFound report.cycleCount]
        output := Report.write options.format { maxCycles := options.maxCycles } report
        alarming := options.errorOnCycles && report.hasCycles }

end InspectOptions

namespace SpotlightOptions

/-- Reports the circular imports through one file. The file is read before anything else. -/
def perform (disk : Disk) (options : SpotlightOptions) : Execution :=
  let file := disk.fileId options.file
  let root := options.settings.root.map .text
  let heading := Event.said
    ("🔦 Looking for loops through '" ++ file.shown root ++ "'...\n\n")
  match disk.readText file.path with
  | .error failure =>
    { disk
      events := [heading]
      failure := some ⟨[], .error (.fileRead file.text failure)⟩ }
  | .ok source =>
    match lintAll disk options.settings with
    | .error error =>
      { disk
        events := [heading]
        failure := some ⟨["Failed to lint source files", preparing], .error error⟩ }
    | .ok ⟨events, linter, linted⟩ =>
      let report := { linted with diagnostics := linter.spotlight file source }
      let stranger := if file ∈ linter.graph.files then [] else
        [Event.said ("ℹ '" ++ options.file ++
          "' is not part of the import graph of the given paths\n")]
      { disk
        events := [heading] ++ events ++ stranger ++ [.cyclesFound report.cycleCount]
        output := Report.write options.format { maxCycles := options.maxCycles } report }

end SpotlightOptions

namespace SpectacleOptions

/-- Puts a drawing out, or into the file that is named for it. -/
def deliver (disk : Disk) (options : SpectacleOptions) (before : List Event) (drawing : String) :
    Execution :=
  match options.output with
  | none => { disk, events := before, output := drawing }
  | some path =>
    match disk.createFile path (.text drawing) with
    | .error failure => { disk, events := before, failure := some ⟨[], .output path failure⟩ }
    | .ok disk =>
      { disk, events := before ++ [.said ("✓ Graph written to " ++ path ++ "\n")] }

/-- Draws the import graph of the sources. Of what happens on the way only notices are told. -/
def perform (disk : Disk) (options : SpectacleOptions) : Execution :=
  let heading := Event.said ("📊 Generating " ++ options.format.name ++ " import graph...\n")
  match lintAll disk options.settings with
  | .error error =>
    { disk
      events := [heading]
      failure := some ⟨["Failed to build import graph", preparing], .error error⟩ }
  | .ok ⟨events, linter, _⟩ =>
    let style := { highlight := options.highlight, root := linter.root.map .text }
    options.deliver disk ([heading] ++ events.filter Event.isNotice)
      (Drawing.draw options.format style linter.graph)

end SpectacleOptions

/-- The failure to make the configuration of a command. -/
def unconfigured (disk : Disk) (name : String) (error : Error) : Execution where
  disk
  failure := some ⟨["Failed to parse " ++ name ++ " command configuration"], .error error⟩

/-- Carries out a command. -/
def Command.perform (disk : Disk) (command : Command) : Execution :=
  match command with
  | .inspect .. =>
    match InspectOptions.ofCommand disk command with
    | .ok options => options.perform disk
    | .error error => unconfigured disk "inspect" error
  | .spotlight .. =>
    match SpotlightOptions.ofCommand disk command with
    | .ok options => options.perform disk
    | .error error => unconfigured disk "spotlight" error
  | .spectacle .. =>
    match SpectacleOptions.ofCommand disk command with
    | .ok options => options.perform disk
    | .error error => unconfigured disk "spectacle" error

end ImportCycles
