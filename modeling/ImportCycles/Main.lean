import ImportCycles.CommandLine.Program

/-! # The executable

Copies what a command can look at from the real file tree, runs the program on the copy, and writes
what the program gives.
-/

namespace ImportCycles.Main

open CommandLine

/-- The bytes of a file. A file that cannot be read counts as one that holds no text. -/
def readOctets (path : String) : IO Octets := do
  try
    return Octets.ofBytes (← IO.FS.readBinFile path)
  catch _ =>
    return .raw [0xff]

/-- Copies a file or an empty directory, if the path leads to one. -/
def copyItem (disk : Disk) (path : String) : IO Disk := do
  let place := (← IO.currentDir) / path
  if ← place.isDir then return disk.makeDirectory path
  else if ← place.pathExists then return disk.write path (← readOctets path)
  else return disk

/-- Copies what a path leads to, and the directories it leads through. -/
def copyPath (disk : Disk) (path : String) : IO Disk := do
  let pieces := Path.pieces path
  let stops := (List.range pieces.length).map fun n => Path.ofPieces (pieces.take (n + 1))
  ((stops.filterMap Octets.toText?).filter (· ≠ "")).foldlM copyItem disk

/-- Copies the tree below a path, as far as the search for sources enters it. -/
partial def copyTree (disk : Disk) (path : String) : IO Disk := do
  let disk ← copyPath disk path
  let place := (← IO.currentDir) / path
  if !(← place.isDir) then return disk
  (← place.readDir).foldlM (fun disk entry => do
    let below := (Path.join path entry.fileName).shown
    if !(← entry.path.isDir) then copyItem disk below
    else if entry.fileName ∈ Discovery.skippedDirectories then return disk
    else copyTree disk below) disk

/-- Copies the files that the imports of a source may mean. -/
def copyImports (disk : Disk) (extensions : List String) (file : FileId) : IO Disk := do
  match ScannedFile.read disk file with
  | .error _ => return disk
  | .ok scanned =>
    let bases := (scanned.imports.map (·.specifier)).filter Resolver.isPath
    let candidates := bases.flatMap fun specifier =>
      Resolver.candidates extensions (Resolver.base specifier file)
    (candidates.filterMap Octets.toText?).foldlM copyPath disk

/-- Copies the sources that settings speak of, and the files they may import. -/
def copySources (disk : Disk) (settings : Settings) : IO Disk := do
  let disk ← settings.paths.foldlM copyTree disk
  match Discovery.prepare settings.extensions settings.exclude with
  | .error _ => return disk
  | .ok discovery =>
    (discovery.discover disk (settings.paths.map .text)).foldlM
      (fun disk file => copyImports disk settings.extensions file) disk

/-- The arguments of a command that all commands share, and the single files it looks at. -/
def lookedAt (cwd : Option String) : Command → SharedArgs × List String
  | .inspect common .. => (common, [])
  | .spotlight file common .. => (common, [(FileId.ofPath cwd file).text])
  | .spectacle common _ output _ => (common, output.toList)

/-- Copies everything that a command can look at. The depth limit plays no part in that, so any one
does. -/
def copyFor (disk : Disk) (command : Command) : IO Disk := do
  let (common, singles) := lookedAt disk.cwd command
  let disk ← (common.config.getD ConfigFile.defaultName :: singles).foldlM copyPath disk
  match Settings.ofArgs disk common { depthLimit := some 1 } with
  | .error _ => return disk
  | .ok settings => copySources disk settings

/-- Writes the file that a command made. -/
def save (outcome : Outcome) : Command → IO Unit
  | .spectacle _ _ (some path) _ => do
    if let .ok text := outcome.disk.readText path then
      if outcome.exitCode = 0 then IO.FS.writeFile path text
  | _ => return

/-- The values of the variables that stand in for arguments. -/
def environment : IO (List (String × String)) := do
  let names := (CommandName.all.flatMap fun command => command.args.filterMap (·.env)).eraseDups
  names.filterMapM fun name => return (← IO.getEnv name).map (name, ·)

/-- Runs the program, and gives its exit code. -/
def perform (args : List String) : IO UInt32 := do
  let values ← environment
  let env := fun name => values.lookup name
  let cwd := (← IO.currentDir).toString
  let disk := ({ cwd := some cwd } : Disk).makeDirectory "."
  let command := (parse env args).toOption.map (·.command)
  let disk ← match command with
    | none => pure disk
    | some command => copyFor disk command
  let outcome := run { disk, env, watched := ← (← IO.getStderr).isTty } args
  IO.eprint outcome.messages
  IO.print outcome.output
  command.forM (save outcome)
  return UInt32.ofNat outcome.exitCode

end ImportCycles.Main

def main (args : List String) : IO UInt32 :=
  ImportCycles.Main.perform args
