import ImportCycles.Disk
import ImportCycles.Error
import ImportCycles.Event
import ImportCycles.Glob
import ImportCycles.Path.Parts

/-! # Finding source files

Source files are looked for at and below the given paths, in every directory that is not known to
hold packages or build results. What the given paths have in common is found once, and the result is
in path order.
-/

namespace ImportCycles

/-- What makes a file a source. A pattern of files to leave out is given by the paths that fit it. -/
structure Discovery where
  extensions : List String
  excludes : List (Octets → Bool)

namespace Discovery

/-- The directories that are never entered. -/
def skippedDirectories : List String := ["node_modules", ".git", "dist", "build", "target"]

/-- Is a directory with this name never entered? A name that is no text is none of those. -/
def isSkipped (name : Octets) : Bool :=
  name.toText?.any (skippedDirectories.contains ·)

/-- The paths that fit a pattern. A path that is no text fits none. -/
def fits (pattern : List Glob.Token) (path : Octets) : Bool :=
  path.toText?.any fun text => Glob.fits pattern text.toList

/-- Reads the patterns of files to leave out; fails with the first one that cannot be read. -/
def prepare (extensions excludes : List String) : Except Error Discovery :=
  (excludes.mapM fun pattern =>
    (Glob.parse pattern).mapError fun fault => .configuration (.badExclude pattern fault)).map
    fun patterns => ⟨extensions, patterns.map fits⟩

/-- A source has one of the extensions after a dot, and something before the dot. -/
def isSourceName (discovery : Discovery) (name : String) : Bool :=
  discovery.extensions.any fun extension =>
    let ending := '.' :: extension.toList
    ending.isSuffixOf name.toList && ending.length < name.toList.length

/-- Does a pattern exclude this path? -/
def leavesOut (discovery : Discovery) (path : Octets) : Bool :=
  discovery.excludes.any fun pattern => pattern path

end Discovery

/-- The files in a directory and below it, each with the names of the directories on the way.
Directories that are skipped are not entered. -/
def Directory.walk (above : List Octets) : Directory → List (List Octets × Octets)
  | .empty => []
  | .file name _ rest => (above, name) :: rest.walk above
  | .folder name inner rest =>
    (if Discovery.isSkipped name then [] else inner.walk (above ++ [name])) ++
      rest.walk above

namespace Discovery

/-- Is a file with this name and these paths a source that is not excluded? A name that is no text is
not that of a source. -/
def accepts (discovery : Discovery) (name relative walked : Octets) : Bool :=
  name.toText?.any discovery.isSourceName && !discovery.leavesOut relative &&
    !discovery.leavesOut walked

/-- The path of a walked file if it is a source that is not excluded. -/
def accept? (discovery : Discovery) (path : Octets) : List Octets × Octets → Option Octets
  | (above, name) =>
    let relative := Path.ofPieces (above ++ [name])
    let walked := Path.join path relative
    if discovery.accepts name relative walked then some walked else none

/-- The sources at or below a path; `none` if the path leads nowhere. -/
def discoverAt? (discovery : Discovery) (disk : Disk) (path : Octets) : Option (List FileId) :=
  match disk.lookup path with
  | .error _ => none
  | .ok (_, .folder inner) =>
    some ((inner.walk []).filterMap fun entry =>
      (discovery.accept? path entry).map disk.fileId)
  | .ok (_, .file _) =>
    let name : Octets := ((Path.splitLast? path).map fun (_, last) => last).getD ""
    if discovery.accepts name "" path then some [disk.fileId path] else some []

/-- The sources at or below the given paths, in path order. -/
def discover (discovery : Discovery) (disk : Disk) (paths : List Octets) : List FileId :=
  FileId.sorted (paths.flatMap fun path => (discovery.discoverAt? disk path).getD [])

/-- What happens while the given paths are searched. -/
def events (disk : Disk) (paths : List Octets) : List Event :=
  paths.map fun path =>
    if disk.exists? path then .searching path.shown else .pathMissing path.shown

end Discovery

end ImportCycles
