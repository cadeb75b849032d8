import ImportCycles.FileId

/-! # The file tree

A disk is a tree of directories without links, together with the working directory from which
relative paths are read. A path is looked up piece by piece: every directory on the way has to
exist, also in front of `.` and `..`, and nothing lies below a file.
-/

namespace ImportCycles

/-- The entries of a directory, one after the other. -/
inductive Directory where
  | empty
  /-- A file with its content, and the other entries. -/
  | file (name content : Octets) (rest : Directory)
  /-- A directory with its entries, and the other entries. -/
  | folder (name : Octets) (inner rest : Directory)
  deriving DecidableEq

/-- What a name in a directory stands for. -/
inductive Item where
  | file (content : Octets)
  | folder (inner : Directory)
  deriving DecidableEq

namespace Directory

/-- The entry with the given name. -/
def find? (name : Octets) : Directory → Option Item
  | .empty => none
  | .file n content rest => if n = name then some (.file content) else rest.find? name
  | .folder n inner rest => if n = name then some (.folder inner) else rest.find? name

/-- What lies at the end of a chain of names. -/
def at? (dir : Directory) : List Octets → Option Item
  | [] => some (.folder dir)
  | name :: rest =>
    match dir.find? name with
    | none => none
    | some (.folder inner) => inner.at? rest
    | some (.file content) => if rest = [] then some (.file content) else none

/-- Puts an item, or nothing, in front of the other entries. -/
def place (name : Octets) (item : Option Item) (rest : Directory) : Directory :=
  match item with
  | none => rest
  | some (.file content) => .file name content rest
  | some (.folder inner) => .folder name inner rest

/-- Replaces the entry with the given name by what `change` makes of it. -/
def update (name : Octets) (change : Option Item → Option Item) : Directory → Directory
  | .empty => place name (change none) .empty
  | .file n content rest =>
    if n = name then place name (change (some (.file content))) rest
    else .file n content (rest.update name change)
  | .folder n inner rest =>
    if n = name then place name (change (some (.folder inner))) rest
    else .folder n inner (rest.update name change)

/-- Changes the directory at the end of a chain of names, which is made if it is missing. -/
def within (change : Directory → Directory) : List Octets → Directory → Directory
  | [], dir => change dir
  | name :: rest, dir =>
    dir.update name fun
      | some (.file content) => some (.file content)
      | some (.folder inner) => some (.folder (within change rest inner))
      | none => some (.folder (within change rest .empty))

/-- Writes a file at the end of a chain of names. -/
def write (names : List Octets) (content : Octets) (dir : Directory) : Directory :=
  match names.getLast? with
  | none => dir
  | some last => dir.within (update last fun _ => some (.file content)) names.dropLast

/-- Takes away what lies at the end of a chain of names. -/
def remove (names : List Octets) (dir : Directory) : Directory :=
  match names.getLast? with
  | none => dir
  | some last => dir.within (update last fun _ => none) names.dropLast

end Directory

/-- Why a file cannot be read or written. -/
inductive FileFailure where
  | notFound
  | notDirectory
  | isDirectory
  | nameTooLong
  /-- The path holds the byte that ends paths. -/
  | endsEarly
  | notText
  deriving DecidableEq, Repr

/-- The system's words for a failure. -/
def FileFailure.message : FileFailure → String
  | .notFound => "No such file or directory (os error 2)"
  | .notDirectory => "Not a directory (os error 20)"
  | .isDirectory => "Is a directory (os error 21)"
  | .nameTooLong => "File name too long (os error 36)"
  | .endsEarly => "file name contained an unexpected NUL byte"
  | .notText => "stream did not contain valid UTF-8"

/-- The number of bytes that a name may have. -/
def maxNameSize : Nat := 255

/-- The number of bytes that a path may have. -/
def maxPathSize : Nat := 4095

/-- Why there is nothing with this name in a directory that lacks it. -/
def FileFailure.absent (name : Octets) : FileFailure :=
  if maxNameSize < name.size then .nameTooLong else .notFound

/-- Follows the pieces of a path from the directory `here`, and gives the names that lead from the
root to what it finds. -/
def Directory.locate (root : Directory) (here : List Octets) :
    List Octets → Except FileFailure (List Octets × Item)
  | [] =>
    match root.at? here with
    | some item => .ok (here, item)
    | none => .error .notFound
  | piece :: rest =>
    match root.at? here with
    | none => .error .notFound
    | some (.file _) => .error .notDirectory
    | some (.folder inner) =>
      if piece = "" ∨ piece = "." then root.locate here rest
      else if piece = ".." then root.locate here.dropLast rest
      else
        match inner.find? piece with
        | none => .error (.absent piece)
        | some _ => root.locate (here ++ [piece]) rest

/-- The file tree, and the directory from which relative paths are read; like the paths that are given
by hand, it is a text. -/
structure Disk where
  root : Directory := .empty
  cwd : Option String := none

namespace Disk

/-- The identity of the file at `path`. -/
def fileId (disk : Disk) (path : Octets) : FileId :=
  FileId.ofPath (disk.cwd.map .text) path

/-- The pieces of a path that can be followed. The empty path leads nowhere, and neither does a
relative one without a working directory. -/
def route (disk : Disk) (path : Octets) : Except FileFailure (List Octets) :=
  let absolute := Path.join ((disk.cwd.map .text).getD "") path
  if path.bytes.contains 0 then .error .endsEarly
  else if path = "" then .error .notFound
  else if maxPathSize < path.size then .error .nameTooLong
  else if !Path.isAbsolute absolute then .error .notFound
  else .ok (Path.pieces absolute)

/-- Looks a path up. -/
def lookup (disk : Disk) (path : Octets) : Except FileFailure (List Octets × Item) := do
  disk.root.locate [] (← disk.route path)

/-- Does the path lead to a file or a directory? -/
def exists? (disk : Disk) (path : Octets) : Bool :=
  (disk.lookup path).toOption.isSome

/-- Does the path lead to a file? -/
def isFile (disk : Disk) (path : Octets) : Bool :=
  match disk.lookup path with
  | .ok (_, .file _) => true
  | _ => false

/-- The text of the file at `path`. -/
def readText (disk : Disk) (path : Octets) : Except FileFailure String :=
  match disk.lookup path with
  | .error failure => .error failure
  | .ok (_, .folder _) => .error .isDirectory
  | .ok (_, .file content) =>
    match content.toText? with
    | some text => .ok text
    | none => .error .notText

/-- Writes a file and the directories it needs, at a path that is normalised first. -/
def write (disk : Disk) (path content : Octets) : Disk :=
  { disk with root := disk.root.write (disk.fileId path).names content }

/-- Makes a directory and the ones it needs. -/
def makeDirectory (disk : Disk) (path : Octets) : Disk :=
  { disk with root := disk.root.within id (disk.fileId path).names }

/-- Takes away a file or a directory. -/
def remove (disk : Disk) (path : Octets) : Disk :=
  { disk with root := disk.root.remove (disk.fileId path).names }

/-- Adds an empty file with a name of arbitrary bytes to the working directory. -/
def addNamed (disk : Disk) (name : Octets) : Disk :=
  { disk with root := disk.root.within (.file name (.text "")) (disk.fileId ".").names }

/-- Creates or replaces the file at `path`, whose directory has to exist. A path that ends with a
slash names a directory. -/
def createFile (disk : Disk) (path content : Octets) : Except FileFailure Disk := do
  match disk.lookup path with
  | .ok (_, .folder _) => throw .isDirectory
  | .ok (names, .file _) => return { disk with root := disk.root.write names content }
  | .error failure =>
    let pieces ← disk.route path
    match pieces.reverse.dropWhile (· = .text "") with
    | [] => throw failure
    | last :: above =>
      match ← disk.root.locate [] above.reverse with
      | (_, .file _) => throw .notDirectory
      | (names, .folder _) =>
        if path.bytes.getLast? = some Path.slash then throw .isDirectory
        else if last = "." ∨ last = ".." then throw .notFound
        else if maxNameSize < last.size then throw .nameTooLong
        else return { disk with root := disk.root.write (names ++ [last]) content }

end Disk

end ImportCycles
