import ImportCycles.Disk
import ImportCycles.Path.Parts

/-! # Resolving specifiers

A specifier that names a package is external. A relative or absolute one is tried as it stands, with
each extension after it, with the TypeScript extensions in place of a JavaScript one, and as a
directory with an index file; the first of these that is a file is meant. Files of installed
packages are external too.
-/

namespace ImportCycles

/-- What a specifier stands for. -/
inductive Resolution where
  /-- A file of the project. -/
  | file (file : FileId)
  /-- A package, or a file of one. -/
  | external
  /-- A path that leads to no file. -/
  | unresolvable
  deriving DecidableEq, Repr

/-- Resolves a specifier in the file that imports it. -/
abbrev Resolve := String → FileId → Resolution

/-- The extensions of source files, in the order they are tried. -/
def defaultExtensions : List String := ["ts", "tsx", "d.ts", "js", "jsx", "mjs", "cjs"]

namespace Resolver

/-- A specifier that is a path, not the name of a package. -/
def isPath (specifier : String) : Bool :=
  specifier == "." || specifier == ".." ||
    ["./", "../", "/"].any fun start => start.toList.isPrefixOf specifier.toList

/-- The extensions that name compiled sources. -/
def compiledExtensions : List Octets := ["js", "jsx", "mjs", "cjs"]

/-- The path with a TypeScript extension in place of its JavaScript one. -/
def sourceCandidates (base : Octets) : List Octets :=
  match Path.extension? base with
  | none => []
  | some extension =>
    if extension ∈ compiledExtensions then
      (["ts", "tsx", "d.ts"] : List Octets).map (Path.append (Path.dropExtension base extension))
    else []

/-- The paths that `base` may stand for, the likeliest first. -/
def candidates (extensions : List String) (base : Octets) : List Octets :=
  let extensions : List Octets := extensions.map .text
  [base] ++ extensions.map (Path.append base) ++ sourceCandidates base ++
    extensions.map fun extension => Path.join base ("index." ++ extension)

/-- The directory whose contents are packages. -/
def packageDirectory : Octets := "node_modules"

/-- The path that a specifier spells in the file that imports it. -/
def base (specifier : String) (importer : FileId) : Octets :=
  Path.join importer.folder specifier

/-- Resolves a specifier against the disk. -/
def resolve (disk : Disk) (extensions : List String) : Resolve := fun specifier importer =>
  if !isPath specifier then .external
  else
    match (candidates extensions (base specifier importer)).find? disk.isFile with
    | none => .unresolvable
    | some path =>
      let file := disk.fileId path
      if packageDirectory ∈ file.names then .external else .file file

end Resolver

end ImportCycles
