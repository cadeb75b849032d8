import ImportCycles.Path.Component
import ImportCycles.Sorted
import Std.Data.TreeSet

/-! # File identities

A file is known by its normalised path: `.` pieces are dropped and `..` takes back the name before
it, without a look at the disk. Two paths that normalise to the same identity are the same file of
the import graph. Identities are ordered name by name, so `/p/a/b` comes before `/p/a-b`.
-/

namespace ImportCycles

/-- A normalised path: the names from the root, or from nowhere for a path that stayed relative. -/
structure FileId where
  rooted : Bool
  names : List Octets
  deriving DecidableEq, Repr, Inhabited

namespace FileId

open ImportCycles.Path (Component)

/-- The root directory. -/
def root : FileId := ⟨true, []⟩

/-- Takes one component of a path; `..` at the top has nothing to take back. -/
def step (file : FileId) : Component → FileId
  | .root => ⟨true, []⟩
  | .here => file
  | .up => { file with names := file.names.dropLast }
  | .name piece => { file with names := file.names ++ [piece] }

/-- The identity that a list of components leads to. -/
def ofComponents (steps : List Component) : FileId :=
  steps.foldl step ⟨false, []⟩

/-- The identity of `path`, read from the working directory `cwd`. Where there is no working
directory a relative path stays relative. -/
def ofPath (cwd : Option Octets) (path : Octets) : FileId :=
  ofComponents (Path.components (Path.join (cwd.getD "") path))

/-- The components of the identity's own path. -/
def components (file : FileId) : List Component :=
  (if file.rooted then [.root] else []) ++ file.names.map .name

/-- The identity written as a path. -/
def path (file : FileId) : Octets :=
  (if file.rooted then "/" else "") ++ Path.ofPieces file.names

/-- The identity as it is shown in full. -/
def text (file : FileId) : String := file.path.shown

/-- What is left of `file` below `base`, if `base` leads to it. -/
def below? (file : FileId) (base : Octets) : Option (List Component) :=
  (Path.components base).isPrefixOf? file.components

/-- The path of `file` as it is shown: relative to `base` where `base` leads to it and something is
left, in full otherwise. -/
def shown (file : FileId) (base : Option Octets) : String :=
  match base.bind file.below? with
  | some (first :: rest) => (ofComponents (first :: rest)).text
  | _ => file.text

/-- The directory that holds `file`; the root holds itself. -/
def folder (file : FileId) : Octets :=
  if file.names = [] then "/" else path { file with names := file.names.dropLast }

/-- What decides the order: the root, which comes before every name, and the names. -/
def key (file : FileId) : List (Option Octets) :=
  (if file.rooted then [none] else []) ++ file.names.map some

/-- The order of identities: name by name, a shorter path before its extensions. -/
def lt (a b : FileId) : Bool :=
  (compare a.key b.key).isLT

/-- The strictly increasing list of the given files. -/
def sorted (files : List FileId) : List FileId :=
  Sorted.sortNew lt files

/-- An order in which sets of files are kept. -/
instance : Ord FileId where
  compare := compareLex (compareOn FileId.rooted) (compareOn FileId.names)

instance : Std.TransOrd FileId :=
  inferInstanceAs (Std.TransCmp (compareLex (compareOn FileId.rooted) (compareOn FileId.names)))

instance : Std.LawfulEqOrd FileId where
  eq_of_compare {a b} h := by
    obtain ⟨rooted, names⟩ := Ordering.then_eq_eq.1 h
    obtain ⟨ra, na⟩ := a
    obtain ⟨rb, nb⟩ := b
    exact congr (congrArg FileId.mk (Std.LawfulEqOrd.eq_of_compare rooted))
      (Std.LawfulEqOrd.eq_of_compare names)

end FileId

/-- A set of files. -/
abbrev FileSet := Std.TreeSet FileId

end ImportCycles
