import ImportCycles.Diagnostic

/-! # What a run of the linter found -/

namespace ImportCycles

/-- The result of a run. -/
structure LintReport where
  filesChecked : Nat := 0
  diagnostics : List Diagnostic := []
  /-- The directory that paths are shown relative to. -/
  root : Option Octets := none
  deriving DecidableEq, Repr, Inhabited

namespace LintReport

/-- Was any cycle found? -/
def hasCycles (report : LintReport) : Bool :=
  !report.diagnostics.isEmpty

/-- The number of cycles found. -/
def cycleCount (report : LintReport) : Nat :=
  report.diagnostics.length

/-- A file as the report shows it. -/
def shownPath (report : LintReport) (file : FileId) : String :=
  file.shown report.root

/-- Puts a diagnostic behind those of its file. A file that has none yet gets its place in path
order. -/
def group (diagnostic : Diagnostic) :
    List (FileId × List Diagnostic) → List (FileId × List Diagnostic)
  | [] => [(diagnostic.file, [diagnostic])]
  | (file, found) :: rest =>
    if diagnostic.file.lt file then (diagnostic.file, [diagnostic]) :: (file, found) :: rest
    else if file.lt diagnostic.file then (file, found) :: group diagnostic rest
    else (file, found ++ [diagnostic]) :: rest

/-- The diagnostics by file, files in path order. -/
def byFile (report : LintReport) : List (FileId × List Diagnostic) :=
  report.diagnostics.foldl (fun groups diagnostic => group diagnostic groups) []

end LintReport

end ImportCycles
