import ImportCycles.Cycle.Search

/-! # Detection sessions

A session keeps what outlives the analysis of one file: the import graph, the files that reported
cycles have named in this run, and the depth limit. A cycle is reported unless a member other than
the file it was found from was named before. Ending a run forgets what was reported and keeps the
graph; starting over forgets both.
-/

namespace ImportCycles

/-- The files that the cycles reported in a run have named, each once. -/
structure Reported where
  files : List FileId := []
  deriving DecidableEq, Repr, Inhabited

namespace Reported

/-- Was `file` named by a reported cycle? -/
def mentions (reported : Reported) (file : FileId) : Bool :=
  file ∈ reported.files

/-- How many files reported cycles have named. -/
def count (reported : Reported) : Nat :=
  reported.files.length

/-- Adds the files that are not there yet. -/
def insertAll (reported : Reported) (files : List FileId) : Reported :=
  files.foldl (fun found file => if file ∈ found.files then found else ⟨found.files ++ [file]⟩)
    reported

/-- A cycle is fresh unless a member after the first was found before. -/
def isFresh (reported : Reported) (cycle : Cycle) : Bool :=
  !(cycle.members.drop 1).any reported.mentions

/-- Decides whether to report `cycle`, and remembers its members if so. -/
def judge (reported : Reported) (cycle : Cycle) : Bool × Reported :=
  if reported.isFresh cycle then (true, reported.insertAll cycle.members) else (false, reported)

/-- The fresh ones among `cycles`, each judged after the ones before it were reported. -/
def select (reported : Reported) : List Cycle → List Cycle × Reported
  | [] => ([], reported)
  | cycle :: rest =>
    match reported.judge cycle with
    | (true, reported) =>
      let (fresh, reported) := reported.select rest
      (cycle :: fresh, reported)
    | (false, reported) => reported.select rest

end Reported

/-- The longest cycle that is looked for unless another limit is given. -/
def defaultDepthLimit : Nat := 50

/-- The graph, what was reported, and how long a cycle may be. -/
structure Session where
  graph : ImportGraph := {}
  reported : Reported := {}
  depthLimit : Nat := defaultDepthLimit
  deriving DecidableEq, Repr, Inhabited

namespace Session

/-- A session that has seen nothing. -/
def new (depthLimit : Nat) : Session := { depthLimit }

/-- Takes out what an earlier analysis of `file` has left. -/
def forgetImports (session : Session) (file : FileId) : Session :=
  { session with graph := session.graph.eraseFrom file }

/-- Records one import. -/
def recordImport (session : Session) (source target : FileId) (location : Location) : Session :=
  { session with graph := session.graph.insert source target location }

/-- The shortest cycles through `file`, reported or not. -/
def cyclesAt (session : Session) (file : FileId) : List Cycle :=
  if session.graph.isOnCycle file then
    session.graph.shortestCycles file session.depthLimit
  else []

/-- The cycles through `file` that were not reported yet in this run. -/
def check (session : Session) (file : FileId) : List Cycle × Session :=
  let (fresh, reported) := session.reported.select (session.cyclesAt file)
  (fresh, { session with reported })

/-- Replaces the imports of `file` and checks it. -/
def analyse (session : Session) (file : FileId) (imports : List (FileId × Location)) :
    List Cycle × Session :=
  let filled := imports.foldl (fun s (target, location) => s.recordImport file target location)
    (session.forgetImports file)
  filled.check file

/-- Ends a run: what was reported is forgotten, the graph stays. -/
def forgetReports (session : Session) : Session :=
  { session with reported := {} }

/-- Starts over from an empty graph. -/
def startOver (session : Session) : Session :=
  { session with graph := {}, reported := {} }

end Session

end ImportCycles
