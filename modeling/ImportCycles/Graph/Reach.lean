import ImportCycles.Graph.Steps

/-! # Reachability

A search along steps that remembers where it has been. It ends because only finitely many files lead
anywhere: a step either visits one of them for the first time or leaves less to do. From it come the
two questions asked before cycles are enumerated: does a file reach itself at all, and which files
lie on a cycle with it?
-/

namespace ImportCycles

namespace Steps

/-- How many of `files` are not visited yet. -/
def unvisited (visited : FileSet) (files : List FileId) : Nat :=
  files.countP fun file => !visited.contains file

/-- Visiting a file leaves no more unvisited ones. -/
theorem unvisited_insert_le (visited : FileSet) (files : List FileId) (file : FileId) :
    unvisited (visited.insert file) files ≤ unvisited visited files :=
  List.countP_mono_left fun other _ => by simp [Std.TreeSet.contains_insert]

/-- Visiting a new file of `files` leaves fewer unvisited ones. -/
theorem unvisited_insert_lt {visited : FileSet} {files : List FileId} {file : FileId}
    (mem : file ∈ files) (new : visited.contains file = false) :
    unvisited (visited.insert file) files < unvisited visited files := by
  induction files with
  | nil => simp at mem
  | cons other rest ih =>
    have le := unvisited_insert_le visited rest file
    simp only [unvisited, List.countP_cons] at ih le ⊢
    by_cases same : other = file
    · subst same
      simp only [Std.TreeSet.contains_insert_self, new, Bool.not_true, Bool.not_false, if_true,
        Bool.false_eq_true, if_false]
      omega
    · have lt := ih ((List.mem_cons.1 mem).resolve_left fun h => same h.symm)
      have keep : (visited.insert file).contains other = visited.contains other := by
        simp [Std.TreeSet.contains_insert, Ne.symm same]
      rw [keep]
      omega

/-- Visits `stack` and everything its files lead to, and gives all visited files. -/
def closure (steps : Steps) (visited : FileSet) (stack : List FileId) : FileSet :=
  match stack with
  | [] => visited
  | file :: rest =>
    if visited.contains file then closure steps visited rest
    else closure steps (visited.insert file) (steps.next file ++ rest)
termination_by (unvisited visited steps.keys, stack.length)
decreasing_by
  · exact Prod.Lex.right _ (by simp)
  · rename_i new
    by_cases mem : file ∈ steps
    · exact Prod.Lex.left _ _
        (unvisited_insert_lt (Std.TreeMap.mem_keys.2 mem) (Bool.eq_false_iff.2 new))
    · have none : steps.next file = [] := Std.TreeMap.getD_eq_fallback mem
      rcases Nat.lt_or_eq_of_le (unvisited_insert_le visited steps.keys file) with lt | eq
      · exact Prod.Lex.left _ _ lt
      · rw [eq, none]
        exact Prod.Lex.right _ (by simp)

/-- Every file that the files of `start` lead to, `start` included. -/
def reachable (steps : Steps) (start : List FileId) : FileSet :=
  steps.closure ∅ start

end Steps

namespace ImportGraph

/-- Does some chain of imports lead from `file` back to itself? -/
def isOnCycle (graph : ImportGraph) (file : FileId) : Bool :=
  (graph.outgoing.reachable (graph.targets file)).contains file

/-- The files that lie on a cycle with `file`: it leads to them, and they lead back to it by one or
more imports. -/
def cycleMates (graph : ImportGraph) (file : FileId) : FileSet :=
  let forward := graph.outgoing.reachable [file]
  (graph.incoming.reachable (graph.importers file)).filter forward.contains

end ImportGraph

end ImportCycles
