import ImportCycles.Lint.Report
import ImportCycles.Proofs.Order
import Mathlib.Data.List.Induction

/-! # Diagnostics by file

A diagnostic that is put behind those of its file leaves the groups of all other files as they are.
So the groups divide the diagnostics: there is one group for each file that has a diagnostic, the
groups stand in path order, and a group is what the report has for its file, in the report's order.
-/

namespace ImportCycles.LintReport

/-- What comes before the first file of an increasing list is none of its files. -/
theorem not_mem_of_lt {file head : FileId} {rest : List FileId}
    (increasing : (head :: rest).Pairwise (FileId.lt · ·)) (before : file.lt head = true) :
    file ∉ head :: rest := by
  have order := FileId.lt_isStrictOrder
  intro mem
  rcases List.mem_cons.1 mem with same | mem
  · rw [same, order.irrefl] at before
    exact Bool.noConfusion before
  · have self := order.trans before ((List.pairwise_cons.1 increasing).1 file mem)
    rw [order.irrefl] at self
    exact Bool.noConfusion self

section Group

variable {diagnostic : Diagnostic} {found : FileId → List Diagnostic} {files : List FileId}

/-- The diagnostics of the given files, as they are after one more diagnostic. -/
def regroup (diagnostic : Diagnostic) (found : FileId → List Diagnostic) (file : FileId) :
    FileId × List Diagnostic :=
  (file, found file ++ if file = diagnostic.file then [diagnostic] else [])

theorem regroup_of_ne {file : FileId} (other : file ≠ diagnostic.file) :
    regroup diagnostic found file = (file, found file) := by
  rw [regroup, if_neg other, List.append_nil]

theorem map_regroup (absent : diagnostic.file ∉ files) :
    files.map (regroup diagnostic found) = files.map fun file => (file, found file) := by
  refine List.map_congr_left fun file mem => regroup_of_ne ?_
  intro same
  exact absent (same ▸ mem)

/-- One diagnostic more: its file is put into the list of files and gets it behind those it has. -/
theorem group_map (increasing : files.Pairwise (FileId.lt · ·))
    (new : diagnostic.file ∉ files → found diagnostic.file = []) :
    group diagnostic (files.map fun file => (file, found file)) =
      (Sorted.insertNew FileId.lt diagnostic.file files).map (regroup diagnostic found) := by
  have order := FileId.lt_isStrictOrder
  induction files with
  | nil =>
    rw [Sorted.insertNew, List.map_singleton, regroup, new List.not_mem_nil, if_pos rfl]
    rfl
  | cons file files ih =>
    obtain ⟨least, increasingRest⟩ := List.pairwise_cons.1 increasing
    rw [List.map_cons, group, Sorted.insertNew]
    -- The file is new and comes first, or belongs further on, or is the first of the list.
    by_cases before : diagnostic.file.lt file = true
    · have absent := not_mem_of_lt increasing before
      rw [if_pos before, if_pos before, List.map_cons, map_regroup absent, regroup, new absent,
        if_pos rfl]
      rfl
    · rw [if_neg before, if_neg before]
      by_cases after : file.lt diagnostic.file = true
      · have other : file ≠ diagnostic.file := by
          intro same
          rw [same, order.irrefl] at after
          exact Bool.noConfusion after
        have newRest : diagnostic.file ∉ files → found diagnostic.file = [] := by
          intro absent
          refine new fun mem => ?_
          rcases List.mem_cons.1 mem with same | mem
          · exact other same.symm
          · exact absent mem
        rw [if_pos after, if_pos after, List.map_cons, regroup_of_ne other,
          ih increasingRest newRest]
      · have same : file = diagnostic.file :=
          order.connected (Bool.eq_false_iff.2 after) (Bool.eq_false_iff.2 before)
        have absent : diagnostic.file ∉ files := by
          intro mem
          have later := least diagnostic.file mem
          rw [same] at later before
          exact before later
        rw [if_neg after, if_neg after, List.map_cons, map_regroup absent, regroup, if_pos same]

end Group

/-- The files that have a diagnostic, in path order. -/
def failing (diagnostics : List Diagnostic) : List FileId :=
  FileId.sorted (diagnostics.map (·.file))

/-- The diagnostics of a file, in their order. -/
def ofFile (diagnostics : List Diagnostic) (file : FileId) : List Diagnostic :=
  diagnostics.filter (·.file = file)

theorem failing_pairwise (diagnostics : List Diagnostic) :
    (failing diagnostics).Pairwise (FileId.lt · ·) :=
  Sorted.sortNew_pairwise FileId.lt_isStrictOrder _

theorem mem_failing {diagnostics : List Diagnostic} {file : FileId} :
    file ∈ failing diagnostics ↔ ∃ diagnostic ∈ diagnostics, diagnostic.file = file :=
  FileId.mem_sorted.trans List.mem_map

theorem ofFile_append_singleton (diagnostics : List Diagnostic) (diagnostic : Diagnostic)
    (file : FileId) : ofFile (diagnostics ++ [diagnostic]) file =
      ofFile diagnostics file ++ if file = diagnostic.file then [diagnostic] else [] := by
  rw [ofFile, List.filter_append, ofFile]
  by_cases same : file = diagnostic.file
  · simp [same]
  · simp [same, Ne.symm same]

theorem foldl_group (diagnostics : List Diagnostic) :
    diagnostics.foldl (fun groups diagnostic => group diagnostic groups) [] =
      (failing diagnostics).map fun file => (file, ofFile diagnostics file) := by
  -- The last diagnostic of the list is the last that was put into the groups.
  induction diagnostics using List.reverseRecOn with
  | nil => rfl
  | append_singleton diagnostics diagnostic ih =>
    have new : diagnostic.file ∉ failing diagnostics → ofFile diagnostics diagnostic.file = [] := by
      intro absent
      refine List.filter_eq_nil_iff.2 fun other mem same => ?_
      exact absent (mem_failing.2 ⟨other, mem, of_decide_eq_true same⟩)
    have files : failing (diagnostics ++ [diagnostic]) =
        Sorted.insertNew FileId.lt diagnostic.file (failing diagnostics) := by
      show _ = FileId.sorted (diagnostic.file :: diagnostics.map (·.file))
      refine FileId.sorted_congr fun file => ?_
      rw [List.map_append, List.mem_append, List.map_singleton, List.mem_singleton, List.mem_cons,
        or_comm]
    have regrouped : (fun file => (file, ofFile (diagnostics ++ [diagnostic]) file)) =
        regroup diagnostic (ofFile diagnostics) := by
      funext file
      rw [ofFile_append_singleton, regroup]
    rw [List.foldl_append, List.foldl_cons, List.foldl_nil, ih, group_map (failing_pairwise diagnostics) new, files,
      regrouped]

/-- The groups are the files that have a diagnostic, in path order, each with what the report has
for it. -/
theorem byFile_eq (report : LintReport) :
    report.byFile =
      (failing report.diagnostics).map fun file => (file, ofFile report.diagnostics file) :=
  foldl_group report.diagnostics

/-- One diagnostic more is all that is added to the groups. -/
theorem flatMap_group_perm (diagnostic : Diagnostic) (groups : List (FileId × List Diagnostic)) :
    ((group diagnostic groups).flatMap (·.2)).Perm (diagnostic :: groups.flatMap (·.2)) := by
  induction groups with
  | nil => exact .refl _
  | cons head groups ih =>
    obtain ⟨file, found⟩ := head
    rw [group]
    split
    · exact .refl _
    · split
      · exact (ih.append_left found).trans List.perm_middle
      · show ((found ++ [diagnostic]) ++ groups.flatMap (·.2)).Perm
          (diagnostic :: (found ++ groups.flatMap (·.2)))
        rw [List.append_assoc]
        exact List.perm_middle

/-- No diagnostic is lost when they are grouped, and none is in two groups. -/
theorem flatMap_byFile_perm (report : LintReport) :
    (report.byFile.flatMap (·.2)).Perm report.diagnostics := by
  have grouped : ∀ diagnostics : List Diagnostic,
      ((diagnostics.foldl (fun groups diagnostic => group diagnostic groups) []).flatMap
        (·.2)).Perm diagnostics := by
    intro diagnostics
    induction diagnostics using List.reverseRecOn with
    | nil => exact .refl _
    | append_singleton diagnostics diagnostic ih =>
      rw [List.foldl_append]
      exact (flatMap_group_perm diagnostic _).trans
        ((ih.cons diagnostic).trans (List.perm_append_singleton ..).symm)
  exact grouped report.diagnostics

theorem byFile_eq_nil_iff {report : LintReport} :
    report.byFile = [] ↔ report.diagnostics = [] := by
  constructor
  · intro none
    have perm := report.flatMap_byFile_perm
    rw [none] at perm
    exact perm.symm.eq_nil
  · intro none
    rw [byFile, none]
    rfl

end ImportCycles.LintReport
