import ImportCycles.Disk
import ImportCycles.Proofs.NormalForms
import Mathlib.Data.List.Flatten
import Mathlib.Data.String.Basic

/-! # What a lookup finds

Looking a path up goes through the tree piece by piece, while the identity of a path is made from its
text alone. The two agree where the lookup gets to an end: what it finds lies at the names of the
identity. So the path of an identity finds what any path with that identity finds.
-/

namespace ImportCycles

open ImportCycles.Path (Component IsName)

variable {path piece : Octets} {names here rest : List Octets} {item : Item}

namespace Directory

variable {root inner : Directory}

theorem exists_of_at?_append (there : root.at? (here ++ piece :: rest) = some item) :
    ∃ inner found, root.at? here = some (.folder inner) ∧ inner.find? piece = some found := by
  induction here generalizing root with
  | nil =>
    rw [List.nil_append, at?] at there
    cases found : root.find? piece with
    | none => simp [found] at there
    | some entry => exact ⟨root, entry, rfl, found⟩
  | cons name above ih =>
    rw [List.cons_append, at?] at there
    cases found : root.find? name with
    | none => simp [found] at there
    | some entry =>
      cases entry with
      | file content => simp [found] at there
      | folder inner =>
        rw [found] at there
        obtain ⟨last, entry, atAbove, inLast⟩ := ih there
        exact ⟨last, entry, by rw [at?, found]; exact atAbove, inLast⟩

/-- What a walk through the tree finds lies at the names that its pieces lead to. -/
theorem of_locate {pieces : List Octets} (found : root.locate here pieces = .ok (names, item)) :
    root.at? names = some item ∧
      (pieces.filterMap Component.ofPiece?).foldl FileId.step ⟨true, here⟩ = ⟨true, names⟩ := by
  induction pieces generalizing here with
  | nil =>
    rw [locate] at found
    split at found
    · rename_i entry there
      cases found
      exact ⟨there, rfl⟩
    · cases found
  | cons piece rest ih =>
    rw [locate] at found
    split at found
    · cases found
    · cases found
    · rename_i inner there
      split at found
      · rename_i skipped
        simpa [Component.ofPiece?, skipped] using ih found
      · rename_i kept
        split at found
        · rename_i up
          simpa [Component.ofPiece?, up, FileId.step] using ih found
        · rename_i notUp
          split at found
          · cases found
          · simpa [Component.ofPiece?, kept, notUp, FileId.step] using ih found

/-- A walk along names finds what lies at the end of them. -/
theorem locate_names (isName : ∀ name ∈ rest, IsName name)
    (there : root.at? (here ++ rest) = some item) :
    root.locate here rest = .ok (here ++ rest, item) := by
  induction rest generalizing here with
  | nil =>
    rw [List.append_nil] at there ⊢
    rw [locate, there]
  | cons name rest ih =>
    obtain ⟨inner, found, atHere, inInner⟩ := exists_of_at?_append there
    have first := isName name List.mem_cons_self
    have onward : root.locate (here ++ [name]) rest = .ok (here ++ [name] ++ rest, item) :=
      ih (fun other mem => isName other (List.mem_cons_of_mem _ mem)) (by simpa using there)
    rw [locate, atHere]
    simp only [first.ne_empty, first.ne_here, first.ne_up, or_self, if_false, inInner]
    simpa using onward

end Directory

namespace Path

/-- An absolute path has a slash in front of each piece but the first, which is empty. -/
theorem pieces_of_isAbsolute (absolute : isAbsolute path = true) :
    ∃ others, others ≠ [] ∧ pieces path = .text "" :: others ∧
      path.bytes = others.flatMap fun piece => slash :: piece.bytes := by
  obtain ⟨rest, rfl⟩ := exists_of_isAbsolute absolute
  refine ⟨pieces rest, pieces_ne_nil rest, pieces_append_slash "" rest, ?_⟩
  have spelled : ∀ first (others : List (List UInt8)),
      (first :: others).flatMap (slash :: ·) = slash :: [slash].intercalate (first :: others) := by
    intro first others
    induction others generalizing first with
    | nil => simp
    | cons second others ih => rw [List.flatMap_cons, ih, List.intercalate_cons_cons]; simp
  have parts : ((pieces rest).flatMap fun piece => slash :: piece.bytes) =
      (rest.bytes.splitOn slash).flatMap (slash :: ·) := by
    simp [pieces, List.flatMap_map]
  obtain ⟨first, others, divided⟩ := List.exists_cons_of_ne_nil
    (List.splitOn_ne_nil slash rest.bytes)
  rw [parts, divided, spelled, ← divided, List.intercalate_splitOn]
  simp

end Path

namespace FileId

/-- Where pieces lead to has no other names than those that were there and the pieces. -/
theorem names_sublist (file : FileId) (pieces : List Octets) :
    ((pieces.filterMap Component.ofPiece?).foldl step file).names.Sublist
      (file.names ++ pieces) := by
  induction pieces generalizing file with
  | nil => simp
  | cons piece rest ih =>
    have skip : (file.names ++ rest).Sublist (file.names ++ piece :: rest) :=
      (List.Sublist.refl _).append (List.sublist_cons_self _ _)
    by_cases skipped : piece = "" ∨ piece = "."
    · rw [List.filterMap_cons_none (by simp [Component.ofPiece?, skipped])]
      exact (ih file).trans skip
    · by_cases up : piece = ".."
      · rw [List.filterMap_cons_some (b := .up) (by simp [Component.ofPiece?, up]), List.foldl_cons]
        refine (ih _).trans ((List.Sublist.append ?_ (List.Sublist.refl _)).trans skip)
        exact List.dropLast_sublist _
      · rw [List.filterMap_cons_some (b := .name piece) (by simp [Component.ofPiece?, skipped, up]),
          List.foldl_cons, List.append_cons]
        exact ih _

/-- Normalising an absolute path only leaves bytes out. -/
theorem path_sublist (cwd : Option Octets) (absolute : Path.isAbsolute path = true) :
    (ofPath cwd path).path.bytes.Sublist path.bytes := by
  obtain ⟨others, some, pieces, spelled⟩ := Path.pieces_of_isAbsolute absolute
  have leads : ofPath cwd path = root.follow path := by
    rw [ofPath_eq_follow, follow_of_isAbsolute _ absolute]
  have names : (ofPath cwd path).names.Sublist others := by
    rw [leads, follow_eq, absolute, pieces, List.filterMap_cons_none (by rfl)]
    exact names_sublist root others
  have normal := isNormal_ofPath cwd path
  have rooted : (ofPath cwd path).rooted = true := by
    rw [leads]
    exact rooted_follow rfl path
  have absolutePath : Path.isAbsolute (ofPath cwd path).path = true := by
    rw [isAbsolute_path normal, rooted]
  obtain ⟨own, _, ownPieces, ownSpelled⟩ := Path.pieces_of_isAbsolute absolutePath
  rw [pieces_path normal, rooted, if_pos rfl, List.singleton_append, List.cons.injEq] at ownPieces
  rw [ownSpelled, spelled, ← ownPieces.2]
  split
  · obtain ⟨first, rest, rfl⟩ := List.exists_cons_of_ne_nil some
    simp
  · exact names.flatMap _

end FileId

namespace Disk

variable {disk : Disk} {file : FileId} {pieces : List Octets}

theorem route_eq_ok_iff : disk.route path = .ok pieces ↔
    0 ∉ path.bytes ∧ path ≠ "" ∧ path.size ≤ maxPathSize ∧
      Path.isAbsolute (Path.join ((disk.cwd.map .text).getD "") path) = true ∧
      Path.pieces (Path.join ((disk.cwd.map .text).getD "") path) = pieces := by
  unfold route
  generalize Path.join ((disk.cwd.map .text).getD "") path = joined
  by_cases nul : 0 ∈ path.bytes
  · simp [nul]
  · by_cases none : path = ""
    · simp [none]
    · by_cases long : maxPathSize < path.size
      · simp [nul, none, long]
      · cases absolute : Path.isAbsolute joined <;>
          simp [nul, none, long, Nat.le_of_not_lt long, absolute]

theorem lookup_eq_ok_iff : disk.lookup path = .ok (names, item) ↔
    ∃ pieces, disk.route path = .ok pieces ∧ disk.root.locate [] pieces = .ok (names, item) := by
  unfold lookup
  cases disk.route path with
  | error failure => simp [bind, Except.bind]
  | ok pieces => simp [bind, Except.bind]

/-- What a path finds lies at the names of its identity, which is absolute. -/
theorem of_lookup (found : disk.lookup path = .ok (names, item)) :
    (disk.fileId path).IsAbsolute ∧ (disk.fileId path).names = names ∧
      disk.root.at? names = some item := by
  obtain ⟨pieces, routed, located⟩ := lookup_eq_ok_iff.1 found
  obtain ⟨_, _, _, absolute, rfl⟩ := route_eq_ok_iff.1 routed
  obtain ⟨there, leads⟩ := Directory.of_locate located
  have identity : disk.fileId path = ⟨true, names⟩ := by
    rw [← leads]
    change FileId.nowhere.follow (Path.join ((disk.cwd.map .text).getD "") path) = _
    rw [FileId.follow_eq, absolute]
    rfl
  have normal := FileId.isNormal_ofPath (disk.cwd.map .text) path
  change (disk.fileId path).IsNormal at normal
  rw [identity] at normal ⊢
  exact ⟨⟨rfl, normal⟩, rfl, there⟩

/-- The path of an absolute identity finds what lies at its names. -/
theorem lookup_path (absolute : file.IsAbsolute) (there : disk.root.at? file.names = some item)
    (noNul : 0 ∉ file.path.bytes) (fits : file.path.size ≤ maxPathSize) :
    disk.lookup file.path = .ok (file.names, item) := by
  have isAbsolute : Path.isAbsolute file.path = true := by
    rw [FileId.isAbsolute_path absolute.normal, absolute.rooted]
  have some : file.path ≠ "" := by
    intro none
    rw [none] at isAbsolute
    cases isAbsolute
  refine lookup_eq_ok_iff.2
    ⟨.text "" :: if file.names = [] then [.text ""] else file.names, ?_, ?_⟩
  · refine route_eq_ok_iff.2 ⟨noNul, some, fits, ?_, ?_⟩
    · rwa [Path.join_of_isAbsolute isAbsolute]
    · rw [Path.join_of_isAbsolute isAbsolute, FileId.pieces_path absolute.normal, absolute.rooted]
      rfl
  · have start : ∀ pieces, disk.root.locate [] (.text "" :: pieces) = disk.root.locate [] pieces :=
      fun _ => rfl
    rw [start]
    split
    · rename_i none
      rw [none] at there ⊢
      rw [start, Directory.locate, there]
    · exact Directory.locate_names absolute.normal there

/-- The normal form of an absolute path finds what the path finds. -/
theorem lookup_fileId (absolute : Path.isAbsolute path = true)
    (found : disk.lookup path = .ok (names, item)) :
    disk.lookup (disk.fileId path).path = .ok (names, item) := by
  obtain ⟨pieces, routed, _⟩ := lookup_eq_ok_iff.1 found
  obtain ⟨noNul, _, fits, _⟩ := route_eq_ok_iff.1 routed
  obtain ⟨isAbsolute, rfl, there⟩ := of_lookup found
  have shorter := FileId.path_sublist (disk.cwd.map .text) absolute
  exact lookup_path isAbsolute there (fun mem => noNul (shorter.subset mem))
    (shorter.length_le.trans fits)

end Disk

end ImportCycles
