import ImportCycles.Proofs.Lookups
import ImportCycles.Resolver

/-! # What specifiers resolve to

A specifier is tried as one path after the other, each as it is written, and the file that is found
is known by the normal form of the first path that leads to one. This identity is where the file lies
in the tree. So specifiers mean the same file exactly if the paths that won lead to the same place,
however they are written and whichever files they stand in.
-/

namespace ImportCycles

namespace Disk

variable {disk : Disk} {path other : Octets} {paths : List Octets} {names : List Octets}
  {content : Octets}

theorem isFile_iff : disk.isFile path = true ↔
    ∃ names content, disk.lookup path = .ok (names, .file content) := by
  unfold isFile
  split
  · rename_i names content found
    simp [found]
  · rename_i other
    simpa using other

/-- The first of some paths that leads to a file. -/
def FirstFile (disk : Disk) (paths : List Octets) (path : Octets) : Prop :=
  ∃ before after, paths = before ++ path :: after ∧ disk.isFile path = true ∧
    ∀ other ∈ before, disk.isFile other = false

theorem firstFile_iff_find? :
    disk.FirstFile paths path ↔ paths.find? disk.isFile = some path := by
  simp only [List.find?_eq_some_iff_append, Bool.not_eq_true', FirstFile]
  constructor
  · rintro ⟨before, after, divided, isFile, none⟩
    exact ⟨isFile, before, after, divided, none⟩
  · rintro ⟨isFile, before, after, divided, none⟩
    exact ⟨before, after, divided, isFile, none⟩

theorem FirstFile.mem (first : disk.FirstFile paths path) : path ∈ paths :=
  List.mem_of_find?_eq_some (firstFile_iff_find?.1 first)

theorem FirstFile.isFile (first : disk.FirstFile paths path) : disk.isFile path = true := by
  obtain ⟨_, _, _, isFile, _⟩ := first
  exact isFile

theorem FirstFile.unique (first : disk.FirstFile paths path) (again : disk.FirstFile paths other) :
    path = other :=
  Option.some.inj ((firstFile_iff_find?.1 first).symm.trans (firstFile_iff_find?.1 again))

/-- Two paths lead to the same file of the tree. -/
def SameFile (disk : Disk) (path other : Octets) : Prop :=
  ∃ names content, disk.lookup path = .ok (names, .file content) ∧
    disk.lookup other = .ok (names, .file content)

/-- Paths that lead to files lead to the same one exactly if they have the same identity. -/
theorem sameFile_iff_fileId_eq (isFile : disk.isFile path = true)
    (otherIsFile : disk.isFile other = true) :
    disk.SameFile path other ↔ disk.fileId path = disk.fileId other := by
  obtain ⟨names, content, found⟩ := isFile_iff.1 isFile
  obtain ⟨otherNames, otherContent, otherFound⟩ := isFile_iff.1 otherIsFile
  obtain ⟨absolute, names_eq, there⟩ := of_lookup found
  obtain ⟨otherAbsolute, otherNames_eq, otherThere⟩ := of_lookup otherFound
  constructor
  · rintro ⟨place, _, here, otherHere⟩
    rw [found] at here
    rw [otherFound] at otherHere
    cases here
    cases otherHere
    exact absolute.eq_of_names otherAbsolute (names_eq.trans otherNames_eq.symm)
  · intro same
    -- The same names lead to the same entry of the tree, so both contents are its content.
    obtain rfl : names = otherNames := by rw [← names_eq, ← otherNames_eq, same]
    rw [there] at otherThere
    cases otherThere
    exact ⟨names, content, found, otherFound⟩

end Disk

namespace Path

variable {path last extension : Octets} {lead : List Octets}

theorem splitLast?_of_isAbsolute (absolute : isAbsolute path = true)
    (split : splitLast? path = some (lead, last)) :
    lead.head? = some (.text "") ∧ last ∈ (pieces path).tail := by
  obtain ⟨others, _, pieces, _⟩ := pieces_of_isAbsolute absolute
  rw [splitLast?, pieces] at split
  rw [pieces]
  cases found : (trimSkipped others).getLast? with
  | none => simp [found] at split
  | some kept =>
    simp only [found, Option.some.injEq, Prod.mk.injEq] at split
    obtain ⟨rfl, rfl⟩ := split
    refine ⟨rfl, ?_⟩
    have mem := List.mem_of_getLast? found
    rw [trimSkipped, List.mem_reverse] at mem
    exact List.mem_reverse.1 ((List.dropWhile_sublist _).subset mem)

/-- The last component of an absolute path is shorter than the path. -/
theorem size_lt_of_mem_pieces (absolute : isAbsolute path = true)
    (mem : last ∈ (pieces path).tail) : last.size < path.size := by
  obtain ⟨others, _, pieces, spelled⟩ := pieces_of_isAbsolute absolute
  rw [pieces, List.tail_cons] at mem
  have part : (slash :: last.bytes).Sublist path.bytes := by
    rw [spelled]
    exact List.sublist_flatten_of_mem (List.mem_map.2 ⟨last, mem, rfl⟩)
  exact part.length_le

theorem size_le_of_splitName? {name stem : Octets}
    (split : splitName? name = some (stem, extension)) : extension.size ≤ name.size := by
  unfold splitName? at split
  split at split
  · cases split
  · dsimp only at split
    split at split
    · cases split
    · split at split
      · cases split
      · cases split
        have part := (List.takeWhile_sublist (l := name.bytes.reverse) (· ≠ dot)).length_le
        rwa [List.length_reverse, ← List.length_reverse] at part

theorem isAbsolute_ofPieces (head : lead.head? = some (.text "")) (last : Octets) :
    isAbsolute (ofPieces (lead ++ [last])) = true := by
  cases lead with
  | nil => cases head
  | cons first rest =>
    obtain rfl := Option.some.inj head
    simp [isAbsolute, ofPieces, List.intercalate_cons_of_ne_nil]

theorem isAbsolute_stem (absolute : isAbsolute path = true) : isAbsolute (stem path) = true := by
  unfold stem
  split
  · exact absolute
  · rename_i lead last split
    have head := (splitLast?_of_isAbsolute absolute split).1
    split
    · split
      · exact absolute
      · exact isAbsolute_ofPieces head _
    · exact isAbsolute_ofPieces head _

theorem isAbsolute_dropExtension (absolute : isAbsolute path = true)
    (found : extension? path = some extension) :
    isAbsolute (dropExtension path extension) = true := by
  simp only [extension?, Option.bind_eq_bind, Option.bind_eq_some_iff, Option.pure_def] at found
  obtain ⟨⟨lead, last⟩, split, ⟨name, kept⟩, splitName, same⟩ := found
  obtain rfl : kept = extension := Option.some.inj same
  have shorter := size_lt_of_mem_pieces absolute (splitLast?_of_isAbsolute absolute split).2
  have within : kept.size ≤ last.size := size_le_of_splitName? splitName
  apply isAbsolute_stem
  rw [isAbsolute, List.head?_take, if_neg (by omega)]
  exact absolute

end Path

namespace Resolver

variable {disk : Disk} {extensions : List String} {specifier : String} {importer file : FileId}

/-- Whatever an absolute path may stand for is absolute. -/
theorem isAbsolute_of_mem_candidates {base candidate : Octets}
    (absolute : Path.isAbsolute base = true) (mem : candidate ∈ candidates extensions base) :
    Path.isAbsolute candidate = true := by
  have append : ∀ {path : Octets} (extension : Octets), Path.isAbsolute path = true →
      Path.isAbsolute (Path.append path extension) = true := by
    intro path extension absolute
    have some : path ≠ "" := by
      rintro rfl
      cases absolute
    rw [Path.append, Octets.append_assoc, Path.isAbsolute_append some, absolute]
  simp only [candidates, List.mem_append, List.mem_singleton, List.mem_map] at mem
  rcases mem with ((rfl | ⟨extension, _, rfl⟩) | source) | ⟨extension, _, rfl⟩
  · exact absolute
  · exact append extension absolute
  · unfold sourceCandidates at source
    split at source
    · simp at source
    · rename_i extension found
      split at source
      · obtain ⟨other, _, rfl⟩ := List.mem_map.1 source
        exact append other (Path.isAbsolute_dropExtension absolute found)
      · simp at source
  · have relative : Path.isAbsolute ("index." ++ extension) = false := by
      rw [Path.isAbsolute_append (by decide)]
      decide
    rw [Path.isAbsolute_join relative, absolute]

theorem isPath_iff : isPath specifier = true ↔ specifier = "." ∨ specifier = ".." ∨
    ∃ start ∈ ["./", "../", "/"], start.toList <+: specifier.toList := by
  simp [isPath, List.isPrefixOf_iff_prefix, or_assoc]

theorem resolve_eq_file_iff : resolve disk extensions specifier importer = .file file ↔
    isPath specifier = true ∧ packageDirectory ∉ file.names ∧
      ∃ candidate, disk.FirstFile (candidates extensions (base specifier importer)) candidate ∧
        disk.fileId candidate = file := by
  unfold resolve
  cases isPath specifier with
  | false => simp
  | true =>
    simp only [Disk.firstFile_iff_find?]
    cases found : (candidates extensions (base specifier importer)).find? disk.isFile with
    | none => simp
    | some candidate =>
      simp only [Bool.not_true, Bool.false_eq_true, if_false, true_and]
      constructor
      · intro resolved
        split at resolved
        · cases resolved
        · rename_i project
          cases resolved
          exact ⟨project, candidate, rfl, rfl⟩
      · rintro ⟨project, _, ⟨rfl⟩, rfl⟩
        rw [if_neg project]

theorem resolve_eq_unresolvable_iff : resolve disk extensions specifier importer = .unresolvable ↔
    isPath specifier = true ∧
      ∀ candidate ∈ candidates extensions (base specifier importer),
        disk.isFile candidate = false := by
  unfold resolve
  cases isPath specifier with
  | false => simp
  | true =>
    cases found : (candidates extensions (base specifier importer)).find? disk.isFile with
    | none => simpa using List.find?_eq_none.1 found
    | some candidate =>
      have mem := List.mem_of_find?_eq_some found
      have isFile := List.find?_some found
      simp only [Bool.not_true, Bool.false_eq_true, if_false, true_and]
      constructor
      · intro resolved
        split at resolved <;> cases resolved
      · intro none
        rw [none candidate mem] at isFile
        cases isFile

theorem isAbsolute_base (rooted : importer.rooted = true) :
    Path.isAbsolute (base specifier importer) = true := by
  have folder : Path.isAbsolute importer.folder = true := by
    unfold FileId.folder
    split
    · rfl
    · simp [FileId.path, rooted, Path.isAbsolute]
  cases absolute : Path.isAbsolute specifier with
  | true => rw [base, Path.join_of_isAbsolute absolute, absolute]
  | false => rw [base, Path.isAbsolute_join absolute, folder]

/-- A specifier that is resolved to a file is resolved to the one identity of this file. The identity
is absolute and lies in no package. Its names are the place in the tree that the first candidate to be
a file leads to, and its own path finds the same file if the importing file is absolute. Two
specifiers, wherever they stand, are resolved to equal identities exactly if the candidates that won
lead to the same file. A specifier is left unresolved exactly if it is a path and no candidate is a
file. -/
theorem resolved_identity (disk : Disk) :
    (∀ extensions specifier importer file,
      resolve disk extensions specifier importer = .file file →
        file.IsAbsolute ∧ .text "node_modules" ∉ file.names ∧
          ∃ candidate content,
            disk.FirstFile (candidates extensions (base specifier importer)) candidate ∧
              disk.lookup candidate = .ok (file.names, .file content) ∧
              disk.root.at? file.names = some (.file content) ∧
              (importer.rooted = true → disk.lookup file.path = .ok (file.names, .file content))) ∧
      (∀ extensions specifier importer file others another otherImporter otherFile candidate
          otherCandidate,
        resolve disk extensions specifier importer = .file file →
        resolve disk others another otherImporter = .file otherFile →
        disk.FirstFile (candidates extensions (base specifier importer)) candidate →
        disk.FirstFile (candidates others (base another otherImporter)) otherCandidate →
          (file = otherFile ↔ disk.SameFile candidate otherCandidate)) ∧
      ∀ extensions specifier importer,
        resolve disk extensions specifier importer = .unresolvable ↔
          (specifier = "." ∨ specifier = ".." ∨
            ∃ start ∈ ["./", "../", "/"], start.toList <+: specifier.toList) ∧
          ∀ candidate ∈ candidates extensions (base specifier importer),
            disk.isFile candidate = false := by
  refine ⟨?_, ?_, ?_⟩
  · intro extensions specifier importer file resolved
    obtain ⟨_, project, candidate, first, rfl⟩ := resolve_eq_file_iff.1 resolved
    obtain ⟨names, content, found⟩ := Disk.isFile_iff.1 first.isFile
    obtain ⟨absolute, rfl, there⟩ := Disk.of_lookup found
    refine ⟨absolute, project, candidate, content, first, found, there, fun rooted => ?_⟩
    exact Disk.lookup_fileId (isAbsolute_of_mem_candidates (isAbsolute_base rooted) first.mem) found
  · intro extensions specifier importer file others another otherImporter otherFile candidate
      otherCandidate resolved otherResolved first otherFirst
    obtain ⟨_, _, _, won, rfl⟩ := resolve_eq_file_iff.1 resolved
    obtain ⟨_, _, _, otherWon, rfl⟩ := resolve_eq_file_iff.1 otherResolved
    obtain rfl := won.unique first
    obtain rfl := otherWon.unique otherFirst
    exact (Disk.sameFile_iff_fileId_eq first.isFile otherFirst.isFile).symm
  · intro extensions specifier importer
    rw [resolve_eq_unresolvable_iff, isPath_iff]

end Resolver

/-- Sources in a directory and below it, next to an installed package. -/
def nestedDisk : Disk where
  root := .folder "p"
    (.folder "lib" (.file (.text "index.ts") (.text "") <| .file (.text "a.ts") (.text "") .empty) <|
      .file (.text "b.ts") (.text "") <|
      .folder "node_modules" (.folder "x" (.file (.text "index.js") (.text "") .empty) .empty) .empty)
    .empty
  cwd := some "/"

/-- From outside a directory its index is meant by the name of the directory, from inside by the name
under which it is compiled: both come to the same file. A detour through a directory that does not
exist leads nowhere. -/
theorem Resolver.resolved_identity_index :
    let a : FileId := ⟨true, ["p", "lib", "a.ts"]⟩
    let b : FileId := ⟨true, ["p", "b.ts"]⟩
    let index : FileId := ⟨true, ["p", "lib", "index.ts"]⟩
    resolve nestedDisk ["ts"] "./lib//" b = .file index ∧
      resolve nestedDisk ["ts"] "../lib/./index.js" a = .file index ∧
      index.IsAbsolute ∧ nestedDisk.root.at? index.names = some (.file (.text "")) ∧
      nestedDisk.SameFile "/p/./lib//index.ts" "/p/lib/../lib/./index.ts" ∧
      resolve nestedDisk ["ts"] "../missing/../b" a = .unresolvable := by
  intro a b index
  have fromB : resolve nestedDisk ["ts"] "./lib//" b = .file index := by decide +kernel
  have fromA : resolve nestedDisk ["ts"] "../lib/./index.js" a = .file index := by
    decide +kernel
  have firstB : nestedDisk.FirstFile (candidates ["ts"] (base "./lib//" b))
      "/p/./lib//index.ts" := Disk.firstFile_iff_find?.2 (by decide +kernel)
  have firstA : nestedDisk.FirstFile (candidates ["ts"] (base "../lib/./index.js" a))
      "/p/lib/../lib/./index.ts" := Disk.firstFile_iff_find?.2 (by decide +kernel)
  obtain ⟨found, same, unresolved⟩ := resolved_identity nestedDisk
  obtain ⟨absolute, _, _, content, _, _, there, _⟩ := found _ _ _ _ fromB
  obtain rfl : content = .text "" := by
    have there' : nestedDisk.root.at? index.names = some (.file (.text "")) := by decide +kernel
    rw [there] at there'
    cases there'
    rfl
  refine ⟨fromB, fromA, absolute, there, ?_, (unresolved _ _ _).2 ⟨?_, ?_⟩⟩
  · exact (same _ _ _ _ _ _ _ _ _ _ fromB fromA firstB firstA).1 rfl
  · exact .inr (.inr ⟨"../", by decide, by decide⟩)
  · decide +kernel

end ImportCycles
