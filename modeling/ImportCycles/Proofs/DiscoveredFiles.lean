import ImportCycles.Discovery
import ImportCycles.Proofs.Lookups
import ImportCycles.Proofs.Order

/-! # The files that are discovered

A file is discovered if it lies at or below one of the given paths, if none of the directories below
that path on the way to it is skipped, and if its name is that of a source and no pattern leaves it
out. All of this is said of one path at a time. So it does not matter in which order the paths are
given or how often, and what two lists of paths find together is what either of them finds.
-/

namespace ImportCycles

variable {disk : Disk} {path : Octets} {names : List Octets}

namespace Directory

/-- A file in a directory or below it, with the directories on the way to it. -/
inductive Holds : Directory → List Octets → Octets → Prop
  | file (name content : Octets) (rest : Directory) : Holds (.file name content rest) [] name
  | inside (folder : Octets) {inner : Directory} (rest : Directory) {folders : List Octets}
      {name : Octets} (holds : Holds inner folders name) :
      Holds (.folder folder inner rest) (folder :: folders) name
  | afterFile (other content : Octets) {rest : Directory} {folders : List Octets} {name : Octets}
      (holds : Holds rest folders name) : Holds (.file other content rest) folders name
  | afterFolder (other : Octets) (inner : Directory) {rest : Directory} {folders : List Octets}
      {name : Octets} (holds : Holds rest folders name) :
      Holds (.folder other inner rest) folders name

/-- A walk comes to the files below a directory that lie in no skipped directory. -/
theorem mem_walk {dir : Directory} {above way : List Octets} {name : Octets} :
    (way, name) ∈ dir.walk above ↔ ∃ folders, way = above ++ folders ∧ dir.Holds folders name ∧
      ∀ folder ∈ folders, Discovery.isSkipped folder ≠ true := by
  induction dir generalizing above with
  | empty =>
    constructor
    · intro mem
      cases mem
    · intro ⟨_, _, holds, _⟩
      cases holds
  | file other content rest ih =>
    rw [walk, List.mem_cons, ih]
    constructor
    · intro found
      rcases found with here | ⟨folders, split, holds, entered⟩
      · cases here
        exact ⟨[], (List.append_nil _).symm, .file .., nofun⟩
      · exact ⟨folders, split, .afterFile _ _ holds, entered⟩
    · intro ⟨folders, split, holds, entered⟩
      cases holds with
      | file => exact .inl (by rw [split, List.append_nil])
      | afterFile _ _ holds => exact .inr ⟨folders, split, holds, entered⟩
  | folder other inner rest ihInner ihRest =>
    rw [walk, List.mem_append, ihRest]
    constructor
    · intro found
      rcases found with inside | ⟨folders, split, holds, entered⟩
      · split at inside
        · cases inside
        · rename_i kept
          obtain ⟨folders, split, holds, entered⟩ := ihInner.1 inside
          refine ⟨other :: folders, by rw [split, List.append_assoc]; rfl, .inside _ _ holds, ?_⟩
          exact List.forall_mem_cons.2 ⟨kept, entered⟩
      · exact ⟨folders, split, .afterFolder _ _ holds, entered⟩
    · intro ⟨folders, split, holds, entered⟩
      cases holds with
      | inside _ _ holds =>
        obtain ⟨kept, entered⟩ := List.forall_mem_cons.1 entered
        left
        rw [if_neg kept, ihInner]
        exact ⟨_, by rw [split, List.append_assoc]; rfl, holds, entered⟩
      | afterFolder _ _ holds => exact .inr ⟨folders, split, holds, entered⟩

/-- A walk through the tree comes to its last piece from a directory. -/
theorem locate_concat {root : Directory} {here others : List Octets} {last : Octets} {item : Item}
    (found : root.locate here (others ++ [last]) = .ok (names, item)) :
    ∃ above inner, root.at? above = some (.folder inner) ∧
      root.locate above [last] = .ok (names, item) := by
  induction others generalizing here with
  | nil =>
    cases there : root.at? here with
    | none =>
      rw [List.nil_append, locate, there] at found
      cases found
    | some entry =>
      cases entry with
      | file content =>
        rw [List.nil_append, locate, there] at found
        cases found
      | folder inner => exact ⟨here, inner, there, found⟩
  | cons piece rest ih =>
    rw [List.cons_append, locate] at found
    split at found
    · cases found
    · cases found
    · split at found
      · exact ih found
      · split at found
        · exact ih found
        · split at found
          · cases found
          · exact ih found

/-- A walk through the tree that ends at a file ends with its name. -/
theorem last_of_locate {root : Directory} {here others : List Octets} {last content : Octets}
    (found : root.locate here (others ++ [last]) = .ok (names, .file content)) :
    ∃ above, names = above ++ [last] ∧ last ≠ "" ∧ last ≠ "." := by
  obtain ⟨above, inner, folder, found⟩ := locate_concat found
  have notHere : root.locate above [] ≠ .ok (names, .file content) := by
    intro found
    rw [locate, folder] at found
    cases found
  -- one directory up there is a directory as well
  have notUp : root.locate above.dropLast [] ≠ .ok (names, .file content) := by
    intro found
    rcases List.eq_nil_or_concat' above with none | ⟨higher, name, isAbove⟩
    · subst none
      exact notHere found
    · rw [isAbove] at folder found
      obtain ⟨_, _, there, _⟩ := exists_of_at?_append folder
      rw [List.dropLast_concat, locate, there] at found
      cases found
  rw [locate, folder] at found
  simp only [] at found
  split at found
  · exact absurd found notHere
  · rename_i kept
    rw [not_or] at kept
    split at found
    · exact absurd found notUp
    · split at found
      · cases found
      · obtain ⟨_, leads⟩ := of_locate found
        exact ⟨above, (congrArg FileId.names leads).symm, kept⟩

end Directory

namespace Path

/-- The pieces of a path come last among those of a path it is joined to. -/
theorem exists_pieces_join (base rest : Octets) :
    ∃ others, pieces (join base rest) = others ++ pieces rest := by
  cases absolute : isAbsolute rest with
  | true => exact ⟨[], by rw [join_of_isAbsolute absolute, List.nil_append]⟩
  | false =>
    rw [join, absolute, if_neg Bool.false_ne_true]
    split
    · rename_i ended
      rcases ended with none | ended
      · exact ⟨[], by rw [none, Octets.empty_append, List.nil_append]⟩
      · obtain ⟨front, bytes⟩ := List.getLast?_eq_some_iff.1 ended
        have divided : base = .raw front ++ "/" := by
          simp [Octets.ext_iff, bytes]
        exact ⟨_, by rw [divided, pieces_append_slash]⟩
    · exact ⟨_, pieces_append_slash base rest⟩

/-- The last component of a path that ends with a piece that means something. -/
theorem splitLast?_of_pieces {others : List Octets} {last : Octets}
    (split : pieces path = others ++ [last]) (nonempty : last ≠ "") (notHere : last ≠ ".") :
    (splitLast? path).map (·.2) = some last := by
  have kept : isSkipped last = false := by simp [isSkipped, nonempty, notHere]
  unfold splitLast?
  cases others with
  | nil =>
    rw [List.nil_append] at split
    simp [split, trimSkipped, nonempty]
  | cons first others =>
    have trimmed : trimSkipped (others ++ [last]) = others ++ [last] := by
      simp [trimSkipped, kept]
    rw [List.cons_append] at split
    simp [split, trimmed]

end Path

/-- A path that leads to a file ends with the name of the file. -/
theorem Disk.splitLast?_of_lookup {content : Octets}
    (leads : disk.lookup path = .ok (names, .file content)) :
    ∃ above name, names = above ++ [name] ∧ (Path.splitLast? path).map (·.2) = some name := by
  obtain ⟨pieces, routed, located⟩ := lookup_eq_ok_iff.1 leads
  obtain ⟨_, _, _, _, rfl⟩ := route_eq_ok_iff.1 routed
  obtain ⟨before, joined⟩ := Path.exists_pieces_join ((disk.cwd.map .text).getD "") path
  obtain none | ⟨others, name, split⟩ := List.eq_nil_or_concat' (Path.pieces path)
  · exact absurd none (Path.pieces_ne_nil path)
  · rw [joined, split, ← List.append_assoc] at located
    obtain ⟨above, isName, nonempty, notHere⟩ := Directory.last_of_locate located
    exact ⟨above, name, isName, Path.splitLast?_of_pieces split nonempty notHere⟩

namespace Discovery

variable {discovery : Discovery} {file : FileId}

/-- A file as it is met below a path that is searched. -/
structure Entry where
  /-- The directories below the path that the file lies in. -/
  folders : List Octets
  name : Octets
  /-- The path of the file from the searched path on. -/
  relative : Octets
  /-- The path of the file through the searched path. -/
  walked : Octets

/-- The files at a path or below it. Nothing is left of the way to the file that the path itself
leads to. -/
inductive Meets (disk : Disk) (path : Octets) : Entry → Prop
  | self {above : List Octets} {name content : Octets}
      (leads : disk.lookup path = .ok (above ++ [name], .file content)) :
      Meets disk path ⟨[], name, "", path⟩
  | below {names folders : List Octets} {inner : Directory} {name : Octets}
      (leads : disk.lookup path = .ok (names, .folder inner)) (holds : inner.Holds folders name) :
      Meets disk path ⟨folders, name, Path.ofPieces (folders ++ [name]),
        Path.join path (Path.ofPieces (folders ++ [name]))⟩

/-- A text that ends with a dot and one of the extensions, behind at least one character. -/
def NamesSource (discovery : Discovery) (name : Octets) : Prop :=
  ∃ extension ∈ discovery.extensions, ∃ stem : String, stem ≠ "" ∧
    name = .text (stem ++ "." ++ extension)

/-- No pattern fits the path. -/
def Keeps (discovery : Discovery) (path : Octets) : Prop :=
  ∀ pattern ∈ discovery.excludes, pattern path = false

/-- What a discovery looks for. -/
structure Wants (discovery : Discovery) (entry : Entry) : Prop where
  entered : ∀ folder ∈ entry.folders, ∀ skipped ∈ skippedDirectories, folder ≠ .text skipped
  isSource : discovery.NamesSource entry.name
  kept : discovery.Keeps entry.relative ∧ discovery.Keeps entry.walked

theorem isSkipped_ne_true_iff {name : Octets} :
    isSkipped name ≠ true ↔ ∀ skipped ∈ skippedDirectories, name ≠ .text skipped := by
  rw [isSkipped, ne_eq, Octets.any_toText?_iff]
  constructor
  · rintro apart skipped mem rfl
    exact apart ⟨skipped, rfl, List.contains_iff_mem.2 mem⟩
  · rintro apart ⟨text, rfl, mem⟩
    exact apart text (List.contains_iff_mem.1 mem) rfl

theorem isSourceName_iff {name : String} :
    discovery.isSourceName name = true ↔ discovery.NamesSource (.text name) := by
  unfold isSourceName NamesSource
  rw [List.any_eq_true]
  refine exists_congr fun extension => and_congr_right fun _ => ?_
  rw [Bool.and_eq_true, List.isSuffixOf_iff_suffix, decide_eq_true_iff]
  have joined : ∀ stem : String, (stem ++ "." ++ extension).toList =
      stem.toList ++ '.' :: extension.toList := by
    intro stem
    simp
  constructor
  · rintro ⟨⟨stem, split⟩, shorter⟩
    refine ⟨String.ofList stem, ?_, ?_⟩
    · intro none
      rw [← split, String.ofList_eq_empty_iff.1 none, List.nil_append] at shorter
      omega
    · rw [Octets.text_inj, String.ext_iff, joined, String.toList_ofList, split]
  · rintro ⟨stem, nonempty, same⟩
    rw [Octets.text_inj] at same
    have positive := List.length_pos_iff.2 (mt String.toList_eq_nil_iff.1 nonempty)
    rw [same, joined]
    refine ⟨⟨_, rfl⟩, ?_⟩
    rw [List.length_append]
    omega

theorem leavesOut_eq_false_iff : discovery.leavesOut path = false ↔ discovery.Keeps path := by
  simp only [leavesOut, Keeps, List.any_eq_false, Bool.not_eq_true]

/-- The test that is made for a file is that for what is looked for, once its directories have been
entered. -/
theorem accepts_iff {name relative walked : Octets} :
    discovery.accepts name relative walked = true ↔
      discovery.NamesSource name ∧ discovery.Keeps relative ∧ discovery.Keeps walked := by
  have isSource : name.toText?.any discovery.isSourceName = true ↔ discovery.NamesSource name := by
    rw [Octets.any_toText?_iff]
    constructor
    · rintro ⟨text, rfl, isSource⟩
      exact isSourceName_iff.1 isSource
    · rintro ⟨extension, mem, stem, nonempty, rfl⟩
      exact ⟨_, rfl, isSourceName_iff.2 ⟨extension, mem, stem, nonempty, rfl⟩⟩
  rw [accepts, Bool.and_eq_true, Bool.and_eq_true, Bool.not_eq_true', Bool.not_eq_true', isSource,
    leavesOut_eq_false_iff, leavesOut_eq_false_iff, and_assoc]

theorem accept?_eq_some_iff {folders : List Octets} {name walked : Octets} :
    discovery.accept? path (folders, name) = some walked ↔
      Path.join path (Path.ofPieces (folders ++ [name])) = walked ∧
        discovery.NamesSource name ∧ discovery.Keeps (Path.ofPieces (folders ++ [name])) ∧
          discovery.Keeps walked := by
  simp only [accept?]
  constructor
  · intro accepted
    split at accepted
    · rename_i test
      cases accepted
      exact ⟨rfl, accepts_iff.1 test⟩
    · cases accepted
  · rintro ⟨rfl, wanted⟩
    rw [if_pos (accepts_iff.2 wanted)]

theorem mem_discoverAt? : file ∈ (discovery.discoverAt? disk path).getD [] ↔
    ∃ entry, Meets disk path entry ∧ discovery.Wants entry ∧ disk.fileId entry.walked = file := by
  unfold discoverAt?
  split
  · rename_i failure missing
    constructor
    · intro mem
      cases mem
    · intro ⟨_, meets, _⟩
      cases meets with
      | self leads => cases missing.symm.trans leads
      | below leads => cases missing.symm.trans leads
  · rename_i names inner leads
    rw [Option.getD_some, List.mem_filterMap]
    constructor
    · intro ⟨(folders, name), met, accepted⟩
      obtain ⟨_, rfl, holds, entered⟩ := Directory.mem_walk.1 met
      obtain ⟨walked, accepted, same⟩ := Option.map_eq_some_iff.1 accepted
      obtain ⟨rfl, isSource, kept⟩ := accept?_eq_some_iff.1 accepted
      have entered := fun folder mem => isSkipped_ne_true_iff.1 (entered folder mem)
      exact ⟨_, .below leads holds, ⟨entered, isSource, kept⟩, same⟩
    · intro ⟨entry, meets, wants, same⟩
      cases meets with
      | self other => cases leads.symm.trans other
      | below other holds =>
        cases leads.symm.trans other
        have entered := fun folder mem => isSkipped_ne_true_iff.2 (wants.entered folder mem)
        refine ⟨_, Directory.mem_walk.2 ⟨_, rfl, holds, entered⟩, ?_⟩
        exact Option.map_eq_some_iff.2
          ⟨_, accept?_eq_some_iff.2 ⟨rfl, wants.isSource, wants.kept⟩, same⟩
  · rename_i names content leads
    obtain ⟨above, name, rfl, last⟩ := Disk.splitLast?_of_lookup leads
    simp only [last, Option.getD_some]
    constructor
    · intro mem
      split at mem
      · rename_i test
        obtain ⟨isSource, kept⟩ := accepts_iff.1 test
        exact ⟨_, .self leads, ⟨nofun, isSource, kept⟩, (List.mem_singleton.1 mem).symm⟩
      · cases mem
    · intro ⟨entry, meets, wants, same⟩
      cases meets with
      | self other =>
        have names := congrArg Prod.fst (Except.ok.inj (leads.symm.trans other))
        cases List.append_inj_right' names rfl
        rw [if_pos (accepts_iff.2 ⟨wants.isSource, wants.kept⟩)]
        exact List.mem_singleton.2 same.symm
      | below other holds => cases leads.symm.trans other

theorem mem_discover {paths : List Octets} : file ∈ discovery.discover disk paths ↔
    ∃ path ∈ paths, ∃ entry, Meets disk path entry ∧ discovery.Wants entry ∧
      disk.fileId entry.walked = file := by
  rw [discover, FileId.mem_sorted, List.mem_flatMap]
  exact exists_congr fun path => and_congr_right fun _ => mem_discoverAt?

/-- What is discovered are the files that are looked for, at one of the paths or below it, in path
order. So neither the order of the paths nor their number matters, and two lists of paths together
give what each of them gives. -/
theorem discovered_exactly (discovery : Discovery) (disk : Disk) :
    (∀ paths, (discovery.discover disk paths).Pairwise (FileId.lt · ·) ∧
      ∀ file, file ∈ discovery.discover disk paths ↔
        ∃ path ∈ paths, ∃ entry, Meets disk path entry ∧ discovery.Wants entry ∧
          disk.fileId entry.walked = file) ∧
    (∀ paths others, (∀ path, path ∈ paths ↔ path ∈ others) →
      discovery.discover disk paths = discovery.discover disk others) ∧
    ∀ paths others, discovery.discover disk (paths ++ others) =
      FileId.sorted (discovery.discover disk paths ++ discovery.discover disk others) := by
  refine ⟨?_, ?_, ?_⟩
  · intro paths
    exact ⟨Sorted.sortNew_pairwise FileId.lt_isStrictOrder _, fun file => mem_discover⟩
  · intro paths others same
    apply FileId.sorted_congr
    intro file
    simp only [List.mem_flatMap, same]
  · intro paths others
    apply FileId.sorted_congr
    intro file
    rw [List.flatMap_append, List.mem_append, List.mem_append, discover, discover,
      FileId.mem_sorted, FileId.mem_sorted]

/-- The pattern fits the path of one file from `src` on, but not from the directory above it. The name
of a directory need not be a text, and is then none of those that are skipped. -/
theorem discovered_exactly_overlapping :
    let discovery : Discovery := ⟨["ts"], [Discovery.fits [.char 'a', .anyText]]⟩
    let dist : Directory := .file (.text "b.ts") (.text "") .empty
    let odd : Directory := .file (.text "c.ts") (.text "") .empty
    let src : Directory := .file (.text "a.ts") (.text "") <| .folder "dist" dist <|
      .folder (.raw [255]) odd .empty
    let disk : Disk := ⟨.folder "p" (.folder "src" src .empty) .empty, some "/p"⟩
    let a : FileId := ⟨true, ["p", "src", "a.ts"]⟩
    let c : FileId := ⟨true, ["p", "src", .raw [255], "c.ts"]⟩
    let srcFirst : List Octets := ["src", "."]
    let srcBetween : List Octets := [".", "src", "."]
    (∀ path, path ∈ srcFirst ↔ path ∈ srcBetween) ∧
      discovery.discover disk srcFirst = discovery.discover disk srcBetween ∧
      discovery.discover disk ["src"] = [c] ∧ discovery.discover disk srcFirst = [a, c] := by
  intro discovery dist odd src disk a c srcFirst srcBetween
  have same : ∀ path, path ∈ srcFirst ↔ path ∈ srcBetween := by
    intro path
    simp only [srcFirst, srcBetween, List.mem_cons, List.not_mem_nil, or_false]
    tauto
  exact ⟨same, (discovered_exactly discovery disk).2.1 _ _ same, by decide +kernel,
    by decide +kernel⟩

end Discovery

end ImportCycles
