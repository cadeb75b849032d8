import ImportCycles.FileId
import Mathlib.Data.List.Basic

/-! # Normal forms of paths

A path leads from one place to another: `..` goes up, a name goes down, and a leading slash starts
over from the root. Joining two paths leads along the one and then along the other. The identity of a
file is where its path leads to from the working directory, so it is the same for every way to write
the path, and its own path leads to it from anywhere. Only slashes, and the pieces that are empty or
made of one or two dots, matter for this; every other character is as good as any.
-/

namespace ImportCycles

namespace Path

variable {path base rest piece : Octets} {names : List Octets}

/-- A string that names an entry of a directory. -/
structure IsName (name : Octets) : Prop where
  ne_empty : name ≠ ""
  ne_here : name ≠ "."
  ne_up : name ≠ ".."
  noSlash : slash ∉ name.bytes

theorem Component.ofPiece?_of_isName (isName : IsName piece) :
    Component.ofPiece? piece = some (.name piece) := by
  simp [Component.ofPiece?, isName.ne_empty, isName.ne_here, isName.ne_up]

theorem Component.isName_of_ofPiece? {name : Octets} (noSlash : slash ∉ piece.bytes)
    (means : Component.ofPiece? piece = some (.name name)) : IsName name := by
  unfold Component.ofPiece? at means
  split at means
  · cases means
  · rename_i kept
    rw [not_or] at kept
    split at means
    · cases means
    · rename_i notUp
      cases means
      exact ⟨kept.1, kept.2, notUp, noSlash⟩

@[simp] theorem pieces_empty : pieces "" = [.text ""] := rfl

@[simp] theorem bytes_text_slash : (Octets.text "/").bytes = [slash] := by decide

theorem pieces_append_slash (base rest : Octets) :
    pieces (base ++ "/" ++ rest) = pieces base ++ pieces rest := by
  simp [pieces, List.splitOn_append_cons_self]

theorem not_mem_of_mem_splitOn {bytes part : List UInt8} {separator : UInt8}
    (mem : part ∈ bytes.splitOn separator) : separator ∉ part := by
  induction bytes generalizing part with
  | nil => simp_all
  | cons byte bytes ih =>
    rw [List.splitOn_cons_eq_if_modifyHead] at mem
    split at mem
    · rcases List.mem_cons.1 mem with rfl | mem
      · exact List.not_mem_nil
      · exact ih mem
    · rename_i other
      obtain ⟨first, others, divided⟩ :=
        List.exists_cons_of_ne_nil (List.splitOn_ne_nil separator bytes)
      rw [divided] at mem ih
      rcases List.mem_cons.1 mem with rfl | mem
      · rw [List.mem_cons, not_or]
        exact ⟨fun same => other (by simp [same]), ih (List.mem_cons_self)⟩
      · exact ih (List.mem_cons_of_mem _ mem)

theorem noSlash_of_mem_pieces (mem : piece ∈ pieces path) : slash ∉ piece.bytes := by
  obtain ⟨part, inPath, rfl⟩ := List.mem_map.1 mem
  exact not_mem_of_mem_splitOn inPath

/-- Names that are written with slashes between them are read back. -/
theorem pieces_ofPieces (isName : ∀ name ∈ names, IsName name) (some : names ≠ []) :
    pieces (ofPieces names) = names := by
  have noSlash : ∀ bytes ∈ names.map (·.bytes), slash ∉ bytes := by
    intro bytes mem
    obtain ⟨name, given, rfl⟩ := List.mem_map.1 mem
    exact (isName name given).noSlash
  rw [pieces, ofPieces, List.splitOn_intercalate slash noSlash (by simpa using some), List.map_map]
  exact List.map_id names

theorem pieces_ne_nil (path : Octets) : pieces path ≠ [] := by
  simp [pieces, List.splitOn_ne_nil]

theorem exists_of_isAbsolute (absolute : isAbsolute path = true) :
    ∃ rest : Octets, path = "" ++ "/" ++ rest := by
  obtain ⟨bytes⟩ := path
  cases bytes with
  | nil => cases absolute
  | cons first rest =>
    obtain rfl : first = slash := by simpa [isAbsolute] using absolute
    exact ⟨⟨rest⟩, by simp [Octets.ext_iff]⟩

theorem join_of_isAbsolute (absolute : isAbsolute rest = true) : join base rest = rest := by
  rw [join, if_pos absolute]

@[simp] theorem join_empty (rest : Octets) : join "" rest = rest := by
  simp [join]

theorem isAbsolute_append (some : base ≠ "") (rest : Octets) :
    isAbsolute (base ++ rest) = isAbsolute base := by
  obtain ⟨first, others, bytes⟩ :=
    List.exists_cons_of_ne_nil (mt Octets.eq_text_empty_iff.2 some)
  simp [isAbsolute, bytes]

theorem isAbsolute_join (relative : isAbsolute rest = false) :
    isAbsolute (join base rest) = isAbsolute base := by
  by_cases none : base = ""
  · rw [none, join_empty, relative]
    rfl
  · rw [join, if_neg (by simp [relative])]
    split
    · exact isAbsolute_append none rest
    · rw [Octets.append_assoc]
      exact isAbsolute_append none _

/-- A slash at the end of a path leaves an empty piece after it, which means nothing. -/
theorem filterMap_pieces_join (relative : isAbsolute rest = false) :
    (pieces (join base rest)).filterMap Component.ofPiece? =
      (pieces base).filterMap Component.ofPiece? ++
        (pieces rest).filterMap Component.ofPiece? := by
  rw [join, if_neg (by simp [relative])]
  split
  · rename_i ended
    rcases ended with none | ended
    · rw [none]
      simp [Component.ofPiece?]
    · obtain ⟨front, bytes⟩ := List.getLast?_eq_some_iff.1 ended
      have divided : base = .raw front ++ "/" ++ "" := by
        simp [Octets.ext_iff, bytes]
      rw [divided, Octets.append_empty, pieces_append_slash, List.filterMap_append,
        ← Octets.append_empty (.raw front ++ "/"), pieces_append_slash]
      simp [Component.ofPiece?]
  · rw [pieces_append_slash, List.filterMap_append]

end Path

namespace FileId

open ImportCycles.Path (Component IsName)

variable {file start : FileId} {cwd path base rest : Octets} {steps : List Component}

/-- Where a path leads to from a place. -/
def follow (file : FileId) (path : Octets) : FileId :=
  (Path.components path).foldl step file

/-- The place where relative paths start that are not read from any directory. -/
def nowhere : FileId := ⟨false, []⟩

theorem follow_eq (file : FileId) (path : Octets) :
    file.follow path = ((Path.pieces path).filterMap Component.ofPiece?).foldl step
      (if Path.isAbsolute path then root else file) := by
  rw [follow, Path.components, List.foldl_append, Path.leading]
  split
  · rfl
  · split <;> rfl

theorem follow_of_isAbsolute (file : FileId) (absolute : Path.isAbsolute path = true) :
    file.follow path = root.follow path := by
  rw [follow_eq, follow_eq, absolute]
  rfl

/-- A path that is joined to another one leads on from where that one leads to. -/
theorem follow_join (file : FileId) (base rest : Octets) :
    file.follow (Path.join base rest) = (file.follow base).follow rest := by
  cases absolute : Path.isAbsolute rest with
  | true =>
    rw [Path.join_of_isAbsolute absolute, follow_of_isAbsolute file absolute,
      follow_of_isAbsolute (file.follow base) absolute]
  | false =>
    rw [follow_eq, Path.filterMap_pieces_join absolute, Path.isAbsolute_join absolute,
      List.foldl_append, ← follow_eq, follow_eq (file.follow base), absolute]
    rfl

/-- The identity of a file is where its path leads to from the working directory. -/
theorem ofPath_eq_follow (cwd : Option Octets) (path : Octets) :
    ofPath cwd path = (nowhere.follow (cwd.getD "")).follow path :=
  follow_join nowhere _ _

theorem ofPath_join (cwd : Option Octets) (base rest : Octets) :
    ofPath cwd (Path.join base rest) = (ofPath cwd base).follow rest := by
  rw [ofPath_eq_follow, follow_join, ← ofPath_eq_follow]

/-- Every name is one that a directory can have. -/
def IsNormal (file : FileId) : Prop := ∀ name ∈ file.names, IsName name

theorem isNormal_step {component : Component} (normal : file.IsNormal)
    (isName : ∀ name, component = .name name → IsName name) : (file.step component).IsNormal := by
  cases component with
  | root => exact fun _ mem => absurd mem List.not_mem_nil
  | here => exact normal
  | up => exact fun name mem => normal name ((List.dropLast_subset _) mem)
  | name piece =>
    intro name mem
    rcases List.mem_append.1 mem with old | new
    · exact normal name old
    · rw [List.mem_singleton.1 new]
      exact isName piece rfl

theorem isNormal_foldl_step (normal : file.IsNormal)
    (isName : ∀ name, .name name ∈ steps → IsName name) : (steps.foldl step file).IsNormal := by
  induction steps generalizing file with
  | nil => exact normal
  | cons first rest ih =>
    refine ih (isNormal_step normal ?_) fun name mem => isName name (List.mem_cons_of_mem _ mem)
    rintro name rfl
    exact isName name List.mem_cons_self

theorem isNormal_follow (normal : file.IsNormal) (path : Octets) :
    (file.follow path).IsNormal := by
  rw [follow_eq]
  apply isNormal_foldl_step
  · split
    · exact fun _ mem => absurd mem List.not_mem_nil
    · exact normal
  · intro name mem
    obtain ⟨piece, inPath, means⟩ := List.mem_filterMap.1 mem
    exact Component.isName_of_ofPiece? (Path.noSlash_of_mem_pieces inPath) means

theorem isNormal_ofPath (cwd : Option Octets) (path : Octets) : (ofPath cwd path).IsNormal := by
  have nowhereNormal : nowhere.IsNormal := fun _ mem => absurd mem List.not_mem_nil
  rw [ofPath_eq_follow]
  exact isNormal_follow (isNormal_follow nowhereNormal _) path

theorem foldl_step_names (start : FileId) (names : List Octets) :
    (names.map Component.name).foldl step start = { start with names := start.names ++ names } := by
  induction names generalizing start with
  | nil => simp
  | cons name rest ih =>
    rw [List.map_cons, List.foldl_cons, ih]
    simp [step]

/-- The pieces of an identity's own path. -/
theorem pieces_path (normal : file.IsNormal) :
    Path.pieces file.path = (if file.rooted then [.text ""] else []) ++
      if file.names = [] then [.text ""] else file.names := by
  obtain ⟨rooted, names⟩ := file
  by_cases none : names = []
  · subst none
    cases rooted <;> rfl
  · have inner := Path.pieces_ofPieces normal none
    cases rooted with
    | true =>
      change Path.pieces ("" ++ "/" ++ Path.ofPieces names) = _
      rw [Path.pieces_append_slash, inner, if_pos rfl, if_neg none]
      rfl
    | false => simpa [FileId.path, none] using inner

theorem isAbsolute_path (normal : file.IsNormal) : Path.isAbsolute file.path = file.rooted := by
  cases rooted : file.rooted with
  | true => simp [FileId.path, rooted, Path.isAbsolute]
  | false =>
    rw [Bool.eq_false_iff]
    intro absolute
    -- A path that starts with a slash has an empty piece before another one.
    obtain ⟨rest, eq⟩ := Path.exists_of_isAbsolute absolute
    obtain ⟨first, others, some⟩ := List.exists_cons_of_ne_nil (Path.pieces_ne_nil rest)
    have pieces := pieces_path normal
    rw [eq, Path.pieces_append_slash, some, rooted, Path.pieces_empty] at pieces
    cases names : file.names with
    | nil => simp [names] at pieces
    | cons name _ =>
      have empty : name = "" := by
        simpa [names, eq_comm] using congrArg List.head? pieces
      exact (normal name (by simp [names])).ne_empty empty

theorem filterMap_pieces_path (normal : file.IsNormal) :
    (Path.pieces file.path).filterMap Component.ofPiece? = file.names.map .name := by
  have names : file.names.filterMap Component.ofPiece? = file.names.map .name := by
    rw [List.filterMap_congr fun name mem => Component.ofPiece?_of_isName (normal name mem)]
    simp
  rw [pieces_path normal, List.filterMap_append]
  by_cases none : file.names = []
  · cases file.rooted <;> simp [none, Component.ofPiece?]
  · rw [if_neg none, names]
    cases file.rooted <;> simp [Component.ofPiece?]

/-- The path of an identity has no other components than those of the identity. -/
theorem components_path (normal : file.IsNormal) : Path.components file.path = file.components := by
  rw [Path.components, filterMap_pieces_path normal, components, Path.leading,
    isAbsolute_path normal]
  cases rooted : file.rooted with
  | true => rfl
  | false =>
    have noDot : (Path.pieces file.path).head? ≠ some (.text ".") := by
      rw [pieces_path normal, rooted]
      cases names : file.names with
      | nil => simp
      | cons name _ => simpa [names] using (normal name (by simp [names])).ne_here
    simp [noDot]

/-- The path of an identity leads to it from anywhere, if it starts at the root, and goes down by its
names otherwise. -/
theorem follow_path (start : FileId) (normal : file.IsNormal) :
    start.follow file.path =
      if file.rooted then file else { start with names := start.names ++ file.names } := by
  rw [follow_eq, filterMap_pieces_path normal, foldl_step_names, isAbsolute_path normal]
  split
  · rename_i rooted
    rw [root, List.nil_append, ← rooted]
  · rfl

theorem rooted_foldl_step (rooted : start.rooted = true) (steps : List Component) :
    (steps.foldl step start).rooted = true := by
  induction steps generalizing start with
  | nil => exact rooted
  | cons first rest ih =>
    apply ih
    cases first with
    | root => rfl
    | here => exact rooted
    | up => exact rooted
    | name piece => exact rooted

theorem rooted_follow (rooted : file.rooted = true) (path : Octets) :
    (file.follow path).rooted = true :=
  rooted_foldl_step rooted _

/-- From an absolute working directory every identity starts at the root. -/
theorem rooted_ofPath {cwd : Octets} (absolute : Path.isAbsolute cwd = true) (path : Octets) :
    (ofPath (some cwd) path).rooted = true := by
  rw [ofPath_eq_follow, Option.getD_some, follow_of_isAbsolute _ absolute]
  exact rooted_follow (rooted_follow rfl cwd) path

/-- An identity that starts at the root and can be made from a path. -/
structure IsAbsolute (file : FileId) : Prop where
  rooted : file.rooted = true
  normal : file.IsNormal

/-- The absolute identities are those that are made from an absolute working directory. -/
theorem isAbsolute_iff_exists_path : file.IsAbsolute ↔
    ∃ cwd path, Path.isAbsolute cwd = true ∧ ofPath (some cwd) path = file := by
  constructor
  · rintro ⟨rooted, normal⟩
    refine ⟨"/", file.path, rfl, ?_⟩
    rw [ofPath_eq_follow, follow_path _ normal, if_pos rooted]
  · rintro ⟨cwd, path, absolute, rfl⟩
    exact ⟨rooted_ofPath absolute path, isNormal_ofPath _ _⟩

theorem IsAbsolute.components_eq (absolute : file.IsAbsolute) :
    file.components = .root :: file.names.map .name := by
  rw [components, absolute.rooted, if_pos rfl, List.singleton_append]

theorem IsAbsolute.eq_of_names {other : FileId} (absolute : file.IsAbsolute)
    (otherAbsolute : other.IsAbsolute) (names : file.names = other.names) : file = other := by
  obtain ⟨_, _⟩ := file
  obtain ⟨_, _⟩ := other
  exact congr (congrArg FileId.mk (absolute.rooted.trans otherAbsolute.rooted.symm)) names

/-- The path of an absolute identity leads to it from anywhere. -/
theorem IsAbsolute.follow_path (absolute : file.IsAbsolute) (start : FileId) :
    start.follow file.path = file := by
  rw [FileId.follow_path _ absolute.normal, if_pos absolute.rooted]

/-- The identity of a path is its normal form. It is absolute, and its own path has no component but
the root and names, so nothing is left that could be normalised: taken as a path it is its own
identity. It stands for the path it was made from wherever another path is joined to it. -/
theorem normal_form_joins {cwd : Octets} (absolute : Path.isAbsolute cwd = true) :
    (∀ path, Path.isAbsolute (ofPath (some cwd) path).path = true ∧
      (∃ names, (∀ name ∈ names, IsName name) ∧
        (ofPath (some cwd) path).path = "/" ++ Path.ofPieces names ∧
        Path.components (ofPath (some cwd) path).path = .root :: names.map .name) ∧
      ofPath (some cwd) (ofPath (some cwd) path).path = ofPath (some cwd) path) ∧
    ∀ base rest, ofPath (some cwd) (Path.join base rest) =
      ofPath (some cwd) (Path.join (ofPath (some cwd) base).path rest) := by
  have made : ∀ path, (ofPath (some cwd) path).IsAbsolute :=
    fun path => isAbsolute_iff_exists_path.2 ⟨cwd, path, absolute, rfl⟩
  have again : ∀ path, ofPath (some cwd) (ofPath (some cwd) path).path =
      ofPath (some cwd) path := by
    intro path
    rw [ofPath_eq_follow _ (FileId.path _), (made path).follow_path]
  constructor
  · intro path
    refine ⟨?_, ⟨(ofPath (some cwd) path).names, (made path).normal, ?_, ?_⟩, again path⟩
    · rw [isAbsolute_path (made path).normal, (made path).rooted]
    · rw [FileId.path, (made path).rooted, if_pos rfl]
    · rw [components_path (made path).normal, (made path).components_eq]
  · intro base rest
    rw [ofPath_join, ofPath_join, again]

theorem normal_form_joins_above_root : Path.isAbsolute "/work" = true ∧
    ofPath (some "/work") (Path.join "./a//../../../b/" "..//c/./d") = ⟨true, ["c", "d"]⟩ ∧
    (ofPath (some "/work") "./a//../../../b/").text = "/b" ∧
    ofPath (some "/work") (Path.join "./a//../../../b/" "..//c/./d") =
      ofPath (some "/work") (Path.join (ofPath (some "/work") "./a//../../../b/").text "..//c/./d") :=
  ⟨by decide, by decide, by decide, (normal_form_joins (by decide)).2 _ _⟩

end FileId

end ImportCycles
