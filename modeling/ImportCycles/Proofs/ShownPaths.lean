import ImportCycles.Proofs.NormalForms

/-! # Shown paths

A file is shown by what is left of its path below some root, and in full where the root does not lead
to it or nothing is left. Whatever the root looks like, the shown path leads from the root back to the
file if its names are texts: so nothing is lost, and two such files that are shown alike are the same.
-/

namespace ImportCycles.FileId

open ImportCycles.Path (Component)

variable {file other start : FileId} {base : Octets} {left : List Component}

/-- Every name is a text. -/
def IsText (file : FileId) : Prop := ∀ name ∈ file.names, ∃ text : String, name = .text text

/-- Texts with slashes between them are a text. -/
theorem exists_ofPieces_eq_text {pieces : List Octets}
    (isText : ∀ piece ∈ pieces, ∃ text : String, piece = .text text) :
    ∃ text : String, Path.ofPieces pieces = .text text := by
  match pieces with
  | [] => exact ⟨"", rfl⟩
  | [piece] =>
    obtain ⟨text, rfl⟩ := isText piece List.mem_cons_self
    exact ⟨text, by simp [Path.ofPieces]⟩
  | piece :: next :: rest =>
    obtain ⟨first, rfl⟩ := isText piece List.mem_cons_self
    obtain ⟨others, spelled⟩ := exists_ofPieces_eq_text fun piece mem =>
      isText piece (List.mem_cons_of_mem _ mem)
    refine ⟨first ++ "/" ++ others, ?_⟩
    rw [Octets.text_append, Octets.text_append, ← spelled]
    simp [Octets.ext_iff, Path.ofPieces, List.intercalate_cons_cons]

/-- The path of a file whose names are texts is a text, so it is shown as it is. -/
theorem IsText.text_text (isText : file.IsText) : .text file.text = file.path := by
  obtain ⟨names, spelled⟩ := exists_ofPieces_eq_text isText
  have path : file.path = .text ((if file.rooted then "/" else "") ++ names) := by
    rw [FileId.path, spelled, Octets.text_append]
  rw [text, path, Octets.shown_text]

/-- What is left of a file are the components that come after those of the base. -/
theorem below?_eq_some_iff :
    file.below? base = some left ↔ Path.components base ++ left = file.components :=
  List.isPrefixOf?_eq_some_iff_append_eq

/-- The two ways in which a file is shown. -/
theorem shown_cases (file : FileId) (base : Option Octets) :
    file.shown base = file.text ∨
      ∃ path left, base = some path ∧ Path.components path ++ left = file.components ∧
        file.shown base = (ofComponents left).text := by
  unfold shown
  split
  · rename_i first rest left
    obtain ⟨path, rfl, below⟩ := Option.bind_eq_some_iff.1 left
    exact .inr ⟨path, first :: rest, rfl, below?_eq_some_iff.1 below, rfl⟩
  · exact .inl rfl

/-- What is left of an absolute file is the whole of it, or names that the base does not have. -/
theorem IsAbsolute.left_cases (absolute : file.IsAbsolute)
    (divided : Path.components base ++ left = file.components) :
    ofComponents left = file ∨
      ∃ above below, file.names = above ++ below ∧ ofComponents left = ⟨false, below⟩ ∧
        ∀ start : FileId, start.follow base = ⟨true, above⟩ := by
  rw [absolute.components_eq] at divided
  cases components : Path.components base with
  | nil =>
    rw [components, List.nil_append] at divided
    left
    rw [divided, ofComponents, List.foldl_cons, foldl_step_names]
    exact congrArg (FileId.mk · file.names) absolute.rooted.symm
  | cons first rest =>
    rw [components, List.cons_append, List.cons.injEq] at divided
    obtain ⟨rfl, divided⟩ := divided
    obtain ⟨above, below, names, rfl, rfl⟩ := List.map_eq_append_iff.1 divided.symm
    refine .inr ⟨above, below, names, foldl_step_names _ below, ?_⟩
    intro start
    rw [follow, components, List.foldl_cons, foldl_step_names]
    rfl

/-- The shown path of an absolute file leads from the base to the file. -/
theorem IsAbsolute.follow_shown (absolute : file.IsAbsolute) (isText : file.IsText)
    (start : FileId) (base : Octets) :
    (start.follow base).follow (file.shown (some base)) = file := by
  rcases file.shown_cases (some base) with full | ⟨path, left, same, divided, shown⟩
  · rw [full, isText.text_text, absolute.follow_path]
  · obtain rfl := Option.some.inj same
    rcases absolute.left_cases divided with whole | ⟨above, below, names, part, leads⟩
    · rw [shown, whole, isText.text_text, absolute.follow_path]
    · have mem : ∀ name ∈ below, name ∈ file.names :=
        fun name mem => names ▸ List.mem_append_right _ mem
      have normal : (⟨false, below⟩ : FileId).IsNormal :=
        fun name inside => absolute.normal name (mem name inside)
      have belowText : (⟨false, below⟩ : FileId).IsText :=
        fun name inside => isText name (mem name inside)
      rw [shown, part, belowText.text_text, leads, FileId.follow_path _ normal,
        if_neg Bool.false_ne_true, ← names, ← absolute.rooted]

/-- The path by which a file is shown leads back to it, if its names are texts. -/
theorem shown_lossless (cwd : Option Octets) :
    (∀ file : FileId, file.IsAbsolute → file.IsText →
      (∀ base, ofPath cwd (Path.join base (file.shown (some base))) = file) ∧
        ofPath cwd (file.shown none) = file) ∧
      ∀ (base : Option Octets) (file other : FileId), file.IsAbsolute → file.IsText →
        other.IsAbsolute → other.IsText → file.shown base = other.shown base → file = other := by
  constructor
  · intro file absolute isText
    constructor
    · intro base
      rw [ofPath_join, ofPath_eq_follow, absolute.follow_shown isText]
    · rw [ofPath_eq_follow]
      change (nowhere.follow _).follow (.text file.text) = file
      rw [isText.text_text, absolute.follow_path]
  · intro base file other absolute isText otherAbsolute otherIsText same
    cases base with
    | none =>
      rw [← absolute.follow_path nowhere, ← otherAbsolute.follow_path nowhere, ← isText.text_text,
        ← otherIsText.text_text]
      exact congrArg (fun shown : String => nowhere.follow shown) same
    | some base =>
      rw [← absolute.follow_shown isText nowhere base,
        ← otherAbsolute.follow_shown otherIsText nowhere base, same]

/-- One root leads to the first file and not to the second, one with a `..` and one that is no text to
neither. -/
theorem shown_lossless_odd_roots :
    let a : FileId := ⟨true, ["p", "src", "a"]⟩
    let b : FileId := ⟨true, ["q"]⟩
    (a.IsAbsolute ∧ a.IsText ∧ b.IsAbsolute ∧ b.IsText) ∧
      (a.shown (some "/p/.//") = "src/a" ∧
        ofPath none (Path.join "/p/.//" (a.shown (some "/p/.//"))) = a) ∧
      (a.shown (some "/p/src/..") = "/p/src/a" ∧
        ofPath none (Path.join "/p/src/.." (a.shown (some "/p/src/.."))) = a) ∧
      (a.shown (some (.raw [255])) = "/p/src/a" ∧
        ofPath none (Path.join (.raw [255]) (a.shown (some (.raw [255])))) = a) ∧
      b.shown (some "/p/.//") = "/q" ∧ a.shown (some "/p/.//") ≠ b.shown (some "/p/.//") := by
  intro a b
  have absolute : a.IsAbsolute := isAbsolute_iff_exists_path.2 ⟨"/", "/p/src/a", rfl, by decide⟩
  have other : b.IsAbsolute := isAbsolute_iff_exists_path.2 ⟨"/", "/q", rfl, by decide⟩
  have isText : a.IsText := by simp [IsText, a]
  have otherIsText : b.IsText := by simp [IsText, b]
  have lossless := ((shown_lossless none).1 a absolute isText).1
  exact ⟨⟨absolute, isText, other, otherIsText⟩, ⟨by decide +kernel, lossless _⟩,
    ⟨by decide +kernel, lossless _⟩, ⟨by decide +kernel, lossless _⟩, by decide +kernel,
    fun same => absurd ((shown_lossless none).2 _ a b absolute isText other otherIsText same)
      (by decide)⟩

end ImportCycles.FileId
