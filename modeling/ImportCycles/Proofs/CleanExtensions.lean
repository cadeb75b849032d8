import ImportCycles.Config.Settings
import Mathlib.Data.List.DropRight
import Mathlib.Data.List.TakeWhile

/-! # Extensions in normal form

Settings hold extensions that were cleaned once: blanks were taken off at both ends, then dots in
front. So none is empty, starts with a dot or ends with a blank. One may start with a blank, though,
if the blank stood behind the dots of the text that was given. Exactly then another cleaning gives
something else, so settings that are combined again with their own extensions change.
-/

namespace ImportCycles.Settings

open Text (isBlank trim)

/-- An extension without anything that cleaning takes off. -/
structure IsNormalExtension (extension : String) : Prop where
  ne_empty : extension ≠ ""
  no_dot : extension.toList.head? ≠ some '.'
  first_shows : ∀ c ∈ extension.toList.head?, isBlank c = false
  last_shows : ∀ c ∈ extension.toList.getLast?, isBlank c = false

/-- A text with a blank behind the dots that it starts with, and something to see behind the blank.
Blanks in front of the dots do not count. -/
def BlankBehindDots (text : List Char) : Prop :=
  ∃ blanks dots blank rest, text = blanks ++ (dots ++ blank :: rest) ∧
    (∀ c ∈ blanks, isBlank c = true) ∧ dots ≠ [] ∧ (∀ c ∈ dots, c = '.') ∧
    isBlank blank = true ∧ ∃ c ∈ rest, isBlank c = false

/-! ### One cleaning -/

/-- The first character that is not dropped. -/
theorem eq_false_of_head?_dropWhile {p : Char → Bool} {text : List Char} {c : Char}
    (first : (text.dropWhile p).head? = some c) : p c = false := by
  have stops := List.head?_dropWhile_not p text
  rw [first] at stops
  exact stops

section Clean

variable {text : List Char} {c : Char}

/-- The characters of a cleaned extension. -/
def cleaned (text : List Char) : List Char :=
  (trim text).dropWhile (· = '.')

theorem toList_cleanExtension (extension : String) :
    (cleanExtension extension).toList = cleaned extension.toList :=
  String.toList_ofList

theorem first_trim (first : (trim text).head? = some c) : isBlank c = false := by
  have inFront : (text.dropWhile isBlank).head? = some c := by
    have front : trim text <+: text.dropWhile isBlank := List.rdropWhile_prefix isBlank _
    obtain ⟨rest, whole⟩ := front
    rw [← whole, List.head?_append, first]
    rfl
  exact eq_false_of_head?_dropWhile inFront

theorem last_trim (last : (trim text).getLast? = some c) : isBlank c = false := by
  rw [trim, List.getLast?_reverse] at last
  exact eq_false_of_head?_dropWhile last

theorem first_cleaned (first : (cleaned text).head? = some c) : c ≠ '.' := by
  simpa using eq_false_of_head?_dropWhile first

theorem last_cleaned (last : (cleaned text).getLast? = some c) : isBlank c = false := by
  have atEnd : (trim text).getLast? = some c := by
    rw [← List.takeWhile_append_dropWhile (p := (· = '.')) (l := trim text), List.getLast?_append]
    change ((cleaned text).getLast?).or _ = some c
    rw [last]
    rfl
  exact last_trim atEnd

/-- Blanks are taken off up to the last character that shows. -/
theorem rdropWhile_append_of_exists {rest : List Char} (front : List Char)
    (shows : ∃ c ∈ rest, isBlank c = false) :
    (front ++ rest).rdropWhile isBlank = front ++ rest.rdropWhile isBlank := by
  have some : (rest.reverse.dropWhile isBlank).isEmpty = false := by
    obtain ⟨c, mem, shown⟩ := shows
    rw [List.isEmpty_eq_false_iff, ne_eq, List.dropWhile_eq_nil_iff]
    intro blank
    rw [blank c (List.mem_reverse.2 mem)] at shown
    exact Bool.noConfusion shown
  rw [List.rdropWhile, List.reverse_append, List.dropWhile_append, some, List.rdropWhile]
  simp

/-- A cleaned text starts with a blank exactly if the blank stood behind dots. -/
theorem exists_first_cleaned_iff :
    (∃ c ∈ (cleaned text).head?, isBlank c = true) ↔ BlankBehindDots text := by
  constructor
  · rintro ⟨blank, first, isBlank_blank⟩
    obtain ⟨rest, clean⟩ := List.head?_eq_some_iff.1 first
    have trimmed : trim text = (trim text).takeWhile (· = '.') ++ blank :: rest := by
      rw [← clean]
      exact List.takeWhile_append_dropWhile.symm
    have whole : text = text.takeWhile isBlank ++
        (trim text ++ (text.dropWhile isBlank).rtakeWhile isBlank) := by
      change text = _ ++ ((text.dropWhile isBlank).rdropWhile isBlank ++ _)
      rw [List.rdropWhile_append_rtakeWhile, List.takeWhile_append_dropWhile]
    refine ⟨text.takeWhile isBlank, (trim text).takeWhile (· = '.'), blank,
      rest ++ (text.dropWhile isBlank).rtakeWhile isBlank, ?_, ?_, ?_, ?_, isBlank_blank, ?_⟩
    · rw [← List.cons_append, ← List.append_assoc _ (blank :: rest), ← trimmed]
      exact whole
    · exact fun c mem => List.mem_takeWhile_imp mem
    · -- without dots the trimmed text would start with this blank
      intro none
      rw [none, List.nil_append] at trimmed
      have shown : isBlank blank = false := first_trim (by rw [trimmed, List.head?_cons])
      rw [shown] at isBlank_blank
      exact Bool.noConfusion isBlank_blank
    · exact fun c mem => by simpa using List.mem_takeWhile_imp mem
    · -- the last character shows, so it is not this blank
      have nonempty : blank :: rest ≠ [] := List.cons_ne_nil _ _
      have lastOf : (cleaned text).getLast? = some ((blank :: rest).getLast nonempty) := by
        rw [clean, List.getLast?_eq_some_getLast nonempty]
      have shown := last_cleaned lastOf
      rcases List.mem_cons.1 (List.getLast_mem nonempty) with same | mem
      · rw [same, isBlank_blank] at shown
        exact Bool.noConfusion shown
      · exact ⟨_, List.mem_append_left _ mem, shown⟩
  · rintro ⟨blanks, dots, blank, rest, rfl, allBlank, nonempty, allDots, isBlank_blank, shows⟩
    have skipped : (blanks ++ (dots ++ blank :: rest)).dropWhile isBlank =
        dots ++ blank :: rest := by
      obtain ⟨dot, others, rfl⟩ := List.exists_cons_of_ne_nil nonempty
      obtain rfl := allDots dot (by simp)
      rw [List.dropWhile_append_of_pos allBlank]
      rfl
    have trimmed : trim (blanks ++ (dots ++ blank :: rest)) =
        dots ++ blank :: rest.rdropWhile isBlank := by
      change ((blanks ++ (dots ++ blank :: rest)).dropWhile isBlank).rdropWhile isBlank = _
      rw [skipped, List.append_cons, rdropWhile_append_of_exists _ shows, ← List.append_cons]
    have clean : cleaned (blanks ++ (dots ++ blank :: rest)) =
        blank :: rest.rdropWhile isBlank := by
      have notDot : blank ≠ '.' := by
        rintro rfl
        exact absurd isBlank_blank (by decide)
      rw [cleaned, trimmed, List.dropWhile_append_of_pos fun c mem => decide_eq_true (allDots c mem)]
      simp [notDot]
    exact ⟨blank, by rw [clean]; rfl, isBlank_blank⟩

theorem length_cleaned_le (text : List Char) :
    (cleaned text).length ≤ (text.dropWhile isBlank).length := by
  refine (List.length_dropWhile_le _ _).trans ?_
  exact (List.rdropWhile_prefix isBlank _).length_le

end Clean

/-- Cleaning leaves just the extensions in normal form as they are. -/
theorem cleanExtension_eq_self_iff {extension : String} (some : extension ≠ "") :
    cleanExtension extension = extension ↔ IsNormalExtension extension := by
  have clean := toList_cleanExtension extension
  constructor
  · intro same
    rw [same] at clean
    refine ⟨some, ?_, ?_, ?_⟩
    · intro dot
      rw [clean] at dot
      exact first_cleaned dot rfl
    · intro c first
      obtain ⟨rest, split⟩ := List.head?_eq_some_iff.1 first
      -- a blank in front would make the text shorter
      rw [Bool.eq_false_iff]
      intro blank
      have shorter := length_cleaned_le extension.toList
      rw [← clean, split, List.dropWhile_cons_of_pos blank, List.length_cons] at shorter
      have atMost := List.length_dropWhile_le isBlank rest
      omega
    · intro c last
      rw [clean] at last
      exact last_cleaned last
  · intro normal
    rw [← String.toList_inj, clean]
    have front : extension.toList.dropWhile isBlank = extension.toList := by
      rw [List.dropWhile_eq_self_iff]
      intro nonempty blank
      have shown := normal.first_shows _ (List.head?_eq_getElem? .. ▸ List.getElem?_eq_getElem nonempty)
      rw [shown] at blank
      exact Bool.noConfusion blank
    have back : extension.toList.rdropWhile isBlank = extension.toList := by
      rw [List.rdropWhile_eq_self_iff]
      intro nonempty blank
      have shown := normal.last_shows _ (List.getLast?_eq_some_getLast nonempty)
      rw [shown] at blank
      exact Bool.noConfusion blank
    have trimmed : trim extension.toList = extension.toList := by
      change (extension.toList.dropWhile isBlank).rdropWhile isBlank = _
      rw [front, back]
    rw [cleaned, trimmed, List.dropWhile_eq_self_iff]
    intro nonempty dot
    refine normal.no_dot ?_
    rw [List.head?_eq_getElem?, List.getElem?_eq_getElem nonempty]
    simpa using dot

/-! ### Extensions that are combined again -/

section Combine

variable {cwd : Option String} {common : SharedArgs} {search : SearchArgs} {file : ConfigFile}
  {settings : Settings} {extensions : List String} {extension : String}

/-- The extensions as they were given: by the command line, the file, or as usual. -/
def givenExtensions (common : SharedArgs) (file : ConfigFile) : List String :=
  (common.extensions <|> file.extensions).getD defaultExtensions

/-- The depth limit that was given. -/
def givenDepthLimit (search : SearchArgs) (file : ConfigFile) : Nat :=
  (search.depthLimit <|> file.depthLimit).getD defaultDepthLimit

theorem combine_eq_ok_iff : combine cwd common search file = .ok settings ↔
    givenDepthLimit search file ≠ 0 ∧ cleanExtensions (givenExtensions common file) ≠ [] ∧
      settings =
        { paths := common.pathsOrHere cwd
          root := common.root <|> file.root <|> cwd
          depthLimit := givenDepthLimit search file
          extensions := cleanExtensions (givenExtensions common file)
          exclude := file.exclude ++ common.exclude } := by
  unfold combine
  change (if givenDepthLimit search file = 0 then _ else if
    (cleanExtensions (givenExtensions common file)).isEmpty = true then _ else _) = _ ↔ _
  split
  · rename_i zero
    simp [zero]
  · rename_i positive
    split
    · rename_i none
      simp [List.isEmpty_iff.1 none]
    · rename_i some
      have taken : ∀ given : Settings, (Except.ok given : Except Error Settings) = .ok settings ↔
          givenDepthLimit search file ≠ 0 ∧ cleanExtensions (givenExtensions common file) ≠ [] ∧
            settings = given := fun given => by
        simp [positive, List.isEmpty_iff.not.1 some, eq_comm]
      exact taken _

theorem mem_cleanExtensions : extension ∈ cleanExtensions extensions ↔
    extension ≠ "" ∧ ∃ text ∈ extensions, cleanExtension text = extension := by
  simp [cleanExtensions, and_comm]

/-- What a cleaning leaves starts with no dot and ends with no blank. -/
theorem of_mem_cleanExtensions (mem : extension ∈ cleanExtensions extensions) :
    extension ≠ "" ∧ extension.toList.head? ≠ some '.' ∧
      ∀ c ∈ extension.toList.getLast?, isBlank c = false := by
  obtain ⟨some, text, _, rfl⟩ := mem_cleanExtensions.1 mem
  rw [toList_cleanExtension]
  exact ⟨some, fun dot => first_cleaned dot rfl, fun c last => last_cleaned last⟩

theorem isNormalExtension_iff (mem : extension ∈ cleanExtensions extensions) :
    IsNormalExtension extension ↔ ∀ c ∈ extension.toList.head?, isBlank c = false := by
  obtain ⟨some, dot, last⟩ := of_mem_cleanExtensions mem
  exact ⟨IsNormalExtension.first_shows, fun first => ⟨some, dot, first, last⟩⟩

/-- Cleaned extensions are in normal form unless one was given with a blank behind its dots. -/
theorem forall_isNormalExtension_iff :
    (∀ extension ∈ cleanExtensions extensions, IsNormalExtension extension) ↔
      ∀ text ∈ extensions, ¬ BlankBehindDots text.toList := by
  constructor
  · intro normal text mem hidden
    obtain ⟨c, first, blank⟩ := exists_first_cleaned_iff.2 hidden
    rw [← toList_cleanExtension] at first
    have some : cleanExtension text ≠ "" := by
      intro none
      simp [none] at first
    have left := normal _ (mem_cleanExtensions.2 ⟨some, text, mem, rfl⟩)
    rw [left.first_shows c first] at blank
    exact Bool.noConfusion blank
  · intro plain extension mem
    rw [isNormalExtension_iff mem]
    obtain ⟨_, text, given, rfl⟩ := mem_cleanExtensions.1 mem
    intro c first
    rw [Bool.eq_false_iff]
    intro blank
    rw [toList_cleanExtension] at first
    exact plain text given (exists_first_cleaned_iff.1 ⟨c, first, blank⟩)

/-- Just the lists of extensions in normal form are left as they are by another cleaning. -/
theorem cleanExtensions_eq_self_iff : cleanExtensions extensions = extensions ↔
    ∀ extension ∈ extensions, IsNormalExtension extension := by
  constructor
  · intro same extension mem
    have whole : (extensions.map cleanExtension).filter (· ≠ "") =
        extensions.map cleanExtension := by
      have length : (cleanExtensions extensions).length =
          (extensions.map cleanExtension).length := by
        rw [same, List.length_map]
      exact List.filter_sublist.eq_of_length length
    have fixed : ∀ extension ∈ extensions, cleanExtension extension = extension := by
      rw [cleanExtensions, whole] at same
      exact List.map_inj_left.1 (same.trans (List.map_id _).symm)
    have some : extension ≠ "" := (mem_cleanExtensions.1 (same ▸ mem)).1
    exact (cleanExtension_eq_self_iff some).1 (fixed extension mem)
  · intro normal
    have fixed : ∀ extension ∈ extensions, cleanExtension extension = id extension := by
      intro extension mem
      have same := normal extension mem
      exact (cleanExtension_eq_self_iff same.ne_empty).2 same
    rw [cleanExtensions, List.map_congr_left fixed, List.map_id, List.filter_eq_self]
    exact fun extension mem => decide_eq_true (normal extension mem).ne_empty

/-- Combined settings search to some depth and have an extension. No extension is empty, starts with
a dot or ends with a blank. All of them are in normal form exactly if none was given with a blank
behind its dots, and exactly if combining again with these extensions gives the same ones, whatever
else is given then. -/
theorem combined_extensions_normal_iff (combined : combine cwd common search file = .ok settings) :
    1 ≤ settings.depthLimit ∧ settings.extensions ≠ [] ∧
      (∀ extension ∈ settings.extensions, extension ≠ "" ∧ extension.toList.head? ≠ some '.' ∧
        ∀ c ∈ extension.toList.getLast?, isBlank c = false) ∧
      ((∀ extension ∈ settings.extensions, IsNormalExtension extension) ↔
        ∀ text ∈ givenExtensions common file, ¬ BlankBehindDots text.toList) ∧
      ((∀ extension ∈ settings.extensions, IsNormalExtension extension) ↔
        ∀ cwd (common : SharedArgs) search file, givenDepthLimit search file ≠ 0 →
          ∃ again, combine cwd { common with extensions := some settings.extensions } search file =
            .ok again ∧ again.extensions = settings.extensions) := by
  obtain ⟨positive, nonempty, rfl⟩ := combine_eq_ok_iff.1 combined
  refine ⟨Nat.one_le_iff_ne_zero.2 positive, nonempty, fun _ => of_mem_cleanExtensions,
    forall_isNormalExtension_iff, ?_⟩
  rw [← cleanExtensions_eq_self_iff]
  constructor
  · intro same cwd common search file positive
    refine ⟨_, combine_eq_ok_iff.2 ⟨positive, ?_, rfl⟩, same⟩
    exact fun none => nonempty (same.symm.trans none)
  · intro everywhere
    obtain ⟨again, combined, same⟩ := everywhere cwd common search file positive
    obtain ⟨_, _, rfl⟩ := combine_eq_ok_iff.1 combined
    exact same

end Combine

/-- Blanks around the dots in front are no harm, nor are blanks further on. -/
theorem combined_extensions_normal_iff_mixed :
    ∃ settings, combine (some "/p") { extensions := some [" ..d.ts ", "m. ts", "..", " "] } {}
        { depthLimit := some 3 } = .ok settings ∧
      settings.extensions = ["d.ts", "m. ts"] ∧
      (∀ extension ∈ settings.extensions, IsNormalExtension extension) ∧
      ∃ again, combine none { extensions := some settings.extensions } {} {} = .ok again ∧
        again.extensions = settings.extensions := by
  have combined : combine (some "/p") { extensions := some [" ..d.ts ", "m. ts", "..", " "] } {}
      { depthLimit := some 3 } = .ok
        { paths := ["/p"], root := some "/p", depthLimit := 3, extensions := ["d.ts", "m. ts"] } := by
    decide
  obtain ⟨_, _, _, _, again_iff⟩ := combined_extensions_normal_iff combined
  have normal : ∀ extension ∈ ["d.ts", "m. ts"], IsNormalExtension extension :=
    cleanExtensions_eq_self_iff.1 (by decide)
  exact ⟨_, combined, rfl, normal, again_iff.1 normal none {} {} {} (by decide)⟩

/-- A blank behind dots is kept, and another cleaning takes it off. So an extension may start with a
blank, or be nothing but a blank and a dot. -/
theorem blank_kept_behind_dots :
    ∃ settings again,
      combine (some "/p") { extensions := some [". ts", ". ."] } {} {} = .ok settings ∧
      settings.extensions = [" ts", " ."] ∧ ¬ IsNormalExtension " ts" ∧
      combine (some "/p") { extensions := some settings.extensions } {} {} = .ok again ∧
      again.extensions = ["ts"] := by
  refine ⟨_, _, rfl, rfl, ?_, rfl, rfl⟩
  intro normal
  exact absurd (normal.first_shows ' ' rfl) (by decide)

end ImportCycles.Settings
