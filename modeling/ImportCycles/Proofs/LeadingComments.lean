import ImportCycles.Proofs.ScannedPrograms

/-! # Comments in front of a source

Comments and blanks in front of a source move what is found in it, and change nothing else. Masking
makes blanks of them and comes out in the code, so the search for a form passes over them and starts
the source where a word may start, as it would at the start of the text. From there on two searches
read the same text, and differ in the offsets they count from.
-/

namespace ImportCycles

namespace Sorted

/-- Keys that are told apart by the same elements make the same neighbours. -/
theorem dropRepeatsOf_injective {α : Type} {f : Nat → Nat} (injective : f.Injective)
    (key : α → Nat) (last : Nat) (list : List α) :
    dropRepeatsOf (fun a => f (key a)) (f last) list = dropRepeatsOf key last list := by
  induction list generalizing last with
  | nil => rfl
  | cons a rest ih =>
    simp only [dropRepeatsOf, injective.eq_iff]
    split
    · exact ih last
    · rw [ih]

theorem dropRepeats_injective {α : Type} {f : Nat → Nat} (injective : f.Injective)
    (key : α → Nat) (list : List α) :
    dropRepeats (fun a => f (key a)) list = dropRepeats key list := by
  cases list with
  | nil => rfl
  | cons a rest => rw [dropRepeats, dropRepeatsOf_injective injective, dropRepeats]

end Sorted

namespace Text

variable (before text : List Char)

theorem dropBytes?_append (n : Nat) :
    dropBytes? (byteLength before + n) (before ++ text) = dropBytes? n text := by
  induction before with
  | nil => rw [byteLength, Nat.zero_add, List.nil_append]
  | cons c before ih =>
    have positive := c.utf8Size_pos
    obtain ⟨m, size⟩ : ∃ m, byteLength (c :: before) + n = m + 1 :=
      Nat.exists_eq_succ_of_ne_zero (by rw [byteLength]; omega)
    have fits : c.utf8Size ≤ m + 1 := by rw [← size, byteLength]; omega
    have left : m + 1 - c.utf8Size = byteLength before + n := by rw [← size, byteLength]; omega
    rw [size, List.cons_append, dropBytes?, if_pos fits, left, ih]

theorem takeBytes?_append (n : Nat) :
    takeBytes? (byteLength before + n) (before ++ text) =
      (takeBytes? n text).map (before ++ ·) := by
  induction before with
  | nil => simp only [byteLength, Nat.zero_add, List.nil_append, Option.map_id']
  | cons c before ih =>
    have positive := c.utf8Size_pos
    obtain ⟨m, size⟩ : ∃ m, byteLength (c :: before) + n = m + 1 :=
      Nat.exists_eq_succ_of_ne_zero (by rw [byteLength]; omega)
    have fits : c.utf8Size ≤ m + 1 := by rw [← size, byteLength]; omega
    have left : m + 1 - c.utf8Size = byteLength before + n := by rw [← size, byteLength]; omega
    rw [size, List.cons_append, takeBytes?, if_pos fits, left, ih, Option.map_map]
    rfl

/-- A part of a text is the same part of a longer text. -/
theorem slice?_append (start stop : Nat) :
    slice? (before ++ text) (byteLength before + start) (byteLength before + stop) =
      slice? text start stop := by
  simp only [slice?, Nat.add_le_add_iff_left, Nat.add_sub_add_left, dropBytes?_append]

/-- The number of characters in the last line of a text. -/
def lastLineLength (text : List Char) : Nat :=
  (text.reverse.takeWhile (· ≠ '\n')).length

/-- The last line of two texts is that of the second, and goes back into the first where the second
has one line only. -/
theorem lastLineLength_append :
    lastLineLength (before ++ text) =
      if text.count '\n' = 0 then lastLineLength before + lastLineLength text
      else lastLineLength text := by
  have oneLine : text.count '\n' = 0 ↔ ∀ c ∈ text.reverse, decide (c ≠ '\n') = true := by
    rw [List.count_eq_zero]
    constructor
    · intro noFeed c mem
      refine decide_eq_true ?_
      intro isFeed
      exact noFeed (isFeed ▸ List.mem_reverse.1 mem)
    · intro passes mem
      exact of_decide_eq_true (passes '\n' (List.mem_reverse.2 mem)) rfl
  unfold lastLineLength
  rw [List.reverse_append]
  by_cases one : text.count '\n' = 0
  · rw [if_pos one, List.takeWhile_append_of_pos (oneLine.1 one),
      List.takeWhile_eq_self_iff.2 (oneLine.1 one), List.length_append, Nat.add_comm]
  · have stops : (text.reverse.takeWhile (· ≠ '\n')).length ≠ text.reverse.length := by
      intro whole
      have same := (List.takeWhile_prefix (fun c => decide (c ≠ '\n'))).eq_of_length whole
      exact one (oneLine.2 (List.takeWhile_eq_self_iff.1 same))
    rw [if_neg one, List.takeWhile_append, if_neg stops]

theorem position_eq_lastLineLength (n : Nat) :
    position text n = (1 + ((takeBytes? n text).getD text).count '\n',
      1 + lastLineLength ((takeBytes? n text).getD text)) := rfl

/-- Only the first line of a text goes on from where another text ends. -/
theorem position_append (n : Nat) :
    position (before ++ text) (byteLength before + n) =
      (before.count '\n' + (position text n).1,
        if (position text n).1 = 1 then lastLineLength before + (position text n).2
        else (position text n).2) := by
  have shown : (takeBytes? (byteLength before + n) (before ++ text)).getD (before ++ text) =
      before ++ (takeBytes? n text).getD text := by
    rw [takeBytes?_append]
    cases takeBytes? n text <;> rfl
  simp only [position_eq_lastLineLength, shown, List.count_append, lastLineLength_append,
    Nat.add_eq_left]
  split
  · exact Prod.ext (by dsimp only; omega) (by dsimp only; omega)
  · exact Prod.ext (by dsimp only; omega) rfl

end Text

/-- A statement of a source, where the source stands behind the given text. -/
def ImportStatement.behind (text : List Char) (statement : ImportStatement) : ImportStatement where
  specifier := statement.specifier
  location :=
    { offset := Text.byteLength text + statement.location.offset
      length := statement.location.length
      line := text.count '\n' + statement.location.line
      column :=
        if statement.location.line = 1 then
          Text.lastLineLength text + statement.location.column
        else statement.location.column }

namespace Source

open Text (isBlank isWord byteLength byteLength_append)

/-! ### Text that is no code -/

/-- A piece of a source that is no code. -/
inductive Filler where
  | blank (c : Char) (isBlank : isBlank c = true)
  /-- A comment up to the end of its line. -/
  | line (text : List Char) (oneLine : '\n' ∉ text)
  /-- A comment up to the first place where it is closed. -/
  | block (text : List Char) (unclosed : ¬ ['*', '/'] <:+: text)

def Filler.text : Filler → List Char
  | blank c _ => [c]
  | line text _ => '/' :: '/' :: (text ++ ['\n'])
  | block text _ => '/' :: '*' :: (text ++ ['*', '/'])

/-- Masking makes `blanks` of a text in the code, and is in the code behind it. -/
structure Fades (text blanks : List Char) : Prop where
  blank : ∀ c ∈ blanks, isBlank c = true
  size : byteLength blanks = byteLength text
  masked : ∀ rest, maskFrom .code (text ++ rest) = blanks ++ maskFrom .code rest

theorem isBlank_of_mem_blank {c d : Char} (mem : d ∈ blank c) : isBlank d = true := by
  rcases Masker.mem_blank mem with rfl | rfl
  · rfl
  · rfl

theorem byteLength_flatMap_blank (text : List Char) :
    byteLength (text.flatMap blank) = byteLength text := by
  induction text with
  | nil => rfl
  | cons c text ih =>
    rw [List.flatMap_cons, byteLength_append, Masker.byteLength_blank, ih, byteLength]

theorem maskFrom_line {text : List Char} (oneLine : '\n' ∉ text) (rest : List Char) :
    maskFrom .lineComment (text ++ '\n' :: rest) =
      text.flatMap blank ++ '\n' :: maskFrom .code rest := by
  induction text with
  | nil => simp [maskFrom, blank]
  | cons c text ih =>
    rw [List.mem_cons, not_or] at oneLine
    rw [List.cons_append, maskFrom, if_neg (Ne.symm oneLine.1), ih oneLine.2, List.flatMap_cons,
      List.append_assoc]

theorem maskFrom_block {text : List Char} (unclosed : ¬ ['*', '/'] <:+: text) (rest : List Char) :
    maskFrom .blockComment (text ++ '*' :: '/' :: rest) =
      text.flatMap blank ++ ' ' :: ' ' :: maskFrom .code rest := by
  induction text with
  | nil => simp [maskFrom]
  | cons c text ih =>
    have later := ih fun closed => unclosed (List.infix_cons closed)
    -- the comment does not end here: what comes next is in it, or is the star that ends it
    have stays : ¬(c = '*' ∧ (text ++ '*' :: '/' :: rest).head? = some '/') := by
      intro ends
      obtain ⟨star, slash⟩ := ends
      cases text with
      | nil => cases slash
      | cons d text =>
        obtain rfl : d = '/' := Option.some.inj slash
        exact unclosed (star ▸ (List.prefix_append ['*', '/'] text).isInfix)
    have next : (Masker.mk .blockComment (c :: (text ++ '*' :: '/' :: rest))).next? =
        some (blank c, ⟨.blockComment, text ++ '*' :: '/' :: rest⟩) := if_neg stays
    refine (Masker.masked_of_next? next).trans ?_
    rw [List.flatMap_cons, List.append_assoc]
    exact congrArg (blank c ++ ·) later

/-- A comment fades: `closing` is what ends it, and masking makes `blanks` of that. -/
theorem fades_comment {mode : Mode} {sign : Char} {text closing blanks : List Char}
    (opens : ∀ rest, maskFrom .code ('/' :: sign :: rest) = ' ' :: ' ' :: maskFrom mode rest)
    (closes : ∀ rest, maskFrom mode (text ++ (closing ++ rest)) =
      text.flatMap blank ++ (blanks ++ maskFrom .code rest))
    (short : sign.utf8Size = 1) (blank : ∀ c ∈ blanks, isBlank c = true)
    (size : byteLength blanks = byteLength closing) :
    Fades ('/' :: sign :: (text ++ closing))
      (' ' :: ' ' :: (text.flatMap Source.blank ++ blanks)) := by
  refine ⟨?_, ?_, ?_⟩
  · intro c mem
    rw [List.mem_cons, List.mem_cons, List.mem_append, List.mem_flatMap] at mem
    rcases mem with rfl | rfl | ⟨d, _, inside⟩ | mem
    · rfl
    · rfl
    · exact isBlank_of_mem_blank inside
    · exact blank c mem
  · simp only [byteLength, byteLength_append, byteLength_flatMap_blank, size, short]
    rfl
  · intro rest
    simp only [List.cons_append, List.append_assoc]
    rw [opens, closes]

theorem Filler.exists_fades (filler : Filler) : ∃ blanks, Fades filler.text blanks := by
  cases filler with
  | blank c isBlank =>
    have blank : ∀ d ∈ [c], Text.isBlank d = true := List.forall_mem_singleton.2 isBlank
    exact ⟨[c], blank, rfl,
      Grammar.maskFrom_code_append fun d mem => Grammar.isPlain_of_isBlank (blank d mem)⟩
  | line text oneLine =>
    have opens : ∀ rest, maskFrom .code ('/' :: '/' :: rest) =
        ' ' :: ' ' :: maskFrom .lineComment rest := fun rest => by simp [maskFrom]
    have closes : ∀ rest, maskFrom .lineComment (text ++ (['\n'] ++ rest)) =
        text.flatMap Source.blank ++ (['\n'] ++ maskFrom .code rest) := maskFrom_line oneLine
    exact ⟨_, fades_comment opens closes rfl (List.all_eq_true.1 rfl) rfl⟩
  | block text unclosed =>
    have opens : ∀ rest, maskFrom .code ('/' :: '*' :: rest) =
        ' ' :: ' ' :: maskFrom .blockComment rest := fun rest => by simp [maskFrom]
    have closes : ∀ rest, maskFrom .blockComment (text ++ (['*', '/'] ++ rest)) =
        text.flatMap Source.blank ++ ([' ', ' '] ++ maskFrom .code rest) := maskFrom_block unclosed
    exact ⟨_, fades_comment opens closes rfl (List.all_eq_true.1 rfl) rfl⟩

theorem exists_fades (fillers : List Filler) :
    ∃ blanks, Fades (fillers.flatMap Filler.text) blanks := by
  induction fillers with
  | nil => exact ⟨[], nofun, rfl, fun _ => rfl⟩
  | cons filler fillers ih =>
    obtain ⟨first, blank, size, masked⟩ := filler.exists_fades
    obtain ⟨later, blankLater, sizeLater, maskedLater⟩ := ih
    rw [List.flatMap_cons]
    refine ⟨first ++ later, List.forall_mem_append.2 ⟨blank, blankLater⟩, ?_, ?_⟩
    · rw [byteLength_append, byteLength_append, size, sizeLater]
    · intro rest
      rw [List.append_assoc, masked, maskedLater, List.append_assoc]

/-! ### Searches that start later -/

/-- An occurrence with `n` bytes more in front of it. -/
def Occurrence.shift (n : Nat) (found : Occurrence) : Occurrence where
  start := n + found.start
  stop := n + found.stop
  specifierStart := n + found.specifierStart
  specifierStop := n + found.specifierStop

theorem Recognised.occurrence_shift (found : Recognised) (text : List Char) (n offset : Nat) :
    found.occurrence text (n + offset) = (found.occurrence text offset).shift n := by
  simp only [Recognised.occurrence, Occurrence.shift, Nat.add_assoc]

/-- Of what comes before, a search needs to know only whether a word may start. -/
theorem occurrencesFrom_shift (form : Form) {before other : Option Char}
    (same : startsWord before = startsWord other) (n offset skip : Nat) (text : List Char) :
    occurrencesFrom form before (n + offset) skip text =
      (occurrencesFrom form other offset skip text).map (Occurrence.shift n) := by
  induction text generalizing before other offset skip with
  | nil => rfl
  | cons c text ih =>
    cases skip with
    | succ skip =>
      simp only [occurrencesFrom, Nat.add_assoc]
      exact ih rfl _ _
    | zero =>
      simp only [occurrencesFrom, same, Nat.add_assoc]
      cases if startsWord other then form.recognise? (c :: text) else none with
      | none => exact ih rfl _ _
      | some found =>
        simp only [List.map_cons, Recognised.occurrence_shift]
        exact congrArg _ (ih rfl _ _)

theorem startsWord_lastChar {blanks : List Char} (blank : ∀ c ∈ blanks, isBlank c = true) :
    startsWord (Grammar.lastChar none blanks) = true := by
  rcases List.eq_nil_or_concat' blanks with none | ⟨front, last, isLast⟩
  · rw [none]
    rfl
  · have notWord := Grammar.isWord_of_isBlank (blank last (by simp [isLast]))
    rw [isLast, Grammar.lastChar_append]
    simp [Grammar.lastChar, startsWord, notWord]

theorem occurrences_append {blanks : List Char} (blank : ∀ c ∈ blanks, isBlank c = true)
    (form : Form) (masked : List Char) :
    occurrences form (blanks ++ masked) =
      (occurrences form masked).map (Occurrence.shift (byteLength blanks)) := by
  have quiet : Grammar.Quiet form blanks masked :=
    Grammar.quiet_of_not_isWord fun c mem => Grammar.isWord_of_isBlank (blank c mem)
  rw [occurrences, quiet, Nat.zero_add]
  exact occurrencesFrom_shift form (startsWord_lastChar blank) _ 0 0 masked

theorem allOccurrences_append {blanks : List Char} (blank : ∀ c ∈ blanks, isBlank c = true)
    (masked : List Char) :
    allOccurrences (blanks ++ masked) =
      (allOccurrences masked).map (Occurrence.shift (byteLength blanks)) := by
  have found : (Form.all.flatMap fun form => occurrences form (blanks ++ masked)) =
      (Form.all.flatMap fun form => occurrences form masked).map
        (Occurrence.shift (byteLength blanks)) := by
    rw [List.map_flatMap]
    exact List.flatMap_congr fun form _ => occurrences_append blank form masked
  have order : ∀ a b : Occurrence, decide ((a.shift (byteLength blanks)).start ≤
      (b.shift (byteLength blanks)).start) = decide (a.start ≤ b.start) := by
    intro a b
    simp only [Occurrence.shift, Nat.add_le_add_iff_left]
  rw [allOccurrences, found, Sorted.sortBy_map]
  simp only [order]
  rw [Sorted.dropRepeats_map]
  exact congrArg (List.map _)
    (Sorted.dropRepeats_injective (fun _ _ => Nat.add_left_cancel) Occurrence.start _)

theorem statementAt_append (before source : List Char) (found : Occurrence) :
    statementAt (before ++ source) (found.shift (byteLength before)) =
      (statementAt source found).behind before := by
  have length : byteLength before + found.stop - (byteLength before + found.start) =
      found.stop - found.start := Nat.add_sub_add_left _ _ _
  simp only [statementAt, Occurrence.shift, ImportStatement.behind, Text.slice?_append,
    Text.position_append, length]
  rfl

/-- Blanks and comments in front of a source do not change what is scanned, whatever is written in
the comments: the same statements are found, as much later as the bytes, the lines and, in the first
line of the source, the characters in front of it make. -/
theorem imports_behind_fillers (fillers : List Filler) (source : String) :
    imports (String.ofList (fillers.flatMap Filler.text) ++ source) =
      (imports source).map (ImportStatement.behind (fillers.flatMap Filler.text)) := by
  obtain ⟨blanks, blank, size, masked⟩ := exists_fades fillers
  have text : (String.ofList (fillers.flatMap Filler.text) ++ source).toList =
      fillers.flatMap Filler.text ++ source.toList := by
    rw [String.toList_append, String.toList_ofList]
  rw [imports, imports, text, mask, masked, allOccurrences_append blank, size, List.map_map,
    List.map_map]
  exact List.map_congr_left fun found _ => statementAt_append _ _ found

/-- The slash does not close the comment that it stands in, and the quotes open no literals. -/
example : imports "/*/'*/ //\"*\n\timport 'a'\nimport 'b'" =
    (imports "import 'a'\nimport 'b'").map (ImportStatement.behind ([
      .block "/'".toList (by decide), .blank ' ' rfl, .line "\"*".toList (by decide),
      .blank '\t' rfl].flatMap Filler.text)) := by
  decide +kernel

end Source

end ImportCycles
