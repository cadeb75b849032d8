import ImportCycles.Proofs.LineStarts
import ImportCycles.Source.Pattern
import ImportCycles.Source.Scan

/-! # The recognisers read the patterns

At every place each form has at most one match, and its recogniser finds it. A recogniser is put
together from readers as a pattern is from its parts: where a part may be as long as it likes, what
follows it cannot start with one of its characters, so taking as many of them as there are is the
only way to a match. Two parts do leave a choice, the clause of an import and the name in a
re-export, whose characters may run into the word `from`; their readers look for that word from the
end.
-/

namespace ImportCycles.Source

open Text (isBlank isWord skipBlanks)
open Pattern (nothing word one many edge seq either several maybe typeKeyword asName star braces)

theorem lastOf_append (before : Option Char) (read more : List Char) :
    lastOf before (read ++ more) = lastOf (lastOf before read) more := by
  simp [lastOf, List.getLast?_append, Option.or_assoc]

section Quoted

variable {front back p q r : Pattern} {before : Option Char} {text : List Char} {found : Recognised}

theorem quoted_seq : Quoted (seq p q) back before text found ↔
    ∃ read rest, text = read ++ rest ∧ p.Matches before read rest ∧
      Quoted q back (lastOf before read) rest found := by
  constructor
  · rintro ⟨rest, ⟨first, second, rfl, isFirst, isSecond⟩, opens, closes, nonempty, chars, ended⟩
    exact ⟨first, _, List.append_assoc _ _ _, isFirst,
      .intro rest isSecond opens closes nonempty chars ended⟩
  · rintro ⟨first, _, rfl, isFirst, ⟨rest, isSecond, opens, closes, nonempty, chars, ended⟩⟩
    rw [← List.append_assoc]
    exact .intro rest ⟨_, _, rfl, isFirst, isSecond⟩ opens closes nonempty chars ended

theorem quoted_either : Quoted (either p q) back before text found ↔
    Quoted p back before text found ∨ Quoted q back before text found := by
  constructor
  · rintro ⟨rest, isFirst | isSecond, opens, closes, nonempty, chars, ended⟩
    · exact .inl (.intro rest isFirst opens closes nonempty chars ended)
    · exact .inr (.intro rest isSecond opens closes nonempty chars ended)
  · rintro (⟨rest, matched, opens, closes, nonempty, chars, ended⟩ |
      ⟨rest, matched, opens, closes, nonempty, chars, ended⟩)
    · exact .intro rest (.inl matched) opens closes nonempty chars ended
    · exact .intro rest (.inr matched) opens closes nonempty chars ended

theorem quoted_nothing : Quoted nothing nothing before text found ↔ InQuotes text found := by
  constructor
  · rintro ⟨rest, rfl, opens, closes, nonempty, chars, rfl⟩
    exact .intro rest opens closes nonempty chars
  · rintro ⟨rest, opens, closes, nonempty, chars⟩
    rename_i opening closing content
    have matched : nothing.Matches before []
      (opening :: (content ++ closing :: ([] ++ rest))) := rfl
    have ended : nothing.Matches (some closing) [] rest := rfl
    exact .intro rest matched opens closes nonempty chars ended

theorem quoted_nothing_seq : Quoted (seq nothing p) back before text found ↔
    Quoted p back before text found := by
  rw [quoted_seq]
  constructor
  · rintro ⟨_, _, rfl, rfl, quoted⟩
    exact quoted
  · exact fun quoted => ⟨[], text, rfl, rfl, quoted⟩

theorem quoted_seq_seq : Quoted (seq (seq p q) r) back before text found ↔
    Quoted (seq p (seq q r)) back before text found := by
  simp only [quoted_seq]
  constructor
  · rintro ⟨_, rest, rfl, ⟨first, second, rfl, isFirst, isSecond⟩, quoted⟩
    rw [lastOf_append] at quoted
    exact ⟨first, second ++ rest, List.append_assoc _ _ _, isFirst, second, rest, rfl, isSecond,
      quoted⟩
  · rintro ⟨first, _, rfl, isFirst, second, rest, rfl, isSecond, quoted⟩
    rw [← lastOf_append] at quoted
    exact ⟨first ++ second, rest, (List.append_assoc _ _ _).symm,
      ⟨first, second, rfl, isFirst, isSecond⟩, quoted⟩

theorem quoted_either_seq : Quoted (seq (either p q) r) back before text found ↔
    Quoted (either (seq p r) (seq q r)) back before text found := by
  rw [quoted_either]
  simp only [quoted_seq]
  constructor
  · rintro ⟨read, rest, split, isFirst | isSecond, quoted⟩
    · exact .inl ⟨read, rest, split, isFirst, quoted⟩
    · exact .inr ⟨read, rest, split, isSecond, quoted⟩
  · rintro (⟨read, rest, split, isFirst, quoted⟩ | ⟨read, rest, split, isSecond, quoted⟩)
    · exact ⟨read, rest, split, .inl isFirst, quoted⟩
    · exact ⟨read, rest, split, .inr isSecond, quoted⟩

end Quoted

/-! ### Readers of patterns -/

/-- What a reader gives is what the text can be taken for, whatever stands before it. -/
def Reads (front back : Pattern) (reader : List Char → Option Recognised) : Prop :=
  ∀ before text found, Quoted front back before text found ↔ reader text = some found

/-- A reader that gives nothing where a character of a class stands. -/
def StopsAt (allowed : Char → Bool) (reader : List Char → Option Recognised) : Prop :=
  ∀ c rest, allowed c = true → reader (c :: rest) = none

theorem StopsAt.word {allowed : Char → Bool} {first : Char} (letters : List Char)
    (notAllowed : allowed first = false) (reader : List Char → Option Recognised) :
    StopsAt allowed fun text => ((first :: letters).isPrefixOf? text).bind reader := by
  intro c rest isAllowed
  have different : first ≠ c := by
    rintro rfl
    rw [notAllowed] at isAllowed
    cases isAllowed
  simp [List.isPrefixOf?, different]

theorem StopsAt.dropWhile_eq {allowed : Char → Bool} {reader : List Char → Option Recognised}
    (stops : StopsAt allowed reader) {text : List Char} {found : Recognised}
    (recognised : reader text = some found) : text.dropWhile allowed = text := by
  cases text with
  | nil => rfl
  | cons c rest =>
    refine List.dropWhile_cons_of_neg fun isAllowed => ?_
    rw [stops c rest isAllowed] at recognised
    cases recognised

namespace Reads

variable {p q r back : Pattern} {reader other : List Char → Option Recognised}

theorem seq_seq : Reads (seq (seq p q) r) back reader ↔ Reads (seq p (seq q r)) back reader :=
  forall_congr' fun _ => forall_congr' fun _ => forall_congr' fun _ => by rw [quoted_seq_seq]

theorem nothing_seq : Reads (seq nothing p) back reader ↔ Reads p back reader :=
  forall_congr' fun _ => forall_congr' fun _ => forall_congr' fun _ => by rw [quoted_nothing_seq]

theorem either_seq :
    Reads (seq (either p q) r) back reader ↔ Reads (either (seq p r) (seq q r)) back reader :=
  forall_congr' fun _ => forall_congr' fun _ => forall_congr' fun _ => by rw [quoted_either_seq]

theorem of_eq (reads : Reads p back reader) (same : ∀ text, reader text = other text) :
    Reads p back other := by
  intro before text found
  rw [reads before text found, same text]

theorem word (letters : List Char) (reads : Reads p back reader) :
    Reads (seq (.word letters) p) back fun text => (letters.isPrefixOf? text).bind reader := by
  intro before text found
  rw [quoted_seq, Option.bind_eq_some_iff]
  simp only [List.isPrefixOf?_eq_some_iff_append_eq]
  constructor
  · rintro ⟨_, rest, rfl, rfl, quoted⟩
    exact ⟨rest, rfl, (reads _ rest found).1 quoted⟩
  · rintro ⟨rest, rfl, recognised⟩
    exact ⟨letters, rest, rfl, rfl, (reads _ rest found).2 recognised⟩

/-- Where the reader stops at the characters of a class, all of them have to be taken. -/
theorem many (allowed : Char → Bool) (stops : StopsAt allowed reader)
    (reads : Reads p back reader) :
    Reads (seq (.many allowed) p) back fun text => reader (text.dropWhile allowed) := by
  intro before text found
  rw [quoted_seq]
  constructor
  · rintro ⟨read, rest, rfl, all, quoted⟩
    have recognised := (reads _ rest found).1 quoted
    dsimp only
    rw [List.dropWhile_append_of_pos all, stops.dropWhile_eq recognised, recognised]
  · intro recognised
    exact ⟨text.takeWhile allowed, text.dropWhile allowed, List.takeWhile_append_dropWhile.symm,
      fun _ => List.mem_takeWhile_imp, (reads _ _ found).2 recognised⟩

theorem one (allowed : Char → Bool) (reads : Reads p back reader) :
    Reads (seq (.one allowed) p) back fun text =>
      match text with
      | [] => none
      | c :: rest => if allowed c then reader rest else none := by
  intro before text found
  rw [quoted_seq]
  constructor
  · rintro ⟨_, rest, rfl, ⟨c, rfl, isAllowed⟩, quoted⟩
    simpa [isAllowed] using (reads _ rest found).1 quoted
  · intro recognised
    cases text with
    | nil => cases recognised
    | cons c rest =>
      dsimp only at recognised
      split at recognised
      · rename_i isAllowed
        exact ⟨[c], rest, rfl, ⟨c, rfl, isAllowed⟩, (reads _ rest found).2 recognised⟩
      · cases recognised

theorem several (allowed : Char → Bool) (stops : StopsAt allowed reader)
    (reads : Reads p back reader) :
    Reads (seq (.several allowed) p) back fun text =>
      if (text.takeWhile allowed).isEmpty then none else reader (text.dropWhile allowed) := by
  refine of_eq (seq_seq.2 ((reads.many allowed stops).one allowed)) fun text => ?_
  cases text with
  | nil => rfl
  | cons c rest => by_cases isAllowed : allowed c <;> simp [isAllowed]

theorem either (reads : Reads p back reader) (reads' : Reads q back other)
    (apart : ∀ text, reader text = none ∨ other text = none) :
    Reads (.either p q) back fun text => (reader text).or (other text) := by
  intro before text found
  rw [quoted_either, reads before text found, reads' before text found]
  rcases apart text with none | none <;> simp [none]

end Reads

/-! ### The readers of the forms -/

theorem word?_eq (word : String) (text : List Char) :
    word? word text = word.toList.isPrefixOf? text := rfl

theorem char?_eq (c : Char) (text : List Char) : char? c text = [c].isPrefixOf? text := by
  ext rest
  rw [char?_eq_some, List.isPrefixOf?_eq_some_iff_append_eq, List.singleton_append, eq_comm]

theorem blanks?_bind (reader : List Char → Option Recognised) (text : List Char) :
    (blanks? text).bind reader =
      if (text.takeWhile isBlank).isEmpty then none else reader (skipBlanks text) := by
  cases text with
  | nil => rfl
  | cons c rest => by_cases blank : isBlank c <;> simp [blanks?, skipBlanks, blank]

theorem reads_specifier? : Reads nothing nothing specifier? :=
  fun _ _ _ => quoted_nothing.trans specifier?_eq_some.symm

/-- A specifier and a closing parenthesis. -/
def argument? (text : List Char) : Option Recognised :=
  (specifier? text).bind fun found =>
    (char? ')' (skipBlanks found.rest)).map fun rest => { found with rest := rest }

theorem reads_argument? : Reads nothing Form.require.ending argument? := by
  intro before text found
  simp only [argument?, Option.bind_eq_some_iff, Option.map_eq_some_iff, specifier?_eq_some,
    char?_eq_some]
  constructor
  · rintro ⟨rest, rfl, opens, closes, nonempty, chars, gap, _, rfl, blank, _, _, rfl, rfl, rfl⟩
    refine ⟨_, .intro _ opens closes nonempty chars, rest, ?_, rfl⟩
    rw [List.append_assoc, skipBlanks_append blank]
    rfl
  · rintro ⟨_, ⟨after, opens, closes, nonempty, chars⟩, rest, closed, rfl⟩
    rename_i opening closing content
    obtain ⟨gap, split, blank⟩ := exists_gap after
    rw [closed] at split
    have matched : nothing.Matches before []
      (opening :: (content ++ closing :: ((gap ++ [')']) ++ rest))) := rfl
    have ended : Form.require.ending.Matches (some closing) (gap ++ [')']) rest :=
      ⟨gap, [')'], rfl, blank, [')'], [], rfl, rfl, rfl⟩
    have quoted := Quoted.intro rest matched opens closes nonempty chars ended
    rw [List.append_assoc, List.singleton_append, ← split] at quoted
    exact quoted

theorem call?_eq (text : List Char) :
    call? text = (word? "require" (skipBlanks text)).bind fun after =>
      (char? '(' (skipBlanks after)).bind fun argument => argument? (skipBlanks argument) := by
  simp only [call?, argument?, Option.bind_eq_bind]
  cases word? "require" (skipBlanks text) with
  | none => rfl
  | some after =>
    simp only [Option.bind_some]
    cases char? '(' (skipBlanks after) with
    | none => rfl
    | some argument =>
      simp only [Option.bind_some]
      cases specifier? (skipBlanks argument) with
      | none => rfl
      | some found =>
        simp only [Option.bind_some]
        cases char? ')' (skipBlanks found.rest) <;> rfl

theorem isSpecifierQuote_of_isBlank {c : Char} (blank : isBlank c = true) :
    isSpecifierQuote c = false := by
  refine Bool.eq_false_iff.2 fun quote => ?_
  have plain := startsLiteral_of_isBlank blank
  rw [startsLiteral_of_isSpecifierQuote quote] at plain
  cases plain

theorem isClauseChar_of_isSpecifierQuote {c : Char} (quote : isSpecifierQuote c = true) :
    isClauseChar c = false := by
  simp only [isSpecifierQuote, Bool.or_eq_true, beq_iff_eq] at quote
  rcases quote with rfl | rfl <;> decide

theorem isBlank_of_isNameChar {c : Char} (name : isNameChar c = true) : isBlank c = false := by
  refine Bool.eq_false_iff.2 fun blank => ?_
  rw [Grammar.isNameChar_of_isBlank blank] at name
  cases name

theorem stopsAt_specifier? : StopsAt isBlank specifier? :=
  fun _ rest blank => Grammar.specifier?_eq_none (isSpecifierQuote_of_isBlank blank) rest

theorem stopsAt_argument? : StopsAt isBlank argument? := by
  intro c rest blank
  rw [argument?, stopsAt_specifier? c rest blank, Option.bind_none]

theorem reads_call? :
    Reads (.all [many isBlank, word "require".toList, many isBlank, word ['('], many isBlank])
      Form.require.ending call? := by
  have argument := reads_argument?.many isBlank stopsAt_argument?
  have parenthesis := (argument.word ['(']).many isBlank (.word [] rfl _)
  have call := (parenthesis.word "require".toList).many isBlank (.word _ rfl _)
  refine call.of_eq fun text => ?_
  rw [call?_eq]
  simp only [char?_eq]
  rfl

/-- What follows the name in an assignment. -/
def equals? (text : List Char) : Option Recognised :=
  (char? '=' (skipBlanks text)).bind call?

theorem stopsAt_equals? : StopsAt isNameChar equals? := by
  intro c rest name
  have different : c ≠ '=' := by rintro rfl; exact absurd name (by decide)
  rw [equals?, skipBlanks_cons (isBlank_of_isNameChar name), char?, if_neg different,
    Option.bind_none]

theorem assignment?_eq (text : List Char) : assignment? text =
    if (text.takeWhile isNameChar).isEmpty then none else equals? (text.dropWhile isNameChar) := rfl

theorem reads_assignment? :
    Reads (.all [several isNameChar, many isBlank, word ['='], many isBlank, word "require".toList,
      many isBlank, word ['('], many isBlank]) Form.require.ending assignment? := by
  have equals := (reads_call?.word ['=']).many isBlank (.word [] rfl _)
  have assigned : Reads _ _ equals? := equals.of_eq fun text => by rw [equals?, char?_eq]; rfl
  exact assigned.several isNameChar stopsAt_equals?

theorem stopsAt_assignment? : StopsAt isBlank assignment? := by
  intro c rest blank
  rw [assignment?_eq, List.takeWhile_cons_of_neg (by simp [Grammar.isNameChar_of_isBlank blank])]
  rfl

/-- What a reader finds behind the word `type` and blanks. -/
def typed? (reader : List Char → Option Recognised) (text : List Char) : Option Recognised :=
  ((word? "type" text).bind blanks?).bind reader

theorem stopsAt_typed? (reader : List Char → Option Recognised) :
    StopsAt isBlank (typed? reader) := by
  intro c rest blank
  have different : c ≠ 't' := by rintro rfl; exact absurd blank (by decide)
  simp [typed?, word?, List.isPrefixOf?, different.symm]

/-- Behind the blanks after a keyword the word `type` and more blanks may be left out. -/
theorem reads_typed {p back : Pattern} {reader : List Char → Option Recognised}
    (reads : Reads p back reader) (stops : StopsAt isBlank reader)
    (apart : ∀ text, typed? reader text = none ∨ reader text = none) :
    Reads (seq (several isBlank) (seq typeKeyword p)) back fun text =>
      (blanks? text).bind fun what => (typed? reader what).or (reader what) := by
  have typed : Reads (seq (seq (word "type".toList) (several isBlank)) p) back (typed? reader) := by
    refine Reads.of_eq (Reads.seq_seq.2 ((reads.several isBlank stops).word "type".toList)) ?_
    intro text
    simp only [typed?, word?_eq, Option.bind_assoc, blanks?_bind]
    rfl
  have plain : Reads (seq nothing p) back reader := Reads.nothing_seq.2 reads
  have either := Reads.either_seq.2 (typed.either plain apart)
  have stops' : StopsAt isBlank fun text => (typed? reader text).or (reader text) := by
    intro c rest blank
    dsimp only
    rw [stopsAt_typed? _ c rest blank, stops c rest blank]
    rfl
  refine (either.several isBlank stops').of_eq fun text => ?_
  rw [blanks?_bind]
  rfl

/-- Behind the word `type` and blanks a reader that stops at blanks starts where they end. -/
theorem exists_of_typed? {reader : List Char → Option Recognised} {text : List Char}
    {found : Recognised} (typed : typed? reader text = some found) :
    ∃ c gap rest, text = "type".toList ++ (c :: gap ++ rest) ∧ (∀ d ∈ c :: gap, isBlank d = true) ∧
      reader rest = some found := by
  simp only [typed?, Option.bind_eq_some_iff] at typed
  obtain ⟨rest, ⟨after, word, skipped⟩, recognised⟩ := typed
  obtain ⟨c, gap, split, blank⟩ := blanks?_eq_some skipped
  exact ⟨c, gap, rest, by rw [← word?_eq_some.1 word, split], blank, recognised⟩

theorem exists_name_of_assignment? {text : List Char} {found : Recognised}
    (assigned : assignment? text = some found) :
    ∃ c rest, text = c :: rest ∧ isNameChar c = true := by
  cases text with
  | nil => cases assigned
  | cons c rest =>
    refine ⟨c, rest, rfl, ?_⟩
    cases name : isNameChar c with
    | true => rfl
    | false => simp [assignment?_eq, name] at assigned

/-- No name that a value is assigned to is followed by a name. -/
theorem assignment?_apart (text : List Char) :
    typed? assignment? text = none ∨ assignment? text = none := by
  cases typed : typed? assignment? text with
  | none => exact .inl rfl
  | some found =>
    obtain ⟨c, gap, rest, rfl, blank, assigned⟩ := exists_of_typed? typed
    have stops : isNameChar c = false := Grammar.isNameChar_of_isBlank (blank c (by simp))
    have letters : ∀ d ∈ "type".toList, isNameChar d = true := List.all_eq_true.1 rfl
    have skips : equals? (c :: (gap ++ rest)) = equals? rest := by
      rw [equals?, ← List.cons_append, skipBlanks_append blank, ← equals?]
    obtain ⟨d, after, rfl, name⟩ := exists_name_of_assignment? assigned
    refine .inr ?_
    rw [List.cons_append, assignment?_eq, Grammar.takeWhile_stops letters stops,
      Grammar.dropWhile_stops letters stops, skips, stopsAt_equals? d after name]
    rfl

theorem requireTail?_eq (text : List Char) : requireTail? text =
    (blanks? text).bind fun what => (typed? assignment? what).or (assignment? what) := by
  simp only [requireTail?, Option.bind_eq_bind]
  congr 1
  funext what
  rcases assignment?_apart what with none | none
  · rw [none, Option.none_or]
    cases assigned : assignment? what with
    | none => exact none
    | some found => rfl
  · rw [none, Option.or_none]
    rfl

theorem reads_requireTail? : Reads Form.require.middle Form.require.ending requireTail? :=
  (reads_typed reads_assignment? stopsAt_assignment? assignment?_apart).of_eq fun text =>
    (requireTail?_eq text).symm

theorem reads_effect : Reads Form.effect.middle Form.effect.ending Form.effect.tail? :=
  reads_specifier?.many isBlank stopsAt_specifier?

theorem reads_fromSpecifier? :
    Reads (.all [many isBlank, word "from".toList, many isBlank]) nothing fromSpecifier? := by
  have quoted := reads_specifier?.many isBlank stopsAt_specifier?
  exact (quoted.word "from".toList).many isBlank (.word _ rfl _)

theorem matches_several {allowed : Char → Bool} {before : Option Char} {read rest : List Char} :
    (several allowed).Matches before read rest ↔ read ≠ [] ∧ ∀ c ∈ read, allowed c = true := by
  constructor
  · rintro ⟨_, more, rfl, ⟨c, rfl, first⟩, others⟩
    exact ⟨List.cons_ne_nil c more, List.forall_mem_cons.2 ⟨first, others⟩⟩
  · rintro ⟨nonempty, all⟩
    obtain ⟨c, more, rfl⟩ := List.exists_cons_of_ne_nil nonempty
    exact ⟨[c], more, rfl, ⟨c, rfl, all c (by simp)⟩, (List.forall_mem_cons.1 all).2⟩

theorem fromSpecifier?_from (text : List Char) :
    fromSpecifier? ("from".toList ++ text) = specifier? (skipBlanks text) := by
  have starts : skipBlanks ("from".toList ++ text) = "from".toList ++ text := skipBlanks_cons rfl _
  rw [fromSpecifier?, starts, word?_eq_some.2 rfl]
  rfl

/-- Neither a name nor the word `from` starts where a specifier follows at once. -/
theorem head_of_specifier? {text : List Char} {found : Recognised}
    (recognised : specifier? (skipBlanks text) = some found) :
    (∀ c ∈ text.head?, isNameChar c = false) ∧ fromSpecifier? text = none := by
  obtain ⟨gap, split, blank⟩ := exists_gap text
  generalize skipBlanks text = quoted at recognised split
  obtain ⟨rest, opens, -, -, -⟩ := specifier?_eq_some.1 recognised
  rename_i opening closing content
  have notClause := isClauseChar_of_isSpecifierQuote opens
  have notName : isNameChar opening = false := by
    refine Bool.eq_false_iff.2 fun name => ?_
    rw [Grammar.isClauseChar_of_isNameChar name] at notClause
    cases notClause
  have notF : 'f' ≠ opening := by
    rintro rfl
    exact absurd opens (by decide)
  refine ⟨fun c mem => ?_, ?_⟩
  · rw [split] at mem
    cases gap with
    | nil =>
      cases mem
      exact notName
    | cons d gap =>
      cases mem
      exact Grammar.isNameChar_of_isBlank (blank c (by simp))
  · rw [fromSpecifier?, split, skipBlanks_append blank,
      skipBlanks_cons (Bool.eq_false_iff.2 fun isBlank => by
        simp [isSpecifierQuote_of_isBlank isBlank] at opens)]
    simp [word?, List.isPrefixOf?, notF]

theorem span_append {p : Char → Bool} {text rest : List Char} (all : ∀ c ∈ text, p c = true)
    (stops : ∀ c ∈ rest.head?, p c = false) :
    (text ++ rest).takeWhile p = text ∧ (text ++ rest).dropWhile p = rest := by
  cases rest with
  | nil => simpa using all
  | cons c rest =>
    have stop := stops c rfl
    exact ⟨Grammar.takeWhile_stops all stop rest, Grammar.dropWhile_stops all stop rest⟩

/-- The name and the word `from` may stand side by side, and then the name has to end in front of
the word. -/
theorem reads_namedTail? :
    Reads (seq (several isNameChar) (.all [many isBlank, word "from".toList, many isBlank])) nothing
      namedTail? := by
  intro before text found
  simp only [quoted_seq, matches_several, reads_fromSpecifier? _ _ found]
  constructor
  · rintro ⟨name, rest, rfl, ⟨nonempty, isName⟩, recognised⟩
    by_cases stops : ∀ c ∈ rest.head?, isNameChar c = false
    · obtain ⟨took, left⟩ := span_append isName stops
      simp [namedTail?, took, left, nonempty, recognised]
    · have adjoins : skipBlanks rest = rest := by
        simp only [not_forall] at stops
        obtain ⟨c, mem, name⟩ := stops
        obtain ⟨after, rfl⟩ := List.head?_eq_some_iff.1 mem
        exact skipBlanks_cons (isBlank_of_isNameChar (by simpa using name)) after
      obtain ⟨after, word, quoted⟩ := Option.bind_eq_some_iff.1 recognised
      rw [adjoins] at word
      have split := word?_eq_some.1 word
      subst split
      obtain ⟨stops', noFrom⟩ := head_of_specifier? quoted
      have isName' : ∀ c ∈ name ++ "from".toList, isNameChar c = true := by
        have letters : ∀ c ∈ "from".toList, isNameChar c = true := List.all_eq_true.1 rfl
        exact List.forall_mem_append.2 ⟨isName, letters⟩
      obtain ⟨took, left⟩ := span_append isName' stops'
      rw [List.append_assoc] at took left
      have ends : word? "morf" (name ++ "from".toList).reverse = some name.reverse := by
        rw [word?_eq_some, List.reverse_append]
        rfl
      obtain ⟨first, before, reversed⟩ :=
        List.exists_cons_of_ne_nil (List.reverse_ne_nil_iff.2 nonempty)
      simp only [namedTail?, took, left, noFrom, ends, reversed]
      simpa using quoted
  · intro named
    have split := List.takeWhile_append_dropWhile (p := isNameChar) (l := text)
    have isName : ∀ c ∈ text.takeWhile isNameChar, isNameChar c = true :=
      fun _ => List.mem_takeWhile_imp
    unfold namedTail? at named
    generalize text.takeWhile isNameChar = name at named split isName
    generalize text.dropWhile isNameChar = after at named split
    subst split
    dsimp only at named
    split at named
    · cases named
    · rename_i nonempty
      split at named
      · rename_i recognised
        cases named
        exact ⟨name, after, rfl, ⟨by simpa using nonempty, isName⟩, recognised⟩
      · split at named
        · rename_i first before ends
          have letters : "morf".toList.reverse = "from".toList := rfl
          have isSplit := congrArg List.reverse (word?_eq_some.1 ends)
          rw [List.reverse_reverse, List.reverse_append, letters] at isSplit
          subst isSplit
          refine ⟨_, _, List.append_assoc _ _ _, ⟨by simp, ?_⟩, ?_⟩
          · exact fun c mem => isName c (List.mem_append_left _ mem)
          · rw [fromSpecifier?_from, named]
        · cases named

theorem stopsAt_namedTail? : StopsAt isBlank namedTail? := by
  intro c rest blank
  simp [namedTail?, Grammar.isNameChar_of_isBlank blank]

/-- What follows the star where it has a name. -/
def asTail? (text : List Char) : Option Recognised :=
  ((word? "as" (skipBlanks text)).bind blanks?).bind namedTail?

theorem reads_asTail? :
    Reads (seq asName (.all [many isBlank, word "from".toList, many isBlank])) nothing asTail? := by
  have named := reads_namedTail?.several isBlank stopsAt_namedTail?
  have as := (Reads.seq_seq.2 named).word "as".toList
  have gap := (Reads.seq_seq.2 as).many isBlank (.word _ rfl _)
  refine (Reads.seq_seq.2 gap).of_eq fun text => ?_
  simp only [asTail?, word?_eq, Option.bind_assoc, blanks?_bind]
  rfl

/-- No name follows where the word `from` stands. -/
theorem fromSpecifier?_of_as {text rest : List Char}
    (as : word? "as" (skipBlanks text) = some rest) : fromSpecifier? text = none := by
  rw [fromSpecifier?, ← word?_eq_some.1 as]
  rfl

theorem asTail?_apart (text : List Char) : asTail? text = none ∨ fromSpecifier? text = none := by
  cases as : word? "as" (skipBlanks text) with
  | none => exact .inl (by rw [asTail?, as]; rfl)
  | some rest => exact .inr (fromSpecifier?_of_as as)

theorem starTail?_eq (text : List Char) :
    starTail? text = (asTail? text).or (fromSpecifier? text) := by
  rw [starTail?, asTail?]
  cases as : word? "as" (skipBlanks text) with
  | none => rfl
  | some rest =>
    rw [fromSpecifier?_of_as as, Option.or_none, Option.bind_some]
    cases blanks? rest <;> rfl

theorem reads_starTail? :
    Reads (seq (maybe asName) (.all [many isBlank, word "from".toList, many isBlank])) nothing
      starTail? := by
  have unnamed := Reads.nothing_seq.2 reads_fromSpecifier?
  have either := Reads.either_seq.2 (reads_asTail?.either unnamed asTail?_apart)
  exact either.of_eq fun text => (starTail?_eq text).symm

/-- What follows the opening brace. -/
def braceTail? (text : List Char) : Option Recognised :=
  (char? '\x7d' (text.dropWhile (· ≠ '\x7d'))).bind fromSpecifier?

theorem reads_braceTail? :
    Reads (seq (seq (many (· ≠ '\x7d')) (word ['\x7d']))
      (.all [many isBlank, word "from".toList, many isBlank])) nothing braceTail? := by
  have closed := reads_fromSpecifier?.word ['\x7d']
  have inner := Reads.seq_seq.2 (closed.many (· ≠ '\x7d') (.word _ rfl _))
  refine inner.of_eq fun text => ?_
  rw [braceTail?, char?_eq]

/-- What a re-export passes on, with what follows it. -/
def passed? (text : List Char) : Option Recognised :=
  ((char? '*' text).bind starTail?).or ((char? '\x7b' text).bind braceTail?)

theorem passed?_cons {c : Char} (notStar : c ≠ '*') (notBrace : c ≠ '\x7b') (rest : List Char) :
    passed? (c :: rest) = none := by
  simp [passed?, char?, notStar, notBrace]

theorem reads_passed? :
    Reads (seq (either star braces) (.all [many isBlank, word "from".toList, many isBlank])) nothing
      passed? := by
  have stars := Reads.seq_seq.2 (reads_starTail?.word ['*'])
  have inBraces := Reads.seq_seq.2 (reads_braceTail?.word ['\x7b'])
  refine (Reads.either_seq.2 (stars.either inBraces fun text => ?_)).of_eq fun text => ?_
  · cases text with
    | nil => exact .inl rfl
    | cons c rest =>
      by_cases isStar : c = '*'
      · subst isStar
        exact .inr rfl
      · exact .inl (by simp [List.isPrefixOf?, Ne.symm isStar])
  · rw [passed?, char?_eq, char?_eq]

theorem stopsAt_passed? : StopsAt isBlank passed? := by
  intro c rest blank
  refine passed?_cons ?_ ?_ rest
  · rintro rfl; exact absurd blank (by decide)
  · rintro rfl; exact absurd blank (by decide)

theorem passed?_of_type {text rest : List Char} (type : word? "type" text = some rest) :
    passed? text = none := by
  rw [← word?_eq_some.1 type]
  exact passed?_cons (by decide) (by decide) _

theorem passed?_apart (text : List Char) : typed? passed? text = none ∨ passed? text = none := by
  cases type : word? "type" text with
  | none => exact .inl (by rw [typed?, type]; rfl)
  | some rest => exact .inr (passed?_of_type type)

theorem reexportTail?_eq (text : List Char) : reexportTail? text =
    (blanks? text).bind fun what => (typed? passed? what).or (passed? what) := by
  have passed : reexportTail? text = (blanks? text).bind fun what => passed? (skipType what) := by
    simp only [reexportTail?, Option.bind_eq_bind]
    congr 1
    funext what
    cases skipType what with
    | nil => rfl
    | cons c rest =>
      by_cases isStar : c = '*'
      · subst isStar
        simp [passed?, char?]
      · have star : char? '*' (c :: rest) = none := if_neg isStar
        simp only [passed?, star, Option.bind_none, Option.none_or]
        rfl
  rw [passed]
  congr 1
  funext what
  cases type : word? "type" what with
  | none => simp [skipType, typed?, type]
  | some after =>
    rw [passed?_of_type type, Option.or_none]
    cases skipped : blanks? after with
    | none => simp [skipType, typed?, type, skipped, passed?_of_type type]
    | some rest => simp [skipType, typed?, type, skipped]

theorem reads_reexportTail? : Reads Form.reexport.middle Form.reexport.ending reexportTail? :=
  (reads_typed reads_passed? stopsAt_passed? passed?_apart).of_eq fun text =>
    (reexportTail?_eq text).symm

theorem isClauseChar_of_typeKeyword {before : Option Char} {read rest : List Char}
    (type : typeKeyword.Matches before read rest) : ∀ c ∈ read, isClauseChar c = true := by
  rcases type with ⟨_, gap, rfl, rfl, blanks⟩ | rfl
  · intro c mem
    rcases List.mem_append.1 mem with mem | mem
    · have letters : ∀ d ∈ "type".toList, isClauseChar d = true := List.all_eq_true.1 rfl
      exact letters c mem
    · exact Grammar.isClauseChar_of_isBlank ((matches_several.1 blanks).2 c mem)
  · exact List.forall_mem_nil _

/-- The characters of a clause are all read before the specifier, so what is left to decide is
whether they can be taken for a clause. -/
theorem clauseTail?_append {clause text : List Char} {found : Recognised}
    (chars : ∀ c ∈ clause, isClauseChar c = true) (quoted : InQuotes text found) :
    (clause ++ text).takeWhile isClauseChar = clause ∧
      (clause ++ text).dropWhile isClauseChar = text := by
  obtain ⟨rest, opens, -, -, -⟩ := quoted
  have stop := isClauseChar_of_isSpecifierQuote opens
  exact ⟨Grammar.takeWhile_stops chars stop _, Grammar.dropWhile_stops chars stop _⟩

theorem lastOf_concat (before : Option Char) (read : List Char) (c : Char) :
    lastOf before (read ++ [c]) = some c := by
  simp [lastOf]

theorem reads_clauseTail? : Reads Form.clause.middle Form.clause.ending clauseTail? := by
  intro before text found
  simp only [Form.middle, Form.ending, Pattern.all, quoted_seq, quoted_nothing, clauseTail?,
    matches_several]
  constructor
  · rintro ⟨blanks, _, rfl, ⟨nonempty, isBlanks⟩, type, _, rfl, isType, names, _, rfl,
      ⟨named, isNames⟩, gap, _, rfl, isGap, _, _, rfl, ⟨rfl, apart⟩, _, _, rfl, rfl, gap', text,
      rfl, isGap', quoted⟩
    obtain ⟨lead, blanks, rfl⟩ := List.exists_cons_of_ne_nil nonempty
    -- the last character in front of `from`
    have before : type ++ (names ++ gap) ≠ [] := by simp [named]
    obtain ⟨middle, last, split⟩ := (List.eq_nil_or_concat' _).resolve_left before
    have inWord : isWord 'f' = true := by decide
    have notWord : isWord last = false := by
      simp only [← lastOf_append, List.append_assoc, split] at apart
      rw [← List.append_assoc, lastOf_concat] at apart
      simpa [inWord] using apart
    have clause : (lead :: blanks) ++ (type ++ (names ++ (gap ++ ([] ++ ("from".toList ++
        (gap' ++ text)))))) =
        lead :: ((blanks ++ middle) ++ last :: ("from".toList ++ gap')) ++ text := by
      have regroup : ∀ rest, type ++ (names ++ (gap ++ rest)) =
          (type ++ (names ++ gap)) ++ rest := by simp
      rw [regroup, split]
      simp
    have chars : ∀ c ∈ lead :: ((blanks ++ middle) ++ last :: ("from".toList ++ gap')),
        isClauseChar c = true := by
      intro c mem
      have part : c ∈ lead :: blanks ∨ c ∈ type ++ (names ++ gap) ∨ c ∈ "from".toList ∨
          c ∈ gap' := by
        rw [split]
        simp only [List.mem_cons, List.mem_append] at mem ⊢
        tauto
      rcases part with mem | mem | mem | mem
      · exact Grammar.isClauseChar_of_isBlank (isBlanks c mem)
      · simp only [List.mem_append] at mem
        rcases mem with mem | mem | mem
        · exact isClauseChar_of_typeKeyword isType c mem
        · exact isNames c mem
        · exact Grammar.isClauseChar_of_isBlank (isGap c mem)
      · have letters : ∀ d ∈ "from".toList, isClauseChar d = true := List.all_eq_true.1 rfl
        exact letters c mem
      · exact Grammar.isClauseChar_of_isBlank (isGap' c mem)
    obtain ⟨took, left⟩ := clauseTail?_append chars quoted
    have isClause := isClause_eq_true.2 ⟨lead, blanks ++ middle, last, gap', rfl,
      isBlanks lead (by simp), notWord, isGap'⟩
    rw [clause, took, left, if_pos isClause]
    exact specifier?_eq_some.2 quoted
  · intro recognised
    split at recognised
    · rename_i clause
      obtain ⟨lead, middle, last, gap, split, isLead, notWord, blank⟩ := isClause_eq_true.1 clause
      have chars : ∀ c ∈ middle ++ [last], isClauseChar c = true := by
        intro c mem
        refine List.mem_takeWhile_imp (l := text) ?_
        rw [split]
        simp only [List.mem_append, List.mem_cons] at mem ⊢
        tauto
      refine ⟨[lead], _, ?_, ⟨by simp, by simpa using isLead⟩, [], _, rfl, .inr rfl,
        middle ++ [last], _, rfl, ⟨by simp, chars⟩, [], _, rfl, List.forall_mem_nil _, [], _, rfl,
        ⟨rfl, ?_⟩, "from".toList, _, rfl, rfl, gap, text.dropWhile isClauseChar, rfl, blank,
        specifier?_eq_some.1 recognised⟩
      · conv => lhs; rw [← List.takeWhile_append_dropWhile (p := isClauseChar) (l := text), split]
        simp
      · have inWord : isWord 'f' = true := by decide
        simp [lastOf, notWord, inWord]
    · cases recognised

theorem reads_tail? (form : Form) : Reads form.middle form.ending form.tail? := by
  cases form with
  | clause => exact reads_clauseTail?
  | effect => exact reads_effect
  | reexport => exact reads_reexportTail?
  | require => exact reads_requireTail?

/-- At every place a form has at most one match, and its recogniser finds it. -/
theorem match_iff {form : Form} {before : Option Char} {text : List Char} {found : Recognised} :
    form.Match before text found ↔
      startsWord before = true ∧ form.recognise? text = some found := by
  have word : ∀ before text found, Quoted (seq (word form.keyword.toList) form.middle) form.ending
      before text found ↔ form.recognise? text = some found := (reads_tail? form).word _
  have head : ∀ {text found}, form.recognise? text = some found →
      text.head?.any isWord = true := by
    intro text found recognised
    obtain ⟨after, word, -⟩ := Option.bind_eq_some_iff.1 recognised
    rw [← word?_eq_some.1 word]
    cases form <;> rfl
  rw [Form.Match, quoted_seq]
  constructor
  · rintro ⟨_, rest, rfl, ⟨rfl, edge⟩, quoted⟩
    have recognised := (word _ rest found).1 quoted
    rw [head recognised] at edge
    exact ⟨by simpa [startsWord] using edge, recognised⟩
  · rintro ⟨starts, recognised⟩
    refine ⟨[], text, rfl, ⟨rfl, ?_⟩, (word _ text found).2 recognised⟩
    rw [head recognised]
    simpa [startsWord] using starts

end ImportCycles.Source
