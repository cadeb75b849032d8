import ImportCycles.Proofs.Masking
import ImportCycles.Source.Scan
import Mathlib.Data.List.TakeWhile

/-! # What a recogniser has read

Whatever the form of a statement, its specifier stands between two quotes, the opening quote follows
a sign of the code with only blanks between them, and nothing but blanks and a closing parenthesis
comes after the closing quote.
-/

namespace ImportCycles.Source

open Text (isBlank isWord skipBlanks byteLength byteLength_append)

theorem bytesBefore_eq {text rest : List Char} (before : List Char)
    (split : text = before ++ rest) : bytesBefore text rest = byteLength before := by
  rw [bytesBefore, split, byteLength_append, Nat.add_sub_cancel]

theorem startsLiteral_of_isBlank {c : Char} (blank : isBlank c = true) :
    startsLiteral c = false := by
  cases starts : startsLiteral c with
  | false => rfl
  | true =>
    simp only [startsLiteral, Bool.or_eq_true, beq_iff_eq] at starts
    rcases starts with (rfl | rfl) | rfl <;> exact absurd blank (by decide)

theorem startsLiteral_of_isSpecifierQuote {c : Char} (quote : isSpecifierQuote c = true) :
    startsLiteral c = true := by
  simp only [isSpecifierQuote, Bool.or_eq_true, beq_iff_eq] at quote
  rcases quote with rfl | rfl <;> rfl

theorem word?_eq_some {word : String} {text rest : List Char} :
    word? word text = some rest ↔ word.toList ++ rest = text :=
  List.isPrefixOf?_eq_some_iff_append_eq

theorem char?_eq_some {c : Char} {text rest : List Char} :
    char? c text = some rest ↔ text = c :: rest := by
  cases text with
  | nil => simp [char?]
  | cons d text => simp [char?]

theorem exists_gap (text : List Char) :
    ∃ gap, text = gap ++ skipBlanks text ∧ ∀ c ∈ gap, isBlank c = true :=
  ⟨text.takeWhile isBlank, List.takeWhile_append_dropWhile.symm, fun _ => List.mem_takeWhile_imp⟩

theorem skipBlanks_append {gap : List Char} (blank : ∀ c ∈ gap, isBlank c = true)
    (text : List Char) : skipBlanks (gap ++ text) = skipBlanks text :=
  List.dropWhile_append_of_pos blank

theorem skipBlanks_cons {c : Char} (notBlank : isBlank c = false) (text : List Char) :
    skipBlanks (c :: text) = c :: text :=
  List.dropWhile_cons_of_neg (by simp [notBlank])

theorem blanks?_eq_some {text rest : List Char} (skipped : blanks? text = some rest) :
    ∃ c gap, text = c :: gap ++ rest ∧ ∀ d ∈ c :: gap, isBlank d = true := by
  cases text with
  | nil => cases skipped
  | cons c text =>
    simp only [blanks?] at skipped
    split at skipped
    · rename_i first
      cases skipped
      obtain ⟨gap, split, blank⟩ := exists_gap text
      refine ⟨c, gap, by rw [List.cons_append, ← split], ?_⟩
      intro d mem
      rcases List.mem_cons.1 mem with rfl | mem
      · exact first
      · exact blank d mem
    · cases skipped

/-- A text from an opening quote on, as a specifier with what follows it. -/
inductive InQuotes : List Char → Recognised → Prop
  | intro {opening closing : Char} {content : List Char} (rest : List Char)
      (opens : isSpecifierQuote opening = true) (closes : isSpecifierQuote closing = true)
      (nonempty : content ≠ []) (chars : ∀ c ∈ content, isSpecifierChar c = true) :
      InQuotes (opening :: (content ++ closing :: rest))
        ⟨content ++ closing :: rest, closing :: rest, rest⟩

theorem not_isSpecifierChar {c : Char} (quote : isSpecifierQuote c = true) :
    isSpecifierChar c = false := by
  simp [isSpecifierChar, quote]

theorem specifier?_eq_some {text : List Char} {found : Recognised} :
    specifier? text = some found ↔ InQuotes text found := by
  constructor
  · intro recognised
    unfold specifier? at recognised
    split at recognised
    · rename_i opening content
      split at recognised
      · rename_i first content
        dsimp only at recognised
        split at recognised
        · rename_i closing rest closes
          split at recognised
          · rename_i quotes
            simp only [Bool.and_eq_true] at quotes
            obtain ⟨⟨opens, isChar⟩, quote⟩ := quotes
            cases recognised
            have filled : (first :: content).takeWhile isSpecifierChar ≠ [] := by
              rw [List.takeWhile_cons_of_pos isChar]
              exact List.cons_ne_nil _ _
            have quoted := InQuotes.intro rest opens quote filled fun _ => List.mem_takeWhile_imp
            rw [← closes, List.takeWhile_append_dropWhile] at quoted
            exact quoted
          · cases recognised
        · cases recognised
      · cases recognised
    · cases recognised
  · rintro ⟨rest, opens, closes, nonempty, chars⟩
    rename_i opening closing content
    have stops : (content ++ closing :: rest).dropWhile isSpecifierChar = closing :: rest := by
      rw [List.dropWhile_append_of_pos chars]
      exact List.dropWhile_cons_of_neg (by simp [not_isSpecifierChar closes])
    cases content with
    | nil => exact absurd rfl nonempty
    | cons first content =>
      have isChar := chars first (by simp)
      simp only [List.cons_append] at stops
      simp [specifier?, stops, opens, closes, isChar]

/-- A text in which a specifier has been found. Before its opening quote come blanks, and before
these a sign of the code; the statement ends with the closing quote or with a parenthesis that only
blanks separate from it. -/
inductive Quotes : List Char → Recognised → Prop
  | intro (head : List Char) {gap text content closing tail rest : List Char} {sign : Char}
      (shown : isSign sign = true) (blank : ∀ c ∈ gap, isBlank c = true)
      (quoted : InQuotes text ⟨content, closing, tail ++ rest⟩)
      (ends : tail = [] ∨ ∃ blanks, tail = blanks ++ [')']) :
      Quotes (head ++ sign :: (gap ++ text)) ⟨content, closing, rest⟩

theorem Quotes.prepend {text : List Char} {found : Recognised} (before : List Char)
    (quotes : Quotes text found) : Quotes (before ++ text) found := by
  obtain ⟨head, shown, blank, quoted, ends⟩ := quotes
  rw [← List.append_assoc]
  exact .intro (before ++ head) shown blank quoted ends

theorem quotes_after_sign {sign : Char} {text : List Char} {found : Recognised}
    (shown : isSign sign = true) (recognised : specifier? (skipBlanks text) = some found) :
    Quotes (sign :: text) found := by
  obtain ⟨gap, split, blank⟩ := exists_gap text
  have quoted : InQuotes (skipBlanks text) ⟨found.content, found.closing, [] ++ found.rest⟩ :=
    specifier?_eq_some.1 recognised
  rw [split]
  exact .intro [] shown blank quoted (.inl rfl)

/-- A specifier after a word: the last letter of the word is the sign before it. -/
theorem quotes_after_word {word : String} (head : List Char) {last : Char}
    (letters : word.toList = head ++ [last]) (shown : isSign last = true) {text : List Char}
    {found : Recognised} (recognised : specifier? (skipBlanks text) = some found) :
    Quotes (word.toList ++ text) found := by
  rw [letters, List.append_assoc]
  exact (quotes_after_sign shown recognised).prepend head

theorem quotes_of_fromSpecifier? {text : List Char} {found : Recognised}
    (recognised : fromSpecifier? text = some found) : Quotes text found := by
  simp only [fromSpecifier?, Option.bind_eq_bind, Option.bind_eq_some_iff] at recognised
  obtain ⟨after, word, recognised⟩ := recognised
  obtain ⟨gap, split, -⟩ := exists_gap text
  rw [split, ← word?_eq_some.1 word]
  exact (quotes_after_word ['f', 'r', 'o'] rfl rfl recognised).prepend gap

/-- A clause starts with a blank and ends with the word `from` and blanks. -/
theorem isClause_eq_true {clause : List Char} :
    isClause clause = true ↔ ∃ lead middle last gap,
      clause = lead :: (middle ++ last :: ("from".toList ++ gap)) ∧ isBlank lead = true ∧
        isWord last = false ∧ ∀ c ∈ gap, isBlank c = true := by
  constructor
  · intro isClause
    unfold Source.isClause at isClause
    split at isClause
    · rename_i last first before word
      simp only [Bool.and_eq_true, Bool.not_eq_true', beq_iff_eq, Option.map_eq_some_iff]
        at isClause
      obtain ⟨notWord, lead, isLast, isBlank⟩ := isClause
      obtain ⟨middle, before⟩ := List.getLast?_eq_some_iff.1 isLast
      obtain ⟨gap, split, blank⟩ := exists_gap clause.reverse
      refine ⟨lead, middle.reverse, last, gap.reverse, ?_, isBlank, notWord, by simpa using blank⟩
      -- the recogniser reads the clause from its end
      have letters : "morf".toList.reverse = "from".toList := rfl
      have reversed := congrArg List.reverse split
      rw [← word?_eq_some.1 word, before] at reversed
      simpa [List.reverse_append, letters] using reversed
    · cases isClause
  · rintro ⟨lead, middle, last, gap, rfl, isBlank, notWord, blank⟩
    have reversed : (lead :: (middle ++ last :: ("from".toList ++ gap))).reverse =
        gap.reverse ++ ("morf".toList ++ last :: (middle.reverse ++ [lead])) := by simp
    have stops : skipBlanks ("morf".toList ++ last :: (middle.reverse ++ [lead])) =
        "morf".toList ++ last :: (middle.reverse ++ [lead]) := skipBlanks_cons rfl _
    have word := word?_eq_some.2 stops.symm
    rw [Source.isClause, reversed, skipBlanks_append (by simpa using blank), word]
    cases before : middle.reverse with
    | nil => simp [notWord, isBlank]
    | cons first rest =>
      have isLast : (first :: (rest ++ [lead])).getLast? = some lead :=
        List.getLast?_concat (l := first :: rest)
      simp [notWord, isBlank, isLast]

theorem quotes_of_clauseTail? {text : List Char} {found : Recognised}
    (recognised : clauseTail? text = some found) : Quotes text found := by
  simp only [clauseTail?] at recognised
  split at recognised
  · rename_i clause
    obtain ⟨lead, middle, last, gap, split, -, -, blank⟩ := isClause_eq_true.1 clause
    have quoted : InQuotes (text.dropWhile isClauseChar)
        ⟨found.content, found.closing, [] ++ found.rest⟩ := specifier?_eq_some.1 recognised
    have letters : "from".toList = ['f', 'r', 'o', 'm'] := rfl
    have quotes : Quotes ('m' :: (gap ++ text.dropWhile isClauseChar)) found :=
      .intro [] rfl blank quoted (.inl rfl)
    rw [← List.takeWhile_append_dropWhile (p := isClauseChar) (l := text), split, letters]
    simpa using quotes.prepend (lead :: (middle ++ [last, 'f', 'r', 'o']))
  · cases recognised

theorem quotes_of_namedTail? {text : List Char} {found : Recognised}
    (recognised : namedTail? text = some found) : Quotes text found := by
  rw [← List.takeWhile_append_dropWhile (p := isNameChar) (l := text)]
  simp only [namedTail?] at recognised
  split at recognised
  · cases recognised
  · split at recognised
    · rename_i named
      cases recognised
      exact (quotes_of_fromSpecifier? named).prepend _
    · split at recognised
      · rename_i c before word
        have name := congrArg List.reverse (word?_eq_some.1 word)
        have backwards : "morf".toList.reverse = "from".toList := rfl
        rw [List.reverse_reverse, List.reverse_append, backwards] at name
        rw [← name, List.append_assoc]
        exact (quotes_after_word ['f', 'r', 'o'] rfl rfl recognised).prepend _
      · cases recognised

theorem quotes_of_starTail? {text : List Char} {found : Recognised}
    (recognised : starTail? text = some found) : Quotes text found := by
  simp only [starTail?] at recognised
  split at recognised
  · rename_i named isNamed
    simp only [Option.bind_eq_some_iff] at isNamed
    obtain ⟨after, word, skipped⟩ := isNamed
    obtain ⟨gap, split, -⟩ := exists_gap text
    obtain ⟨c, blanks, split', -⟩ := blanks?_eq_some skipped
    rw [split, ← word?_eq_some.1 word, split']
    exact (((quotes_of_namedTail? recognised).prepend _).prepend _).prepend _
  · exact quotes_of_fromSpecifier? recognised

theorem exists_skipType (text : List Char) : ∃ type, text = type ++ skipType text := by
  unfold skipType
  cases skipped : (word? "type" text).bind blanks? with
  | none => exact ⟨[], rfl⟩
  | some rest =>
    obtain ⟨after, word, skipped⟩ := Option.bind_eq_some_iff.1 skipped
    obtain ⟨c, gap, split, -⟩ := blanks?_eq_some skipped
    refine ⟨"type".toList ++ c :: gap, ?_⟩
    rw [← word?_eq_some.1 word, split, Option.getD_some, List.append_assoc]

theorem quotes_of_reexportTail? {text : List Char} {found : Recognised}
    (recognised : reexportTail? text = some found) : Quotes text found := by
  simp only [reexportTail?, Option.bind_eq_bind, Option.bind_eq_some_iff] at recognised
  obtain ⟨what, skipped, recognised⟩ := recognised
  obtain ⟨c, gap, split, -⟩ := blanks?_eq_some skipped
  obtain ⟨type, split'⟩ := exists_skipType what
  have quotes : Quotes (skipType what) found := by
    split at recognised
    · rename_i after star
      rw [char?_eq_some.1 star]
      exact (quotes_of_starTail? recognised).prepend ['*']
    · simp only [Option.bind_eq_some_iff] at recognised
      obtain ⟨inner, opens, after, closes, recognised⟩ := recognised
      rw [char?_eq_some.1 opens,
        ← List.takeWhile_append_dropWhile (p := (· ≠ '\x7d')) (l := inner), char?_eq_some.1 closes]
      exact (((quotes_of_fromSpecifier? recognised).prepend ['\x7d']).prepend _).prepend ['\x7b']
  rw [split, split']
  exact (quotes.prepend type).prepend _

theorem quotes_of_call? {text : List Char} {found : Recognised}
    (recognised : call? text = some found) : Quotes text found := by
  simp only [call?, Option.bind_eq_bind, Option.bind_eq_some_iff, Option.some.injEq] at recognised
  obtain ⟨after, word, argument, opens, quoted, recognised, rest, closes, rfl⟩ := recognised
  obtain ⟨gap, split, -⟩ := exists_gap text
  obtain ⟨gap', split', -⟩ := exists_gap after
  obtain ⟨gap'', split'', blank⟩ := exists_gap argument
  obtain ⟨blanks, closing, -⟩ := exists_gap quoted.rest
  have ends : quoted.rest = (blanks ++ [')']) ++ rest := by
    rw [char?_eq_some.1 closes] at closing
    rw [closing, List.append_assoc, List.singleton_append]
  have found : InQuotes (skipBlanks argument)
      ⟨quoted.content, quoted.closing, (blanks ++ [')']) ++ rest⟩ := by
    rw [← ends]
    exact specifier?_eq_some.1 recognised
  have quotes : Quotes ('(' :: (gap'' ++ skipBlanks argument))
      ⟨quoted.content, quoted.closing, rest⟩ := .intro [] rfl blank found (.inr ⟨blanks, rfl⟩)
  rw [split, ← word?_eq_some.1 word, split', char?_eq_some.1 opens, split'']
  exact ((quotes.prepend gap').prepend _).prepend gap

theorem quotes_of_assignment? {text : List Char} {found : Recognised}
    (recognised : assignment? text = some found) : Quotes text found := by
  simp only [assignment?] at recognised
  split at recognised
  · cases recognised
  · obtain ⟨after, equals, recognised⟩ := Option.bind_eq_some_iff.1 recognised
    obtain ⟨gap, split, -⟩ := exists_gap (text.dropWhile isNameChar)
    rw [← List.takeWhile_append_dropWhile (p := isNameChar) (l := text), split,
      char?_eq_some.1 equals]
    exact (((quotes_of_call? recognised).prepend ['=']).prepend gap).prepend _

theorem quotes_of_requireTail? {text : List Char} {found : Recognised}
    (recognised : requireTail? text = some found) : Quotes text found := by
  simp only [requireTail?, Option.bind_eq_bind, Option.bind_eq_some_iff] at recognised
  obtain ⟨what, skipped, recognised⟩ := recognised
  obtain ⟨c, gap, split, -⟩ := blanks?_eq_some skipped
  rw [split]
  refine Quotes.prepend _ ?_
  split at recognised
  · rename_i assigned
    cases recognised
    exact quotes_of_assignment? assigned
  · simp only [Option.bind_eq_some_iff] at recognised
    obtain ⟨named, ⟨after, word, skipped⟩, recognised⟩ := recognised
    obtain ⟨d, blanks, split', -⟩ := blanks?_eq_some skipped
    rw [← word?_eq_some.1 word, split']
    exact ((quotes_of_assignment? recognised).prepend _).prepend _

/-- Every statement starts with a sign of the code and has its specifier between quotes. -/
theorem quotes_of_recognise? {form : Form} {text : List Char} {found : Recognised}
    (recognised : form.recognise? text = some found) :
    Quotes text found ∧ ∃ first rest, text = first :: rest ∧ isSign first = true := by
  obtain ⟨tail, word, recognised⟩ := Option.bind_eq_some_iff.1 recognised
  have split := word?_eq_some.1 word
  subst split
  cases form with
  | clause => exact ⟨(quotes_of_clauseTail? recognised).prepend _, _, _, rfl, rfl⟩
  | effect =>
    exact ⟨quotes_after_word ['i', 'm', 'p', 'o', 'r'] rfl rfl recognised, _, _, rfl, rfl⟩
  | reexport => exact ⟨(quotes_of_reexportTail? recognised).prepend _, _, _, rfl, rfl⟩
  | require => exact ⟨(quotes_of_requireTail? recognised).prepend _, _, _, rfl, rfl⟩

end ImportCycles.Source
