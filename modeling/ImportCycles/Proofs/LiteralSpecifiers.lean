import ImportCycles.Proofs.Order
import ImportCycles.Proofs.Recognisers

/-! # Specifiers are string literals

A statement is recognised in the masked text only, and both ends of a specifier may be either quote
there. What is found in the source itself is nevertheless a statement that starts in the code, and
the inside of one string literal: the machine that masks opens the literal at the first quote, stays
in it up to the second, and leaves it there.
-/

namespace ImportCycles

namespace Source

open Text (byteLength byteLength_append isBlank)
open Masker (Run)

/-- What is found in a text was recognised at its place in it. -/
theorem exists_of_mem_occurrencesFrom {form : Form} {before : Option Char} {offset skip : Nat}
    {text : List Char} {occurrence : Occurrence}
    (mem : occurrence ∈ occurrencesFrom form before offset skip text) :
    ∃ read rest found, text = read ++ rest ∧ form.recognise? rest = some found ∧
      occurrence = found.occurrence rest (offset + byteLength read) := by
  induction text generalizing before offset skip with
  | nil => simp [occurrencesFrom] at mem
  | cons c rest ih =>
    have later : ∀ {skip},
        occurrence ∈ occurrencesFrom form (some c) (offset + c.utf8Size) skip rest →
        ∃ read rest' found, c :: rest = read ++ rest' ∧ form.recognise? rest' = some found ∧
          occurrence = found.occurrence rest' (offset + byteLength read) := by
      intro skip mem
      obtain ⟨read, rest', found, split, recognised, same⟩ := ih mem
      refine ⟨c :: read, rest', found, by rw [split, List.cons_append], recognised, ?_⟩
      rw [same, byteLength, Nat.add_assoc]
    cases skip with
    | succ skip => exact later mem
    | zero =>
      simp only [occurrencesFrom] at mem
      split at mem
      · rename_i found recognised
        rcases List.mem_cons.1 mem with same | mem
        · split at recognised
          · exact ⟨[], c :: rest, found, rfl, recognised, same⟩
          · cases recognised
        · exact later mem
      · exact later mem

theorem mem_of_mem_allOccurrences {masked : List Char} {found : Occurrence}
    (mem : found ∈ allOccurrences masked) :
    found ∈ Form.all.flatMap fun form => occurrences form masked :=
  (Sorted.sortBy_perm _ _).mem_iff.1 ((Sorted.dropRepeats_sublist _ _).subset mem)

theorem exists_of_mem_allOccurrences {masked : List Char} {occurrence : Occurrence}
    (mem : occurrence ∈ allOccurrences masked) :
    ∃ form read rest found, masked = read ++ rest ∧ Form.recognise? form rest = some found ∧
      occurrence = found.occurrence rest (byteLength read) := by
  obtain ⟨form, -, mem⟩ := List.mem_flatMap.1 (mem_of_mem_allOccurrences mem)
  obtain ⟨read, rest, found, split, recognised, same⟩ := exists_of_mem_occurrencesFrom mem
  rw [Nat.zero_add] at same
  exact ⟨form, read, rest, found, split, recognised, same⟩

/-- Masking a source comes to the text `rest` in the given mode. -/
def Reaches (source : List Char) (mode : Mode) (rest : List Char) : Prop :=
  ∃ written, Run (fun _ => True) ⟨.code, source⟩ written ⟨mode, rest⟩

/-- A source cut up at a statement, and the statement at the quotes of a literal in it. -/
structure Division where
  before : List Char
  head : List Char
  quote : Char
  content : List Char
  tail : List Char
  after : List Char

namespace Division

/-- The source from the closing quote on. -/
def fromClosing (d : Division) : List Char := d.quote :: (d.tail ++ d.after)

/-- The source from the opening quote on. -/
def fromOpening (d : Division) : List Char := d.quote :: (d.content ++ d.fromClosing)

/-- The source from the statement on. -/
def fromStatement (d : Division) : List Char := d.head ++ d.fromOpening

/-- The source that is cut up. -/
def source (d : Division) : List Char := d.before ++ d.fromStatement

/-- The statement alone. -/
def statement (d : Division) : List Char :=
  d.head ++ d.quote :: (d.content ++ d.quote :: d.tail)

/-- The statement starts in the code, and its quotes are those of one string literal: the first is
read in the code and opens the literal, every round from there up to the second is made in it, and
the second ends it. -/
structure IsLexical (d : Division) : Prop where
  starts : Reaches d.source .code d.fromStatement
  isQuote : isSpecifierQuote d.quote = true
  reaches : Reaches d.source .code d.fromOpening
  opens : (Masker.mk .code d.fromOpening).next? =
    some ([d.quote], ⟨.literal d.quote, d.content ++ d.fromClosing⟩)
  stays : ∃ written, Run (· = .literal d.quote) ⟨.literal d.quote, d.content ++ d.fromClosing⟩
    written ⟨.literal d.quote, d.fromClosing⟩
  closes : (Masker.mk (.literal d.quote) d.fromClosing).next? =
    some ([d.quote], ⟨.code, d.tail ++ d.after⟩)

end Division

/-- What stands behind the closing quote in a statement is read in the code. -/
theorem exists_run_over_tail {text tail rest : List Char}
    (masked : (Masker.mk .code text).masked = tail ++ rest)
    (ends : tail = [] ∨ ∃ blanks, tail = blanks ++ [')']) :
    ∃ t, Run (fun _ => True) ⟨.code, text⟩ tail t := by
  rcases ends with rfl | ⟨blanks, rfl⟩
  · exact ⟨_, .done _⟩
  · rw [List.append_assoc, List.singleton_append] at masked
    obtain ⟨after, run, next⟩ := Masker.exists_run_to_sign (Masker.regular_code text) masked rfl
    exact ⟨⟨.code, after⟩, run.trans (.single trivial next)⟩

/-- From a sign of the code, over blanks, to an opening quote. -/
theorem exists_run_to_literal {text head gap after : List Char} {sign quote : Char}
    (masked : (Masker.mk .code text).masked = head ++ sign :: (gap ++ quote :: after))
    (shown : isSign sign = true) (blank : ∀ c ∈ gap, isBlank c = true)
    (opens : isSpecifierQuote quote = true) :
    ∃ rest, Run (fun _ => True) ⟨.code, text⟩ (head ++ sign :: gap) ⟨.code, quote :: rest⟩ ∧
      (Masker.mk .code (quote :: rest)).next? = some ([quote], ⟨.literal quote, rest⟩) := by
  obtain ⟨text', toSign, next⟩ := Masker.exists_run_to_sign (Masker.regular_code _) masked shown
  have behindSign := toSign.trans (.single trivial next)
  have masked' : (Masker.mk .code text').masked = gap ++ quote :: after := by
    simpa using behindSign.masked_eq.symm.trans masked
  obtain ⟨rest, toQuote, next'⟩ := Masker.exists_run_to_opening masked'
    (fun c mem => startsLiteral_of_isBlank (blank c mem)) (startsLiteral_of_isSpecifierQuote opens)
  refine ⟨rest, ?_, next'⟩
  have run := behindSign.trans toQuote
  rwa [List.append_assoc, List.singleton_append] at run

/-- Where a specifier is found in the masked text, there is a string literal in the source, and the
text before, within and behind it takes as many bytes as in the masked text. -/
theorem exists_division {source read rest : List Char} {found : Recognised} {first : Char}
    (masked : mask source = read ++ rest) (quotes : Quotes rest found)
    (start : rest.head? = some first) (shown : isSign first = true) :
    ∃ d : Division, d.source = source ∧ d.IsLexical ∧
      byteLength d.before = byteLength read ∧
      byteLength (d.head ++ [d.quote]) = bytesBefore rest found.content ∧
      byteLength (d.head ++ d.quote :: d.content) = bytesBefore rest found.closing ∧
      byteLength d.statement = bytesBefore rest found.rest := by
  obtain ⟨head, isSign, blank, quoted, ends⟩ := quotes
  rename_i gap text content closing tail rest sign
  generalize behind : tail ++ rest = tailRest at quoted
  obtain ⟨_, isOpening, isClosing, -, chars⟩ := quoted
  subst behind
  rename_i opening closing content
  obtain ⟨others, start⟩ := List.head?_eq_some_iff.1 start
  -- to the start of the statement, to the opening quote, to the closing one and over the rest
  obtain ⟨text, toStart, -⟩ := Masker.exists_run_to_sign (Masker.regular_code source)
    (masked.trans (congrArg (read ++ ·) start)) shown
  have masked := List.append_cancel_left (toStart.masked_eq.symm.trans masked)
  obtain ⟨text', toOpening, opens⟩ := exists_run_to_literal masked isSign blank isOpening
  have opened := toOpening.trans (.single trivial opens)
  have masked' : (Masker.mk (.literal opening) text').masked =
      content ++ closing :: (tail ++ rest) := by
    simpa using opened.masked_eq.symm.trans masked
  have noQuote : opening ∉ content := fun mem =>
    absurd (chars opening mem) (by simp [not_isSpecifierChar isOpening])
  have noFeed : '\n' ∉ content := fun mem => absurd (chars '\n' mem) (by decide)
  have space : closing ≠ ' ' := by rintro rfl; exact absurd isClosing (by decide)
  have feed : closing ≠ '\n' := by rintro rfl; exact absurd isClosing (by decide)
  obtain ⟨rfl, text'', toClosing, closes⟩ :=
    Masker.exists_run_to_closing masked' noQuote noFeed space feed
  have closed := (toClosing.imp fun _ _ => trivial).trans (.single trivial closes)
  have masked'' : (Masker.mk .code text'').masked = tail ++ rest := by
    simpa using closed.masked_eq.symm.trans masked'
  obtain ⟨⟨mode, after⟩, overTail⟩ := exists_run_over_tail masked'' ends
  obtain ⟨before, isBefore, sizeBefore⟩ := toStart.exists_read
  obtain ⟨head', isHead, sizeHead⟩ := toOpening.exists_read
  obtain ⟨content', isContent, sizeContent⟩ := toClosing.exists_read
  obtain ⟨tail', isTail, sizeTail⟩ := overTail.exists_read
  dsimp only at isBefore isHead isContent isTail
  subst isTail isContent isBefore
  refine ⟨⟨before, head', closing, content', tail', after⟩, ?_, ?_, sizeBefore, ?_, ?_, ?_⟩
  · exact congrArg (before ++ ·) isHead.symm
  · have reaches := toStart.trans toOpening
    rw [isHead] at toStart reaches
    exact ⟨⟨_, toStart⟩, isClosing, ⟨_, reaches⟩, opens, ⟨_, toClosing⟩, closes⟩
  · rw [bytesBefore_eq (head ++ sign :: gap ++ [closing]) (by simp)]
    simp only [byteLength_append, sizeHead]
  · rw [bytesBefore_eq (head ++ sign :: gap ++ closing :: content) (by simp)]
    simp only [byteLength_append, byteLength, sizeHead, sizeContent]
  · rw [bytesBefore_eq (head ++ sign :: gap ++ closing :: (content ++ closing :: tail)) (by simp)]
    simp only [Division.statement, byteLength_append, byteLength, sizeHead, sizeContent, sizeTail]

/-- Every statement that is found in a source starts in the code, and its specifier is the text
between the quotes of one string literal within the statement. -/
theorem specifier_in_literal {source : String} {statement : ImportStatement}
    (mem : statement ∈ imports source) :
    ∃ d : Division, d.source = source.toList ∧ d.IsLexical ∧
      statement.location.offset = byteLength d.before ∧
      statement.location.length = byteLength d.statement ∧
      statement.specifier.toList = d.content := by
  obtain ⟨occurrence, isOccurrence, rfl⟩ := List.mem_map.1 mem
  obtain ⟨form, read, rest, found, masked, recognised, rfl⟩ :=
    exists_of_mem_allOccurrences isOccurrence
  obtain ⟨quotes, first, others, start, shown⟩ := quotes_of_recognise? recognised
  obtain ⟨d, isSource, lexical, before, content, closing, stop⟩ :=
    exists_division masked quotes (start ▸ rfl) shown
  refine ⟨d, isSource, lexical, before.symm, ?_, ?_⟩
  · simp only [statementAt, Recognised.occurrence, stop, Nat.add_sub_cancel_left]
  · have cut : source.toList =
        d.before ++ (d.head ++ [d.quote]) ++ (d.content ++ d.fromClosing) := by
      rw [← isSource]
      simp [Division.source, Division.fromStatement, Division.fromOpening]
    have slice := Text.slice?_byteLength (d.before ++ (d.head ++ [d.quote])) d.content d.fromClosing
    have start : byteLength (d.before ++ (d.head ++ [d.quote])) =
        byteLength read + bytesBefore rest found.content := by
      rw [byteLength_append, before, content]
    have stop : byteLength (d.before ++ (d.head ++ [d.quote])) + byteLength d.content =
        byteLength read + bytesBefore rest found.closing := by
      rw [← closing, ← before]
      simp only [byteLength_append, byteLength]
      omega
    rw [← cut, stop, start] at slice
    simp only [statementAt, Recognised.occurrence, slice, Option.getD_some, String.toList_ofList]

theorem specifier_in_literal_commented :
    ⟨"./b's", ⟨15, 27, 1, 16⟩⟩ ∈ imports "/*import 'a'*/ import b /*'*/ from \"./b's\"" ∧
    ∃ d : Division, d.source = "/*import 'a'*/ import b /*'*/ from \"./b's\"".toList ∧ d.IsLexical ∧
      15 = byteLength d.before ∧ 27 = byteLength d.statement ∧ "./b's".toList = d.content := by
  have found : ⟨"./b's", ⟨15, 27, 1, 16⟩⟩ ∈
      imports "/*import 'a'*/ import b /*'*/ from \"./b's\"" := by decide +kernel
  exact ⟨found, specifier_in_literal found⟩

end Source

end ImportCycles
