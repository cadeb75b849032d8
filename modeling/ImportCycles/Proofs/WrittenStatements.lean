import ImportCycles.Proofs.StatementGrammar
import Mathlib.Data.List.Chain

/-! # Statements as they are written

However the tokens of a statement are spaced, the recogniser of its form reads it to the end, with
the specifier that is quoted there: a clause goes on up to its last `from`, items contain no closing
brace, and a name ends where a blank or a sign follows.
-/

namespace ImportCycles.Source.Grammar

open Text (isBlank isWord skipBlanks byteLength)

/-- A text that starts with the quotation as it is masked. -/
def Quotation.blanked (quotation : Quotation) (rest : List Char) : List Char :=
  quotation.quote ::
    (List.replicate (byteLength quotation.content) ' ' ++ quotation.quote :: rest)

/-- What is recognised of a quotation. -/
def Quotation.recognised (quotation : Quotation) (rest : List Char) : Recognised where
  content := List.replicate (byteLength quotation.content) ' ' ++ quotation.quote :: rest
  closing := quotation.quote :: rest
  rest := rest

variable {quotation : Quotation} {rest : List Char}

theorem specifier?_blanked :
    specifier? (quotation.blanked rest) = some (quotation.recognised rest) := by
  refine specifier?_eq_some.2 (.intro rest quotation.isQuote quotation.isQuote ?_ ?_)
  · obtain ⟨quote, content, -, nonempty, -⟩ := quotation
    cases content with
    | nil => exact absurd rfl nonempty
    | cons c content =>
      have positive := c.utf8Size_pos
      simp only [ne_eq, List.replicate_eq_nil_iff, byteLength]
      omega
  · intro c mem
    rw [List.eq_of_mem_replicate mem]
    rfl

theorem specifier?_eq_none {c : Char} (noQuote : isSpecifierQuote c = false) (text : List Char) :
    specifier? (c :: text) = none := by
  refine Option.eq_none_iff_forall_ne_some.2 fun found recognised => ?_
  obtain ⟨_, opens, -⟩ := specifier?_eq_some.1 recognised
  simp [noQuote] at opens

theorem skipBlanks_blanked : skipBlanks (quotation.blanked rest) = quotation.blanked rest := by
  refine skipBlanks_cons ?_ _
  cases blank : isBlank quotation.quote with
  | false => rfl
  | true =>
    have starts := startsLiteral_of_isSpecifierQuote quotation.isQuote
    simp [startsLiteral_of_isBlank blank] at starts

theorem blanks?_append {lead text : List Char} (blank : ∀ c ∈ lead, isBlank c = true)
    (nonempty : lead ≠ []) (stops : skipBlanks text = text) :
    blanks? (lead ++ text) = some text := by
  cases lead with
  | nil => exact absurd rfl nonempty
  | cons c lead =>
    have later : ∀ d ∈ lead, isBlank d = true := fun d mem => blank d (List.mem_cons_of_mem c mem)
    rw [List.cons_append, blanks?, if_pos (blank c (by simp)), skipBlanks_append later, stops]

/-- The word `from` in a layout, behind blanks and in front of the specifier. -/
theorem fromSpecifier?_append {gap : List Char} {word : Spaced}
    (blank : ∀ c ∈ gap, isBlank c = true) (isFrom : word.token = .word fromWord) :
    fromSpecifier? (gap ++ (word.text ++ quotation.blanked rest)) =
      some (quotation.recognised rest) := by
  have text : word.text ++ quotation.blanked rest =
      "from".toList ++ (word.gap ++ quotation.blanked rest) := by
    rw [Spaced.text, isFrom, List.append_assoc]
    rfl
  have starts : skipBlanks ("from".toList ++ (word.gap ++ quotation.blanked rest)) =
    "from".toList ++ (word.gap ++ quotation.blanked rest) := skipBlanks_cons rfl _
  rw [fromSpecifier?, text, skipBlanks_append blank, starts, word?_eq_some.2 rfl,
    Option.bind_eq_bind, Option.bind_some, skipBlanks_append word.blank, skipBlanks_blanked,
    specifier?_blanked]

/-! ## Texts that can stand in a clause -/

theorem takeWhile_stops {p : Char → Bool} {text : List Char} {c : Char}
    (all : ∀ d ∈ text, p d = true) (stop : p c = false) (rest : List Char) :
    (text ++ c :: rest).takeWhile p = text := by
  rw [List.takeWhile_append_of_pos all, List.takeWhile_cons_of_neg (by simp [stop]),
    List.append_nil]

theorem dropWhile_stops {p : Char → Bool} {text : List Char} {c : Char}
    (all : ∀ d ∈ text, p d = true) (stop : p c = false) (rest : List Char) :
    (text ++ c :: rest).dropWhile p = c :: rest := by
  rw [List.dropWhile_append_of_pos all, List.dropWhile_cons_of_neg (by simp [stop])]

theorem isClauseChar_of_isBlank {c : Char} (blank : isBlank c = true) : isClauseChar c = true := by
  simp [isClauseChar, blank]

theorem isClauseChar_of_isNameChar {c : Char} (name : isNameChar c = true) :
    isClauseChar c = true := by
  simp [isClauseChar, name]

theorem Identifier.isNameChar (name : Identifier) :
    ∀ c ∈ name.text, Source.isNameChar c = true := by
  intro c mem
  simp [Source.isNameChar, name.isWord c mem]

theorem Quotation.not_isClauseChar (quotation : Quotation) :
    isClauseChar quotation.quote = false := by
  have isQuote := quotation.isQuote
  simp only [isSpecifierQuote, Bool.or_eq_true, beq_iff_eq] at isQuote
  rcases isQuote with same | same <;> rw [same] <;> decide

/-- The tokens of lists of items are words and commas. -/
theorem mem_listed {token : Token} {items : List Item} (mem : token ∈ listed items) :
    (∃ name, token = .word name) ∨ token = .sign .comma := by
  have inItem : ∀ item : Item, token ∈ item.tokens → ∃ name, token = .word name := by
    intro item mem
    cases item with
    | plain name => exact ⟨name, by simpa [Item.tokens] using mem⟩
    | renamed name other =>
      simp only [Item.tokens, List.mem_cons, List.not_mem_nil, or_false] at mem
      rcases mem with same | same | same <;> exact ⟨_, same⟩
  induction items using listed.induct with
  | case1 => cases mem
  | case2 item => exact .inl (inItem item mem)
  | case3 item next items ih =>
    rcases List.mem_append.1 mem with mem | mem
    · exact .inl (inItem item mem)
    · rcases List.mem_cons.1 mem with same | mem
      · exact .inr same
      · exact ih mem

/-- Can the token stand in a clause? -/
def Token.inClause : Token → Bool
  | word _ => true
  | sign mark => isClauseChar mark.char

theorem Token.isClauseChar {token : Token} (inClause : token.inClause = true) :
    ∀ c ∈ token.text, Source.isClauseChar c = true := by
  cases token with
  | word name => exact fun c mem => isClauseChar_of_isNameChar (name.isNameChar c mem)
  | sign mark =>
    intro c mem
    rw [List.mem_singleton.1 mem]
    exact inClause

theorem inClause_braces (items : List Item) : ∀ token ∈ braces items, token.inClause = true := by
  intro token mem
  simp only [braces, List.mem_cons, List.mem_append, List.not_mem_nil, or_false] at mem
  rcases mem with rfl | mem | rfl
  · rfl
  · rcases mem_listed mem with ⟨name, rfl⟩ | rfl <;> rfl
  · rfl

theorem Clause.inClause (clause : Clause) : ∀ token ∈ clause.tokens, token.inClause = true := by
  intro token mem
  cases clause with
  | single name =>
    rw [List.mem_singleton.1 mem]
    rfl
  | named items => exact inClause_braces items token mem
  | everything name =>
    simp only [tokens, List.mem_cons, List.not_mem_nil, or_false] at mem
    rcases mem with rfl | rfl | rfl <;> rfl
  | both name items =>
    simp only [tokens, List.mem_cons] at mem
    rcases mem with rfl | rfl | mem
    · rfl
    · rfl
    · exact inClause_braces items token mem
  | types items =>
    rcases List.mem_cons.1 mem with rfl | mem
    · rfl
    · exact inClause_braces items token mem

theorem Clause.tokens_ne_nil (clause : Clause) : clause.tokens ≠ [] := by
  cases clause <;> exact List.cons_ne_nil _ _

theorem inClause_importFrom (clause : Clause) :
    ∀ token ∈ (Statement.importFrom clause).tokens, token.inClause = true := by
  intro token mem
  rcases List.mem_append.1 mem with mem | mem
  · exact clause.inClause token mem
  · rw [List.mem_singleton.1 mem]
    rfl

theorem isClauseChar_middle {lead : List Char} {layout : List Spaced}
    (leadBlank : ∀ c ∈ lead, isBlank c = true)
    (inClause : ∀ token ∈ layout.map Spaced.token, token.inClause = true) :
    ∀ c ∈ lead ++ layout.flatMap Spaced.text, isClauseChar c = true := by
  intro c mem
  rcases List.mem_append.1 mem with mem | mem
  · exact isClauseChar_of_isBlank (leadBlank c mem)
  · obtain ⟨spaced, isSpaced, mem⟩ := List.mem_flatMap.1 mem
    rcases List.mem_append.1 mem with mem | mem
    · exact Token.isClauseChar (inClause _ (List.mem_map_of_mem isSpaced)) c mem
    · exact isClauseChar_of_isBlank (spaced.blank c mem)

theorem Sign.not_isWord (mark : Sign) : isWord mark.char = false := by
  cases mark <;> decide

/-- In front of a word a layout ends with a character of no word. -/
theorem exists_last {layout : List Spaced} {word : Spaced} {name : Identifier}
    (nonempty : layout ≠ []) (apart : (layout ++ [word]).IsChain Spaced.Apart)
    (isWord : word.token = .word name) :
    ∃ before last, layout.flatMap Spaced.text = before ++ [last] ∧ Text.isWord last = false := by
  rcases List.eq_nil_or_concat' layout with rfl | ⟨others, spaced, rfl⟩
  · exact absurd rfl nonempty
  · have apart : Spaced.Apart spaced word :=
      (List.isChain_append.1 apart).2.2 spaced (by simp) word (by simp)
    have text : (others ++ [spaced]).flatMap Spaced.text =
        others.flatMap Spaced.text ++ (spaced.token.text ++ spaced.gap) := by
      rw [List.flatMap_append, List.flatMap_singleton, Spaced.text]
    -- without blanks behind it the token is a sign, since it stands next to a word
    rcases List.eq_nil_or_concat' spaced.gap with none | ⟨gap, last, some⟩
    · cases kind : spaced.token with
      | word other => exact absurd none (apart other name kind isWord)
      | sign mark =>
        refine ⟨others.flatMap Spaced.text, mark.char, ?_, mark.not_isWord⟩
        rw [text, none, kind, List.append_nil, Token.text]
    · refine ⟨others.flatMap Spaced.text ++ (spaced.token.text ++ gap), last, ?_, ?_⟩
      · rw [text, some]
        simp only [List.append_assoc]
      · exact isWord_of_isBlank (spaced.blank last (by simp [some]))

/-! ## The forms one by one -/

section Forms

variable {lead : List Char} {layout : List Spaced}

/-- An import with a clause, from the blanks behind the keyword on. -/
theorem clauseTail?_layout (leadBlank : ∀ c ∈ lead, isBlank c = true) (leadNonempty : lead ≠ [])
    {clause : Clause} (spells : layout.map Spaced.token = (Statement.importFrom clause).tokens)
    (apart : layout.IsChain Spaced.Apart) :
    clauseTail? (lead ++ layout.flatMap Spaced.text ++ quotation.blanked rest) =
      some (quotation.recognised rest) := by
  have chars : ∀ c ∈ lead ++ layout.flatMap Spaced.text, isClauseChar c = true := by
    refine isClauseChar_middle leadBlank ?_
    rw [spells]
    exact inClause_importFrom clause
  have isClause : isClause (lead ++ layout.flatMap Spaced.text) = true := by
    obtain ⟨taken, last, rfl, takenTokens, lastToken⟩ := List.map_eq_append_iff.1 spells
    obtain ⟨word, rfl, isFrom⟩ := List.map_eq_singleton_iff.1 lastToken
    have nonempty : taken ≠ [] := by
      rintro rfl
      exact clause.tokens_ne_nil takenTokens.symm
    obtain ⟨before, mark, text, notWord⟩ := exists_last nonempty apart isFrom
    cases lead with
    | nil => exact absurd rfl leadNonempty
    | cons c lead =>
      refine isClause_eq_true.2
        ⟨c, lead ++ before, mark, word.gap, ?_, leadBlank c (by simp), notWord, word.blank⟩
      rw [List.flatMap_append, List.flatMap_singleton, text, Spaced.text, isFrom]
      simp only [List.cons_append, List.append_assoc, List.nil_append]
      rfl
  have took : (lead ++ layout.flatMap Spaced.text ++ quotation.blanked rest).takeWhile
      isClauseChar = lead ++ layout.flatMap Spaced.text :=
    takeWhile_stops chars quotation.not_isClauseChar _
  have left : (lead ++ layout.flatMap Spaced.text ++ quotation.blanked rest).dropWhile
      isClauseChar = quotation.blanked rest :=
    dropWhile_stops chars quotation.not_isClauseChar _
  rw [clauseTail?, took, left, if_pos isClause, specifier?_blanked]

theorem reexportTail?_star (leadBlank : ∀ c ∈ lead, isBlank c = true) (leadNonempty : lead ≠ [])
    (text : List Char) : reexportTail? (lead ++ '*' :: text) = starTail? text := by
  have skipped := blanks?_append leadBlank leadNonempty (skipBlanks_cons (c := '*') rfl text)
  have noType : skipType ('*' :: text) = '*' :: text := rfl
  have star : char? '*' ('*' :: text) = some text := rfl
  simp only [reexportTail?, skipped, Option.bind_eq_bind, Option.bind_some, noType, star]

theorem reexportTail?_brace (leadBlank : ∀ c ∈ lead, isBlank c = true) (leadNonempty : lead ≠ [])
    {inner : List Char} (noBrace : ∀ c ∈ inner, decide (c ≠ '\x7d') = true) (text : List Char) :
    reexportTail? (lead ++ '\x7b' :: (inner ++ '\x7d' :: text)) = fromSpecifier? text := by
  have skipped := blanks?_append leadBlank leadNonempty
    (skipBlanks_cons (c := '\x7b') rfl (inner ++ '\x7d' :: text))
  have noType : skipType ('\x7b' :: (inner ++ '\x7d' :: text)) =
    '\x7b' :: (inner ++ '\x7d' :: text) := rfl
  have noStar : char? '*' ('\x7b' :: (inner ++ '\x7d' :: text)) = none := rfl
  have opens : char? '\x7b' ('\x7b' :: (inner ++ '\x7d' :: text)) =
    some (inner ++ '\x7d' :: text) := rfl
  have closes : char? '\x7d' ('\x7d' :: text) = some text := rfl
  have stops : (inner ++ '\x7d' :: text).dropWhile (fun c => decide (c ≠ '\x7d')) =
    '\x7d' :: text := dropWhile_stops noBrace rfl text
  simp only [reexportTail?, skipped, Option.bind_eq_bind, Option.bind_some, noType, noStar, opens,
    stops, closes]

/-- Items contain no closing brace, however they are written. -/
theorem noBrace_items {items : List Item} {inner : List Spaced}
    (isInner : inner.map Spaced.token = listed items) :
    ∀ c ∈ inner.flatMap Spaced.text, c ≠ '\x7d' := by
  intro c mem
  obtain ⟨spaced, isSpaced, mem⟩ := List.mem_flatMap.1 mem
  rintro rfl
  rcases List.mem_append.1 mem with mem | mem
  · have isToken : spaced.token ∈ listed items := isInner ▸ List.mem_map_of_mem isSpaced
    rcases mem_listed isToken with ⟨name, same⟩ | same
    · rw [same] at mem
      exact absurd (name.isWord _ mem) (by decide)
    · rw [same] at mem
      exact absurd mem (by decide)
  · exact absurd (spaced.blank _ mem) (by decide)

/-- What is passed on in braces. -/
theorem reexportTail?_named (leadBlank : ∀ c ∈ lead, isBlank c = true) (leadNonempty : lead ≠ [])
    {items : List Item}
    (spells : layout.map Spaced.token = (Statement.exportFrom (.named items)).tokens) :
    reexportTail? (lead ++ layout.flatMap Spaced.text ++ quotation.blanked rest) =
      some (quotation.recognised rest) := by
  simp only [Statement.tokens, Passed.tokens, braces, List.cons_append, List.append_assoc,
    List.nil_append] at spells
  obtain ⟨opening, layout, rfl, isOpening, spells⟩ := List.map_eq_cons_iff.1 spells
  obtain ⟨inner, layout, rfl, isInner, spells⟩ := List.map_eq_append_iff.1 spells
  obtain ⟨closing, layout, rfl, isClosing, spells⟩ := List.map_eq_cons_iff.1 spells
  obtain ⟨word, rfl, isFrom⟩ := List.map_eq_singleton_iff.1 spells
  have noBrace : ∀ c ∈ opening.gap ++ inner.flatMap Spaced.text, decide (c ≠ '\x7d') = true := by
    intro c mem
    rw [decide_eq_true_iff]
    rcases List.mem_append.1 mem with mem | mem
    · rintro rfl
      exact absurd (opening.blank _ mem) (by decide)
    · exact noBrace_items isInner c mem
  have text : lead ++ (opening :: (inner ++ closing :: [word])).flatMap Spaced.text ++
      quotation.blanked rest = lead ++ '\x7b' :: (opening.gap ++ inner.flatMap Spaced.text ++
        '\x7d' :: (closing.gap ++ (word.text ++ quotation.blanked rest))) := by
    simp [Spaced.text, isOpening, isClosing, Token.text, Sign.char]
  rw [text, reexportTail?_brace leadBlank leadNonempty noBrace,
    fromSpecifier?_append closing.blank isFrom]

/-- Everything is passed on. -/
theorem reexportTail?_everything (leadBlank : ∀ c ∈ lead, isBlank c = true)
    (leadNonempty : lead ≠ [])
    (spells : layout.map Spaced.token = (Statement.exportFrom .everything).tokens) :
    reexportTail? (lead ++ layout.flatMap Spaced.text ++ quotation.blanked rest) =
      some (quotation.recognised rest) := by
  obtain ⟨star, layout, rfl, isStar, spells⟩ := List.map_eq_cons_iff.1 spells
  obtain ⟨word, rfl, isFrom⟩ := List.map_eq_singleton_iff.1 spells
  have text : lead ++ (star :: [word]).flatMap Spaced.text ++ quotation.blanked rest =
      lead ++ '*' :: (star.gap ++ (word.text ++ quotation.blanked rest)) := by
    simp [Spaced.text, isStar, Token.text, Sign.char]
  have noAs : word? "as" (skipBlanks (star.gap ++ (word.text ++ quotation.blanked rest))) =
      none := by
    rw [skipBlanks_append star.blank, Spaced.text, isFrom]
    rfl
  rw [text, reexportTail?_star leadBlank leadNonempty, starTail?, noAs, Option.bind_none]
  exact fromSpecifier?_append star.blank isFrom

theorem Identifier.skipBlanks_append (name : Identifier) (text : List Char) :
    skipBlanks (name.text ++ text) = name.text ++ text := by
  obtain ⟨c, others, isText⟩ := List.exists_cons_of_ne_nil name.nonempty
  have isWord := name.isWord c (by simp [isText])
  rw [isText, List.cons_append]
  exact skipBlanks_cons (isBlank_of_isWord isWord) _

theorem isNameChar_of_isBlank {c : Char} (blank : isBlank c = true) : isNameChar c = false := by
  have notDollar : c ≠ '$' := by rintro rfl; exact absurd blank (by decide)
  simp [isNameChar, isWord_of_isBlank blank, notDollar]

/-- A name is read up to the first character of no name. -/
theorem Identifier.span_append (name : Identifier) {text : List Char}
    (stops : ∀ c ∈ text.head?, Source.isNameChar c = false) :
    (name.text ++ text).takeWhile Source.isNameChar = name.text ∧
      (name.text ++ text).dropWhile Source.isNameChar = text := by
  cases text with
  | nil =>
    rw [List.append_nil]
    exact ⟨List.takeWhile_eq_self_iff.2 name.isNameChar,
      List.dropWhile_eq_nil_iff.2 name.isNameChar⟩
  | cons c text =>
    have stop := stops c rfl
    exact ⟨takeWhile_stops name.isNameChar stop _, dropWhile_stops name.isNameChar stop _⟩

/-- Everything is passed on under a name. -/
theorem reexportTail?_everythingAs (leadBlank : ∀ c ∈ lead, isBlank c = true)
    (leadNonempty : lead ≠ []) {name : Identifier}
    (spells : layout.map Spaced.token = (Statement.exportFrom (.everythingAs name)).tokens)
    (apart : layout.IsChain Spaced.Apart) :
    reexportTail? (lead ++ layout.flatMap Spaced.text ++ quotation.blanked rest) =
      some (quotation.recognised rest) := by
  obtain ⟨star, layout, rfl, isStar, spells⟩ := List.map_eq_cons_iff.1 spells
  obtain ⟨as, layout, rfl, isAs, spells⟩ := List.map_eq_cons_iff.1 spells
  obtain ⟨other, layout, rfl, isOther, spells⟩ := List.map_eq_cons_iff.1 spells
  obtain ⟨word, rfl, isFrom⟩ := List.map_eq_singleton_iff.1 spells
  simp only [List.isChain_cons_cons] at apart
  obtain ⟨-, asApart, otherApart, -⟩ := apart
  have text : lead ++ (star :: as :: other :: [word]).flatMap Spaced.text ++
      quotation.blanked rest = lead ++ '*' :: (star.gap ++ (asWord.text ++ (as.gap ++ (name.text ++
        (other.gap ++ (word.text ++ quotation.blanked rest)))))) := by
    simp [Spaced.text, isStar, isAs, isOther, Token.text, Sign.char]
  have isAsWord : word? "as" (asWord.text ++ (as.gap ++ (name.text ++ (other.gap ++ (word.text ++
    quotation.blanked rest))))) = some (as.gap ++ (name.text ++ (other.gap ++ (word.text ++
    quotation.blanked rest)))) := word?_eq_some.2 rfl
  have stops : ∀ c ∈ (other.gap ++ (word.text ++ quotation.blanked rest)).head?,
      isNameChar c = false := by
    obtain ⟨c, others, isGap⟩ := List.exists_cons_of_ne_nil (otherApart _ _ isOther isFrom)
    rw [isGap]
    rintro _ ⟨⟩
    exact isNameChar_of_isBlank (other.blank c (by simp [isGap]))
  obtain ⟨took, left⟩ := name.span_append stops
  rw [text, reexportTail?_star leadBlank leadNonempty, starTail?,
    skipBlanks_append star.blank, asWord.skipBlanks_append, isAsWord, Option.bind_some,
    blanks?_append as.blank (asApart _ _ isAs isOther) (name.skipBlanks_append _)]
  have named : name.text.isEmpty = false := by simp [name.nonempty]
  simp only [namedTail?, took, left, named, fromSpecifier?_append other.blank isFrom]
  rfl

/-- A call of `require`. -/
theorem call?_layout {gap : List Char} {word parenthesis : Spaced}
    (blank : ∀ c ∈ gap, isBlank c = true) (isRequire : word.token = .word requireWord)
    (isParenthesis : parenthesis.token = .sign .openParenthesis) {tail : List Char}
    (tailBlank : ∀ c ∈ tail, isBlank c = true) :
    call? (gap ++ (word.text ++ (parenthesis.text ++
        quotation.blanked (tail ++ ')' :: rest)))) =
      some { quotation.recognised (tail ++ ')' :: rest) with rest := rest } := by
  have text : gap ++ (word.text ++ (parenthesis.text ++ quotation.blanked (tail ++ ')' :: rest))) =
      gap ++ (requireWord.text ++ (word.gap ++ '(' :: (parenthesis.gap ++
        quotation.blanked (tail ++ ')' :: rest)))) := by
    simp [Spaced.text, isRequire, isParenthesis, Token.text, Sign.char]
  have isWord : word? "require" (requireWord.text ++ (word.gap ++ '(' :: (parenthesis.gap ++
      quotation.blanked (tail ++ ')' :: rest)))) = some (word.gap ++ '(' :: (parenthesis.gap ++
      quotation.blanked (tail ++ ')' :: rest))) := word?_eq_some.2 rfl
  have opens : char? '(' (skipBlanks ('(' :: (parenthesis.gap ++
      quotation.blanked (tail ++ ')' :: rest)))) =
    some (parenthesis.gap ++ quotation.blanked (tail ++ ')' :: rest)) := rfl
  have closes : char? ')' (skipBlanks (quotation.recognised (tail ++ ')' :: rest)).rest) =
      some rest := by
    rw [Quotation.recognised, skipBlanks_append tailBlank]
    rfl
  rw [text]
  simp only [call?, skipBlanks_append blank, requireWord.skipBlanks_append, isWord,
    Option.bind_eq_bind, Option.bind_some, skipBlanks_append word.blank, opens,
    skipBlanks_append parenthesis.blank, skipBlanks_blanked, specifier?_blanked, closes]

/-- An import that assigns a call of `require`. -/
theorem requireTail?_layout (leadBlank : ∀ c ∈ lead, isBlank c = true) (leadNonempty : lead ≠ [])
    {name : Identifier}
    (spells : layout.map Spaced.token = (Statement.importRequire name).tokens) {tail : List Char}
    (tailBlank : ∀ c ∈ tail, isBlank c = true) :
    requireTail? (lead ++ layout.flatMap Spaced.text ++ quotation.blanked (tail ++ ')' :: rest)) =
      some { quotation.recognised (tail ++ ')' :: rest) with rest := rest } := by
  obtain ⟨first, layout, rfl, isName, spells⟩ := List.map_eq_cons_iff.1 spells
  obtain ⟨equals, layout, rfl, isEquals, spells⟩ := List.map_eq_cons_iff.1 spells
  obtain ⟨word, layout, rfl, isRequire, spells⟩ := List.map_eq_cons_iff.1 spells
  obtain ⟨parenthesis, rfl, isParenthesis⟩ := List.map_eq_singleton_iff.1 spells
  have text : lead ++ (first :: equals :: word :: [parenthesis]).flatMap Spaced.text ++
      quotation.blanked (tail ++ ')' :: rest) =
      lead ++ (name.text ++ (first.gap ++ '=' :: (equals.gap ++ (word.text ++ (parenthesis.text ++
        quotation.blanked (tail ++ ')' :: rest)))))) := by
    simp [Spaced.text, isName, isEquals, Token.text, Sign.char]
  have stops : ∀ c ∈ (first.gap ++ '=' :: (equals.gap ++ (word.text ++ (parenthesis.text ++
      quotation.blanked (tail ++ ')' :: rest))))).head?, isNameChar c = false := by
    cases isGap : first.gap with
    | nil =>
      rintro _ ⟨⟩
      decide
    | cons c gap =>
      rintro _ ⟨⟩
      exact isNameChar_of_isBlank (first.blank c (by simp [isGap]))
  obtain ⟨took, left⟩ := name.span_append stops
  have named : name.text.isEmpty = false := by simp [name.nonempty]
  have assigns : char? '=' (skipBlanks ('=' :: (equals.gap ++ (word.text ++ (parenthesis.text ++
      quotation.blanked (tail ++ ')' :: rest)))))) = some (equals.gap ++ (word.text ++
      (parenthesis.text ++ quotation.blanked (tail ++ ')' :: rest)))) := rfl
  have call : call? (equals.gap ++ (word.text ++ (parenthesis.text ++
      quotation.blanked (tail ++ ')' :: rest)))) =
    some { quotation.recognised (tail ++ ')' :: rest) with rest := rest } :=
    call?_layout equals.blank isRequire isParenthesis tailBlank
  rw [text]
  simp only [requireTail?, blanks?_append leadBlank leadNonempty (name.skipBlanks_append _),
    Option.bind_eq_bind, Option.bind_some, assignment?, took, left, named,
    skipBlanks_append first.blank, assigns, call]
  rfl

end Forms

end ImportCycles.Source.Grammar
