import ImportCycles.Proofs.WrittenStatements

/-! # What is recognised where a line starts

At the start of a line the recogniser of the line's own form reads its statement. The recognisers of
the other forms read nothing: either the keyword is another one, or what comes first behind it does
not fit, or the first character that belongs to no clause does not.
-/

namespace ImportCycles.Source.Grammar

open Text (isBlank skipBlanks)

/-- A name that is assigned to and an equals sign: the first character of no clause is the sign. -/
theorem equals_of_assignment? {text : List Char} {found : Recognised}
    (recognised : assignment? text = some found) :
    (text.dropWhile isClauseChar).head? = some '=' := by
  simp only [assignment?] at recognised
  split at recognised
  · cases recognised
  · obtain ⟨after, equals, -⟩ := Option.bind_eq_some_iff.1 recognised
    obtain ⟨gap, split, blank⟩ := exists_gap (text.dropWhile isNameChar)
    rw [char?_eq_some.1 equals] at split
    rw [← List.takeWhile_append_dropWhile (p := isNameChar) (l := text), split,
      List.dropWhile_append_of_pos fun c mem =>
        isClauseChar_of_isNameChar (List.mem_takeWhile_imp mem),
      dropWhile_stops (fun c mem => isClauseChar_of_isBlank (blank c mem)) rfl, List.head?_cons]

theorem equals_of_requireTail? {text : List Char} {found : Recognised}
    (recognised : requireTail? text = some found) :
    (text.dropWhile isClauseChar).head? = some '=' := by
  simp only [requireTail?, Option.bind_eq_bind, Option.bind_eq_some_iff] at recognised
  obtain ⟨what, skipped, recognised⟩ := recognised
  obtain ⟨c, gap, split, blank⟩ := blanks?_eq_some skipped
  rw [split, List.dropWhile_append_of_pos fun c mem => isClauseChar_of_isBlank (blank c mem)]
  split at recognised
  · rename_i assigned
    exact equals_of_assignment? assigned
  · simp only [Option.bind_eq_some_iff] at recognised
    obtain ⟨named, ⟨after, word, skipped⟩, recognised⟩ := recognised
    obtain ⟨d, blanks, split', blank'⟩ := blanks?_eq_some skipped
    rw [← word?_eq_some.1 word, split', List.dropWhile_append_of_pos (List.all_eq_true.1 rfl),
      List.dropWhile_append_of_pos fun c mem => isClauseChar_of_isBlank (blank' c mem)]
    exact equals_of_assignment? recognised

theorem recognise?_keyword (form : Form) (text : List Char) :
    form.recognise? (form.keyword.toList ++ text) = form.tail? text := by
  rw [Form.recognise?, word?_eq_some.2 rfl, Option.bind_some]

theorem recognise?_other {form other : Form} (differ : form.keyword ≠ other.keyword)
    (text : List Char) : form.recognise? (other.keyword.toList ++ text) = none := by
  cases form <;> cases other <;> first | rfl | exact absurd rfl differ

namespace Line

/-- What is recognised of a line in front of `rest`. -/
def recognised (line : Line) (rest : List Char) : Recognised :=
  { line.quotation.recognised (line.tail ++ rest) with rest := rest }

theorem masked_append (line : Line) (rest : List Char) :
    line.masked ++ rest = line.statement.form.keyword.toList ++
      (line.middle ++ line.quotation.blanked (line.tail ++ rest)) := by
  simp [masked, head, Quotation.blanked]

/-- The statement of a line is recognised. -/
theorem tail?_form (line : Line) (rest : List Char) :
    line.statement.form.tail? (line.middle ++ line.quotation.blanked (line.tail ++ rest)) =
      some (line.recognised rest) := by
  obtain ⟨statement, lead, leadBlank, leadNonempty, layout, spells, apart, quotation, tail, ends,
    -⟩ := line
  cases statement with
  | importFrom clause =>
    cases ends
    exact clauseTail?_layout leadBlank leadNonempty spells apart
  | importEffect =>
    cases ends
    cases List.map_eq_nil_iff.1 spells
    have recognised : specifier? (skipBlanks (lead ++ [] ++ quotation.blanked rest)) =
        some (quotation.recognised rest) := by
      rw [List.append_nil, skipBlanks_append leadBlank, skipBlanks_blanked, specifier?_blanked]
    exact recognised
  | exportFrom passed =>
    cases ends
    cases passed with
    | named items => exact reexportTail?_named leadBlank leadNonempty spells
    | everything => exact reexportTail?_everything leadBlank leadNonempty spells
    | everythingAs name => exact reexportTail?_everythingAs leadBlank leadNonempty spells apart
  | importRequire name =>
    obtain ⟨gap, rfl, blank⟩ := ends
    simp only [recognised, List.append_assoc, List.singleton_append]
    exact requireTail?_layout leadBlank leadNonempty spells blank

theorem dropWhile_middle (line : Line)
    (inClause : ∀ token ∈ line.statement.tokens, token.inClause = true) (rest : List Char) :
    (line.middle ++ line.quotation.blanked rest).dropWhile isClauseChar =
      line.quotation.blanked rest := by
  rw [← line.spells] at inClause
  exact dropWhile_stops (isClauseChar_middle line.leadBlank inClause)
    line.quotation.not_isClauseChar _

/-- No call of `require` is read where a quote comes before any equals sign. -/
theorem requireTail?_eq_none (line : Line)
    (inClause : ∀ token ∈ line.statement.tokens, token.inClause = true) (rest : List Char) :
    requireTail? (line.middle ++ line.quotation.blanked rest) = none := by
  refine Option.eq_none_iff_forall_ne_some.2 fun found recognised => ?_
  have first := equals_of_requireTail? recognised
  rw [dropWhile_middle line inClause, Quotation.blanked, List.head?_cons] at first
  have isQuote := line.quotation.isQuote
  rw [Option.some.inj first] at isQuote
  exact absurd isQuote (by decide)

/-- No import for effect is read where a token comes before the quotation. -/
theorem effect_eq_none (line : Line) (nonempty : line.statement.tokens ≠ []) (rest : List Char) :
    specifier? (skipBlanks (line.middle ++ rest)) = none := by
  obtain ⟨first, layout, isLayout⟩ : ∃ first layout, line.layout = first :: layout := by
    refine List.exists_cons_of_ne_nil ?_
    rintro none
    exact nonempty (by rw [← line.spells, none, List.map_nil])
  have text : line.middle ++ rest = line.lead ++ (first.token.text ++ (first.gap ++
      (layout.flatMap Spaced.text ++ rest))) := by
    simp [middle, isLayout, Spaced.text]
  rw [text, skipBlanks_append line.leadBlank]
  cases first.token with
  | word name =>
    rw [Token.text, name.skipBlanks_append]
    obtain ⟨c, others, isText⟩ := List.exists_cons_of_ne_nil name.nonempty
    have isWord := name.isWord c (by simp [isText])
    rw [isText, List.cons_append]
    exact specifier?_eq_none (isSpecifierQuote_of_isWord isWord) _
  | sign mark => cases mark <;> exact specifier?_eq_none rfl _

/-- Blanks alone are no clause. -/
theorem isClause_of_blank {text : List Char} (blank : ∀ c ∈ text, isBlank c = true) :
    isClause text = false := by
  refine Bool.eq_false_iff.2 fun clause => ?_
  obtain ⟨lead, before, last, gap, rfl, -⟩ := isClause_eq_true.1 clause
  exact absurd (blank 'f' (by simp)) (by decide)

/-- No clause is read in an import for effect. -/
theorem clauseTail?_eq_none_of_effect (line : Line) (noTokens : line.statement.tokens = [])
    (rest : List Char) : clauseTail? (line.middle ++ line.quotation.blanked rest) = none := by
  have isMiddle : line.middle = line.lead := by
    rw [middle, List.map_eq_nil_iff.1 (line.spells.trans noTokens), List.flatMap_nil,
      List.append_nil]
  have took : (line.middle ++ line.quotation.blanked rest).takeWhile isClauseChar = line.lead := by
    rw [isMiddle]
    exact takeWhile_stops (fun c mem => isClauseChar_of_isBlank (line.leadBlank c mem))
      line.quotation.not_isClauseChar _
  rw [clauseTail?, took, isClause_of_blank line.leadBlank]
  rfl

/-- No clause is read in an assignment, since the equals sign is no quote. -/
theorem clauseTail?_eq_none_of_require (line : Line) {name : Identifier}
    (tokens : line.statement.tokens = (Statement.importRequire name).tokens) (rest : List Char) :
    clauseTail? (line.middle ++ rest) = none := by
  obtain ⟨first, others, isLayout, isName, spells⟩ :=
    List.map_eq_cons_iff.1 (line.spells.trans tokens)
  obtain ⟨equals, layout, rfl, isEquals, -⟩ := List.map_eq_cons_iff.1 spells
  have text : line.middle ++ rest = line.lead ++ (name.text ++ first.gap) ++ '=' ::
      (equals.gap ++ (layout.flatMap Spaced.text ++ rest)) := by
    simp [middle, isLayout, Spaced.text, isName, isEquals, Token.text, Sign.char]
  have chars : ∀ c ∈ line.lead ++ (name.text ++ first.gap), isClauseChar c = true := by
    intro c mem
    simp only [List.mem_append] at mem
    rcases mem with mem | mem | mem
    · exact isClauseChar_of_isBlank (line.leadBlank c mem)
    · exact isClauseChar_of_isNameChar (name.isNameChar c mem)
    · exact isClauseChar_of_isBlank (first.blank c mem)
  rw [text, clauseTail?, dropWhile_stops chars rfl, specifier?_eq_none rfl]
  exact ite_self none

/-- No other form is recognised. -/
theorem tail?_other (line : Line) (rest : List Char) {form : Form}
    (keyword : form.keyword = line.statement.form.keyword) (differ : form ≠ line.statement.form) :
    form.tail? (line.middle ++ line.quotation.blanked rest) = none := by
  have keywordsDiffer : "export" ≠ "import" := by decide
  cases isStatement : line.statement with
  | importFrom clause =>
    rw [isStatement] at keyword differ
    have inClause : ∀ token ∈ line.statement.tokens, token.inClause = true :=
      isStatement ▸ inClause_importFrom clause
    cases form with
    | clause => exact absurd rfl differ
    | effect => exact effect_eq_none line (by simp [isStatement, Statement.tokens]) _
    | reexport => exact absurd keyword keywordsDiffer
    | require => exact requireTail?_eq_none line inClause rest
  | importEffect =>
    rw [isStatement] at keyword differ
    have noTokens : line.statement.tokens = [] := congrArg Statement.tokens isStatement
    cases form with
    | clause => exact clauseTail?_eq_none_of_effect line noTokens rest
    | effect => exact absurd rfl differ
    | reexport => exact absurd keyword keywordsDiffer
    | require => exact requireTail?_eq_none line (by simp [noTokens]) rest
  | exportFrom passed =>
    rw [isStatement] at keyword differ
    cases form with
    | reexport => exact absurd rfl differ
    | clause => exact absurd keyword.symm keywordsDiffer
    | effect => exact absurd keyword.symm keywordsDiffer
    | require => exact absurd keyword.symm keywordsDiffer
  | importRequire name =>
    rw [isStatement] at keyword differ
    cases form with
    | clause => exact clauseTail?_eq_none_of_require line (congrArg Statement.tokens isStatement) _
    | effect => exact effect_eq_none line (by simp [isStatement, Statement.tokens]) _
    | reexport => exact absurd keyword keywordsDiffer
    | require => exact absurd rfl differ

/-- Where a line starts its statement is recognised, and by its own form only. -/
theorem recognise?_line (line : Line) (rest : List Char) (form : Form) :
    form.recognise? (line.masked ++ rest) =
      if form = line.statement.form then some (line.recognised rest) else none := by
  rw [masked_append]
  by_cases same : form = line.statement.form
  · rw [if_pos same, same, recognise?_keyword, tail?_form]
  · rw [if_neg same]
    by_cases keyword : form.keyword = line.statement.form.keyword
    · rw [← keyword, recognise?_keyword, tail?_other line _ keyword same]
    · exact recognise?_other keyword _

end Line

end ImportCycles.Source.Grammar
