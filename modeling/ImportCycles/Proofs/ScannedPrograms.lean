import ImportCycles.Proofs.LineStarts
import ImportCycles.Proofs.Order

/-! # Every statement of a program is found

The search for a form passes over everything that does not start a word with a keyword, so it finds
the lines of that form, each where it starts and no other. Put together and in order, what the four
searches find are the statements of the program.
-/

namespace ImportCycles.Source.Grammar

open Text (isBlank isWord byteLength byteLength_append)

/-- The last character of a text behind the character `before`. -/
def lastChar (before : Option Char) (text : List Char) : Option Char :=
  text.foldl (fun _ c => some c) before

theorem lastChar_append (before : Option Char) (text other : List Char) :
    lastChar before (text ++ other) = lastChar (lastChar before text) other :=
  List.foldl_append

/-- Characters of a statement that was found are passed over. -/
theorem occurrencesFrom_skip (form : Form) (before : Option Char) (offset : Nat)
    (text rest : List Char) :
    occurrencesFrom form before offset text.length (text ++ rest) =
      occurrencesFrom form (lastChar before text) (offset + byteLength text) 0 rest := by
  induction text generalizing before offset with
  | nil => rfl
  | cons c text ih =>
    have step : occurrencesFrom form before offset (c :: text).length (c :: text ++ rest) =
      occurrencesFrom form (some c) (offset + c.utf8Size) text.length (text ++ rest) := rfl
    rw [step, ih, byteLength, Nat.add_assoc]
    rfl

/-- Nothing is found in a text in front of `rest`. -/
def Quiet (form : Form) (text rest : List Char) : Prop :=
  ∀ before offset, occurrencesFrom form before offset 0 (text ++ rest) =
    occurrencesFrom form (lastChar before text) (offset + byteLength text) 0 rest

section Quiet

variable {form : Form} {text other rest : List Char}

theorem quiet_nil : Quiet form [] rest := fun _ _ => rfl

theorem Quiet.append (quiet : Quiet form text (other ++ rest)) (later : Quiet form other rest) :
    Quiet form (text ++ other) rest := by
  intro before offset
  rw [List.append_assoc, quiet, later, lastChar_append, byteLength_append, Nat.add_assoc]

theorem occurrencesFrom_cons {c : Char} {before : Option Char}
    (none : startsWord before = true → form.recognise? (c :: rest) = none) (offset : Nat) :
    occurrencesFrom form before offset 0 (c :: rest) =
      occurrencesFrom form (some c) (offset + c.utf8Size) 0 rest := by
  by_cases starts : startsWord before
  · simp only [occurrencesFrom, starts, none starts, if_true]
  · simp only [occurrencesFrom, starts, Bool.false_eq_true, if_false]

theorem isWord_keyword (form : Form) : ∀ c ∈ form.keyword.toList, isWord c = true := by
  cases form <;> exact List.all_eq_true.1 rfl

/-- A statement starts with a character of a word. -/
theorem recognise?_cons {c : Char} (notWord : isWord c = false) :
    form.recognise? (c :: rest) = none := by
  refine Option.eq_none_iff_forall_ne_some.2 fun found recognised => ?_
  obtain ⟨tail, word, -⟩ := Option.bind_eq_some_iff.1 recognised
  have split := word?_eq_some.1 word
  have mem : c ∈ form.keyword.toList := by
    cases form <;> exact (List.cons.inj split).1 ▸ List.mem_cons_self
  simp [isWord_keyword form c mem] at notWord

theorem quiet_of_not_isWord (notWord : ∀ c ∈ text, isWord c = false) : Quiet form text rest := by
  induction text with
  | nil => exact quiet_nil
  | cons c text ih =>
    have none : form.recognise? (c :: (text ++ rest)) = none :=
      recognise?_cons (notWord c (by simp))
    have first : Quiet form [c] (text ++ rest) :=
      fun before offset => occurrencesFrom_cons (fun _ => none) offset
    exact first.append (ih fun d mem => notWord d (List.mem_cons_of_mem c mem))

/-- No statement starts within a word. -/
theorem occurrencesFrom_inside {b : Char} (inside : isWord b = true)
    (word : ∀ c ∈ text, isWord c = true) (offset : Nat) :
    occurrencesFrom form (some b) offset 0 (text ++ rest) =
      occurrencesFrom form (lastChar (some b) text) (offset + byteLength text) 0 rest := by
  induction text generalizing b offset with
  | nil => rfl
  | cons c text ih =>
    have notStart : startsWord (some b) = false := by simp [startsWord, inside]
    rw [List.cons_append, occurrencesFrom_cons (by simp [notStart]),
      ih (word c (by simp)) fun d mem => word d (List.mem_cons_of_mem c mem), byteLength,
      Nat.add_assoc]
    rfl

/-- A word at which nothing is recognised. -/
theorem quiet_word (word : ∀ c ∈ text, isWord c = true)
    (none : form.recognise? (text ++ rest) = none) : Quiet form text rest := by
  intro before offset
  cases text with
  | nil => rfl
  | cons c text =>
    have first : occurrencesFrom form before offset 0 (c :: (text ++ rest)) =
      occurrencesFrom form (some c) (offset + c.utf8Size) 0 (text ++ rest) :=
      occurrencesFrom_cons (fun _ => none) offset
    rw [List.cons_append, first,
      occurrencesFrom_inside (word c (by simp)) fun d mem => word d (List.mem_cons_of_mem c mem),
      byteLength, Nat.add_assoc]
    rfl

/-- Behind a keyword of a form comes no character of a word. -/
theorem tail?_word {c : Char} (word : isWord c = true) : form.tail? (c :: rest) = none := by
  have notBlank := isBlank_of_isWord word
  have noBlanks : blanks? (c :: rest) = none := by simp [blanks?, notBlank]
  cases form with
  | clause =>
    have took : (c :: rest).takeWhile isClauseChar = c :: rest.takeWhile isClauseChar :=
      List.takeWhile_cons_of_pos (isClauseChar_of_isNameChar (by simp [isNameChar, word]))
    have noClause : isClause ((c :: rest).takeWhile isClauseChar) = false := by
      refine Bool.eq_false_iff.2 fun clause => ?_
      obtain ⟨lead, before, last, gap, split, blank, -⟩ := isClause_eq_true.1 clause
      rw [took] at split
      rw [(List.cons.inj split).1, blank] at notBlank
      cases notBlank
    rw [Form.tail?, clauseTail?, noClause]
    rfl
  | effect =>
    have effect : specifier? (Text.skipBlanks (c :: rest)) = none := by
      rw [skipBlanks_cons notBlank]
      exact specifier?_eq_none (isSpecifierQuote_of_isWord word) rest
    exact effect
  | reexport =>
    rw [Form.tail?, reexportTail?, noBlanks]
    rfl
  | require =>
    rw [Form.tail?, requireTail?, noBlanks]
    rfl

/-- An identifier is no keyword, although it may start with one. -/
theorem recognise?_identifier (name : Identifier) (stops : ∀ c ∈ rest.head?, isWord c = false) :
    form.recognise? (name.text ++ rest) = none := by
  refine Option.eq_none_iff_forall_ne_some.2 fun found recognised => ?_
  obtain ⟨tail, word, recognised⟩ := Option.bind_eq_some_iff.1 recognised
  rcases List.append_eq_append_iff.1 (word?_eq_some.1 word) with
    ⟨more, isName, isTail⟩ | ⟨more, isKeyword, isRest⟩
  · -- the identifier goes on behind the keyword
    cases more with
    | nil => exact name.ne_keyword form (by simpa using isName)
    | cons c more =>
      have isWord := name.isWord c (by simp [isName])
      rw [isTail, List.cons_append, tail?_word isWord] at recognised
      cases recognised
  · -- the keyword goes on behind the identifier
    cases more with
    | nil => exact name.ne_keyword form (by simpa using isKeyword.symm)
    | cons c more =>
      have notWord := stops c (by simp [isRest])
      simp [isWord_keyword form c (by simp [isKeyword])] at notWord

theorem quiet_identifier (name : Identifier) (stops : ∀ c ∈ rest.head?, isWord c = false) :
    Quiet form name.text rest :=
  quiet_word name.isWord (recognise?_identifier name stops)

/-- A layout starts with the character of its first token if that is a sign. -/
theorem not_isWord_layout {layout : List Spaced} (stops : ∀ c ∈ rest.head?, isWord c = false)
    (noWord : ∀ spaced ∈ layout.head?, ∀ name, spaced.token ≠ .word name) :
    ∀ c ∈ (layout.flatMap Spaced.text ++ rest).head?, isWord c = false := by
  cases layout with
  | nil => exact stops
  | cons spaced layout =>
    cases kind : spaced.token with
    | word name => exact absurd kind (noWord spaced rfl name)
    | sign mark =>
      have text : (spaced :: layout).flatMap Spaced.text ++ rest =
          mark.char :: (spaced.gap ++ (layout.flatMap Spaced.text ++ rest)) := by
        simp [Spaced.text, kind, Token.text]
      rw [text]
      rintro _ ⟨⟩
      exact mark.not_isWord

/-- Nothing is found between a keyword and the quotation, whatever the words there are. -/
theorem quiet_layout {layout : List Spaced} (apart : layout.IsChain Spaced.Apart)
    (stops : ∀ c ∈ rest.head?, isWord c = false) :
    Quiet form (layout.flatMap Spaced.text) rest := by
  induction layout with
  | nil => exact quiet_nil
  | cons spaced layout ih =>
    obtain ⟨apartNext, apartLater⟩ := List.isChain_cons.1 apart
    rw [List.flatMap_cons]
    refine Quiet.append ?_ (ih apartLater)
    have gap : Quiet form spaced.gap (layout.flatMap Spaced.text ++ rest) :=
      quiet_of_not_isWord fun c mem => isWord_of_isBlank (spaced.blank c mem)
    refine Quiet.append ?_ gap
    cases kind : spaced.token with
    | sign mark =>
      refine quiet_of_not_isWord fun c mem => ?_
      rw [List.mem_singleton.1 mem]
      exact mark.not_isWord
    | word name =>
      refine quiet_identifier name ?_
      cases isGap : spaced.gap with
      | nil =>
        refine not_isWord_layout stops fun next isNext other isWord => ?_
        exact apartNext next isNext name other kind isWord isGap
      | cons c gap =>
        rintro _ ⟨⟩
        exact isWord_of_isBlank (spaced.blank c (by simp [isGap]))

end Quiet

namespace Line

variable {form : Form}

/-- Where a statement is found. -/
def occurrence (line : Line) (offset : Nat) : Occurrence where
  start := offset
  stop := offset + byteLength line.text
  specifierStart := offset + byteLength line.head
  specifierStop := offset + byteLength line.head + byteLength line.quotation.content

theorem occurrence_recognised (line : Line) (rest : List Char) (offset : Nat) :
    (line.recognised rest).occurrence (line.masked ++ rest) offset = line.occurrence offset := by
  have content : bytesBefore (line.masked ++ rest) (line.recognised rest).content =
      byteLength line.head :=
    bytesBefore_eq line.head (by simp [masked, recognised, Quotation.recognised])
  have closing : bytesBefore (line.masked ++ rest) (line.recognised rest).closing =
      byteLength line.head + byteLength line.quotation.content := by
    rw [bytesBefore_eq (line.head ++ List.replicate (byteLength line.quotation.content) ' ')
      (by simp [masked, recognised, Quotation.recognised]), byteLength_append,
      Text.byteLength_replicate_space]
  have stop : bytesBefore (line.masked ++ rest) (line.recognised rest).rest =
      byteLength line.text := (bytesBefore_eq line.masked rfl).trans line.byteLength_masked
  rw [Recognised.occurrence, content, closing, stop, occurrence, Nat.add_assoc]

theorem not_isWord_quotation (line : Line) :
    ∀ c ∈ line.quotation.blanked line.tail, isWord c = false := by
  have quote : isWord line.quotation.quote = false := by
    refine Bool.eq_false_iff.2 fun word => ?_
    have isQuote := line.quotation.isQuote
    simp [isSpecifierQuote_of_isWord word] at isQuote
  intro c mem
  simp only [Quotation.blanked, List.mem_cons, List.mem_append] at mem
  rcases mem with rfl | mem | rfl | mem
  · exact quote
  · rw [List.eq_of_mem_replicate mem]
    decide
  · exact quote
  · rcases line.tail_eq with none | ⟨gap, tail, blank⟩
    · simp [none] at mem
    · rw [tail] at mem
      rcases List.mem_append.1 mem with mem | mem
      · exact isWord_of_isBlank (blank c mem)
      · rw [List.mem_singleton.1 mem]
        decide

theorem quiet_terminator (line : Line) (rest : List Char) : Quiet form line.terminator rest := by
  refine quiet_of_not_isWord fun c mem => ?_
  have isEnd : c = ';' ∨ c = '\n' := by
    unfold terminator at mem
    split at mem
    · simpa using mem
    · exact .inr (List.mem_singleton.1 mem)
  rcases isEnd with rfl | rfl <;> decide

theorem lastChar_terminator (line : Line) (before : Option Char) :
    lastChar before line.terminator = some '\n' := by
  unfold terminator
  split <;> rfl

/-- The search for another form passes over a line. -/
theorem quiet_masked (line : Line) (differ : form ≠ line.statement.form) (rest : List Char) :
    Quiet form line.masked rest := by
  have masked : line.masked = line.statement.form.keyword.toList ++
      (line.lead ++ (line.layout.flatMap Spaced.text ++ line.quotation.blanked line.tail)) := by
    simp [Line.masked, head, middle, Quotation.blanked]
  have none := line.recognise?_line rest form
  rw [if_neg differ, masked, List.append_assoc] at none
  rw [masked]
  refine Quiet.append (quiet_word (isWord_keyword _) none) ?_
  refine Quiet.append (quiet_of_not_isWord fun c mem => isWord_of_isBlank (line.leadBlank c mem)) ?_
  refine Quiet.append (quiet_layout line.apart ?_) (quiet_of_not_isWord line.not_isWord_quotation)
  rintro _ ⟨⟩
  exact line.not_isWord_quotation _ (by simp [Quotation.blanked])

/-- The search for the form of a line finds its statement. -/
theorem occurrencesFrom_masked (line : Line) {before : Option Char}
    (starts : startsWord before = true) (offset : Nat) (rest : List Char) :
    occurrencesFrom line.statement.form before offset 0 (line.masked ++ rest) =
      line.occurrence offset :: occurrencesFrom line.statement.form (lastChar before line.masked)
        (offset + byteLength line.text) 0 rest := by
  have some := line.recognise?_line rest line.statement.form
  rw [if_pos rfl] at some
  rw [← line.occurrence_recognised rest, ← line.byteLength_masked]
  obtain ⟨c, masked, isMasked⟩ : ∃ c masked, line.masked = c :: masked :=
    List.exists_cons_of_ne_nil (by simp [Line.masked, head])
  rw [isMasked, List.cons_append] at some ⊢
  have skip : (masked ++ rest).length - (line.recognised rest).rest.length = masked.length := by
    rw [List.length_append]
    exact Nat.add_sub_cancel _ _
  rw [occurrencesFrom]
  simp only [starts, if_true, some, skip]
  rw [occurrencesFrom_skip, byteLength, Nat.add_assoc]
  rfl

/-- Of a line the search finds the statement, if it is of the form that is searched for. -/
theorem occurrencesFrom_line (line : Line) {before : Option Char}
    (starts : startsWord before = true) (offset : Nat) (rest : List Char) :
    occurrencesFrom form before offset 0 (line.masked ++ (line.terminator ++ rest)) =
      (if line.statement.form = form then [line.occurrence offset] else []) ++
        occurrencesFrom form (some '\n') (offset + byteLength (line.text ++ line.terminator)) 0
          rest := by
  have size : offset + byteLength line.text + byteLength line.terminator =
      offset + byteLength (line.text ++ line.terminator) := by
    rw [byteLength_append, Nat.add_assoc]
  by_cases same : line.statement.form = form
  · subst same
    rw [if_pos rfl, line.occurrencesFrom_masked starts, line.quiet_terminator rest,
      lastChar_terminator, size]
    rfl
  · rw [if_neg same, line.quiet_masked (Ne.symm same), line.quiet_terminator rest,
      lastChar_terminator, byteLength_masked, size]
    rfl

end Line

/-- The search for a form finds the lines of that form. -/
theorem occurrencesFrom_program (form : Form) {before : Option Char}
    (starts : startsWord before = true) (offset : Nat) (lines : List Line) :
    occurrencesFrom form before offset 0
        (lines.flatMap fun line => line.masked ++ line.terminator) =
      ((placed offset lines).filter fun place => place.2.statement.form = form).map
        fun place => place.2.occurrence place.1 := by
  induction lines generalizing before offset with
  | nil => rfl
  | cons line lines ih =>
    -- a line ends with a line feed, so the next one starts a word again
    rw [List.flatMap_cons, List.append_assoc, line.occurrencesFrom_line starts, ih rfl, placed,
      List.filter_cons]
    by_cases same : line.statement.form = form
    · simp [same]
    · simp [same]

/-- Searching for each form in turn loses nothing and finds nothing twice. -/
theorem flatMap_filter_perm {α : Type} (form : α → Form) (list : List α) :
    (Form.all.flatMap fun kind => list.filter fun a => form a = kind).Perm list := by
  induction list with
  | nil => exact .refl _
  | cons a list ih =>
    -- `a` is met in the search for its own form, behind all that the searches before it found
    simp only [Form.all, List.flatMap_cons, List.flatMap_nil, List.append_nil, List.filter_cons]
      at ih ⊢
    cases kind : form a with
    | clause => simpa using ih
    | effect => simpa using List.perm_middle.trans (ih.cons a)
    | reexport =>
      simpa using ((List.perm_middle.append_left _).trans List.perm_middle).trans (ih.cons a)
    | require =>
      simpa using (((List.perm_middle.append_left _).append_left _).trans
        ((List.perm_middle.append_left _).trans List.perm_middle)).trans (ih.cons a)

theorem placed_increasing (offset : Nat) (lines : List Line) :
    (∀ place ∈ placed offset lines, offset ≤ place.1) ∧
      (placed offset lines).Pairwise (·.1 < ·.1) := by
  induction lines generalizing offset with
  | nil => exact ⟨nofun, .nil⟩
  | cons line lines ih =>
    obtain ⟨above, increasing⟩ := ih (offset + byteLength (line.text ++ line.terminator))
    have positive : 0 < byteLength (line.text ++ line.terminator) := by
      have ended : 0 < byteLength line.terminator := by
        unfold Line.terminator
        split <;> decide
      rw [byteLength_append]
      omega
    refine ⟨?_, List.pairwise_cons.2 ⟨?_, increasing⟩⟩
    · intro place mem
      rcases List.mem_cons.1 mem with rfl | mem
      · exact Nat.le_refl _
      · have := above place mem
        omega
    · intro place mem
      have := above place mem
      dsimp only
      omega

theorem allOccurrences_program (lines : List Line) :
    allOccurrences (mask (program lines)) =
      (placed 0 lines).map fun place => place.2.occurrence place.1 := by
  have found : (Form.all.flatMap fun form => occurrences form (mask (program lines))) =
      (Form.all.flatMap fun form => (placed 0 lines).filter fun place =>
        place.2.statement.form = form).map fun place => place.2.occurrence place.1 := by
    rw [List.map_flatMap, mask_program]
    exact List.flatMap_congr fun form _ => occurrencesFrom_program form rfl 0 lines
  have increasing : ((placed 0 lines).map fun place => place.2.occurrence place.1).Pairwise
      (·.start < ·.start) := List.pairwise_map.2 (placed_increasing 0 lines).2
  rw [allOccurrences, found, Sorted.sortBy_eq_of_perm ((flatMap_filter_perm _ _).map _) increasing,
    Sorted.dropRepeats_eq_self (Sorted.nodup_of_increasing increasing)]

/-- The statement of a line that starts at a byte of a source. -/
def Line.imported (line : Line) (source : List Char) (offset : Nat) : ImportStatement where
  specifier := String.ofList line.quotation.content
  location := ⟨offset, byteLength line.text, (Text.position source offset).1,
    (Text.position source offset).2⟩

theorem exists_split_of_mem_placed {offset : Nat} {lines : List Line} {place : Nat × Line}
    (mem : place ∈ placed offset lines) :
    ∃ before after, program lines = before ++ (place.2.text ++ after) ∧
      place.1 = offset + byteLength before := by
  induction lines generalizing offset with
  | nil => cases mem
  | cons line lines ih =>
    rw [program, List.flatMap_cons, List.append_assoc]
    rcases List.mem_cons.1 mem with rfl | mem
    · exact ⟨[], _, rfl, rfl⟩
    · obtain ⟨before, after, split, start⟩ := ih mem
      refine ⟨line.text ++ line.terminator ++ before, after, ?_, ?_⟩
      · rw [program] at split
        rw [split]
        simp only [List.append_assoc]
      · rw [start, byteLength_append _ before, Nat.add_assoc]

theorem statementAt_occurrence {lines : List Line} {place : Nat × Line}
    (mem : place ∈ placed 0 lines) :
    statementAt (program lines) (place.2.occurrence place.1) =
      place.2.imported (program lines) place.1 := by
  obtain ⟨before, after, split, start⟩ := exists_split_of_mem_placed mem
  obtain ⟨offset, line⟩ := place
  rw [Nat.zero_add] at start
  subst start
  have cut : program lines = before ++ line.head ++
      (line.quotation.content ++ (line.quotation.quote :: line.tail ++ after)) := by
    rw [split]
    simp [Line.text]
  have slice := Text.slice?_byteLength (before ++ line.head) line.quotation.content
    (line.quotation.quote :: line.tail ++ after)
  rw [← cut, byteLength_append] at slice
  simp only [statementAt, Line.occurrence, Line.imported, slice, Option.getD_some,
    Nat.add_sub_cancel_left]

/-- Scanning a program finds the statement of every line, in order, and nothing else. Its specifier
is what the line quotes, and it reaches from the keyword to the end of the statement. -/
theorem imports_program (lines : List Line) :
    imports (String.ofList (program lines)) =
      (placed 0 lines).map fun place => place.2.imported (program lines) place.1 := by
  rw [imports, String.toList_ofList, allOccurrences_program, List.map_map]
  exact List.map_congr_left fun place mem => statementAt_occurrence mem

example : program [{
    statement := .importRequire typeWord
    lead := [' '], leadBlank := List.all_eq_true.1 rfl, leadNonempty := nofun
    layout := [⟨.word typeWord, [], nofun⟩, ⟨.sign .equals, [' '], List.all_eq_true.1 rfl⟩,
      ⟨.word requireWord, [], nofun⟩, ⟨.sign .openParenthesis, [], nofun⟩]
    spells := rfl
    apart := by simp [Spaced.Apart]
    quotation := ⟨'"', ['a'], rfl, nofun, by simp [escape]⟩
    tail := [')'], ends := ⟨[], rfl, nofun⟩
    semicolon := true }] = "import type= require(\"a\");\n".toList := by decide

end ImportCycles.Source.Grammar
