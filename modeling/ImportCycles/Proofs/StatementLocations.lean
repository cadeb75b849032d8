import ImportCycles.Proofs.LinePositions
import ImportCycles.Proofs.LiteralSpecifiers
import ImportCycles.Proofs.ReadingBack
import ImportCycles.Source.Checked

/-! # Where statements stand

Statements are found in the masked text, and their places are used in the source. Where masking
starts a round, the source has as many bytes before that place as the masked text, and the ends of a
statement and of its specifier are such places. So each cut falls between two characters of the
source. What is cut out starts with the keyword, because the letters of the keyword are signs of the
code and stand in the source as they are.
-/

namespace ImportCycles

namespace Source

open Text (byteLength byteLength_append mapM_eq_some_map)

/-- Signs that masking shows are in the source. -/
theorem Masker.text_eq_of_signs {text word after : List Char}
    (masked : (Masker.mk .code text).masked = word ++ after)
    (signs : ∀ c ∈ word, isSign c = true) : ∃ rest, text = word ++ rest := by
  induction word generalizing text with
  | nil => exact ⟨text, rfl⟩
  | cons c word ih =>
    have atOnce : (Masker.mk .code text).masked = [] ++ c :: (word ++ after) := masked
    obtain ⟨rest, run, next⟩ :=
      Masker.exists_run_to_sign (Masker.regular_code text) atOnce (signs c (by simp))
    -- nothing is written before the sign, so nothing is read
    obtain ⟨read, split, size⟩ := run.exists_read
    obtain rfl := Text.byteLength_eq_zero size
    obtain rfl : text = c :: rest := split
    have behind : (Masker.mk .code rest).masked = word ++ after := by
      rw [Masker.masked_of_next? next] at masked
      exact (List.cons.inj masked).2
    obtain ⟨rest, rfl⟩ := ih behind fun d mem => signs d (List.mem_cons_of_mem _ mem)
    exact ⟨rest, rfl⟩

theorem isSign_keyword (form : Form) : ∀ c ∈ form.keyword.toList, isSign c = true := by
  cases form <;> exact List.all_eq_true.1 rfl

namespace Division

theorem fromStatement_eq (d : Division) : d.fromStatement = d.statement ++ d.after := by
  simp [fromStatement, fromOpening, fromClosing, statement]

theorem source_eq (d : Division) : d.source = d.before ++ (d.statement ++ d.after) := by
  rw [source, fromStatement_eq]

/-- The specifier is cut out of the source by the offsets of its ends. -/
theorem slice?_content (d : Division) :
    Text.slice? d.source (byteLength d.before + byteLength (d.head ++ [d.quote]))
      (byteLength d.before + byteLength (d.head ++ d.quote :: d.content)) = some d.content := by
  have cut : d.source = d.before ++ (d.head ++ [d.quote]) ++ (d.content ++ d.fromClosing) := by
    simp [source, fromStatement, fromOpening]
  have stop : byteLength d.before + byteLength (d.head ++ d.quote :: d.content) =
      byteLength (d.before ++ (d.head ++ [d.quote])) + byteLength d.content := by
    simp only [byteLength_append, byteLength]
    omega
  rw [cut, stop, ← byteLength_append]
  exact Text.slice?_byteLength _ _ _

/-- Where the masked text from a statement on starts with a keyword, the statement does. -/
theorem IsLexical.keyword_prefix {d : Division} (lexical : d.IsLexical) {form : Form}
    {read rest : List Char} (masked : mask d.source = read ++ (form.keyword.toList ++ rest))
    (size : byteLength d.before = byteLength read) : form.keyword.toList <+: d.statement := by
  obtain ⟨written, run⟩ := lexical.starts
  obtain ⟨before, split, same⟩ := run.exists_read
  obtain rfl : d.before = before := List.append_cancel_right split
  have shown := (Text.append_inj_of_byteLength (run.masked_eq.symm.trans masked)
    (same.symm.trans size)).2
  obtain ⟨more, text⟩ := Masker.text_eq_of_signs shown (isSign_keyword form)
  rw [fromStatement_eq] at text
  rcases List.prefix_or_prefix_of_prefix (List.prefix_append d.statement d.after)
    (text ▸ List.prefix_append form.keyword.toList more) with within | starts
  · -- the statement has a quote in it, and a keyword has none
    have mem : d.quote ∈ d.statement := by simp [statement]
    have sign := isSign_keyword form d.quote (within.subset mem)
    simp [isSign, startsLiteral_of_isSpecifierQuote lexical.isQuote] at sign
  · exact starts

end Division

/-- An occurrence of a form in the masked text, at a division of the source. -/
structure IsAt (found : Occurrence) (d : Division) : Prop where
  start : found.start = byteLength d.before
  stop : found.stop = found.start + byteLength d.statement
  content : Text.slice? d.source found.specifierStart found.specifierStop = some d.content
  keyword : ∃ form : Form, form.keyword.toList <+: d.statement

theorem exists_isAt {source : List Char} {form : Form} {found : Occurrence}
    (mem : found ∈ occurrences form (mask source)) :
    ∃ d : Division, d.source = source ∧ IsAt found d := by
  obtain ⟨read, rest, recognised, split, isRecognised, same⟩ := exists_of_mem_occurrencesFrom mem
  rw [Nat.zero_add] at same
  subst same
  obtain ⟨quotes, first, others, start, shown⟩ := quotes_of_recognise? isRecognised
  obtain ⟨d, rfl, lexical, before, opening, closing, stop⟩ :=
    exists_division split quotes (start ▸ rfl) shown
  obtain ⟨text, word, -⟩ := Option.bind_eq_some_iff.1 isRecognised
  have masked : mask d.source = read ++ (form.keyword.toList ++ text) := by
    rw [split, word?_eq_some.1 word]
  refine ⟨d, rfl, before.symm, ?_, ?_, form, lexical.keyword_prefix masked before⟩
  · exact congrArg _ stop.symm
  · have slice := d.slice?_content
    rwa [before, opening, closing] at slice

/-! ### The checked scan -/

theorem exists_isAt_of_mem {source : List Char} {found : Occurrence}
    (mem : found ∈ Form.all.flatMap fun form => occurrences form (mask source)) :
    ∃ d : Division, d.source = source ∧ IsAt found d := by
  obtain ⟨form, -, mem⟩ := List.mem_flatMap.1 mem
  exact exists_isAt mem

/-- What `statementAt` makes of an occurrence, in two steps: the specifier first. -/
def specifierAt (source : List Char) (found : Occurrence) : String :=
  String.ofList ((Text.slice? source found.specifierStart found.specifierStop).getD [])

theorem withSpecifier?_eq {found : Occurrence} {d : Division} (isAt : IsAt found d) :
    withSpecifier? d.source found = some (found, specifierAt d.source found) := by
  rw [withSpecifier?, specifierAt, isAt.content]
  rfl

theorem located?_eq {found : Occurrence} {d : Division} (isAt : IsAt found d) :
    located? (.ofText d.source) d.source (found, specifierAt d.source found) =
      some (statementAt d.source found) := by
  have looked := Text.Lines.position?_eq d.before d.fromStatement
  rw [← isAt.start] at looked
  rw [located?, Division.source, looked]
  rfl

/-- No cut and no look-up of a scan fails. -/
theorem imports?_eq (source : String) : imports? source = some (imports source) := by
  have cut : (Form.all.flatMap fun form => occurrences form (mask source.toList)).mapM
      (withSpecifier? source.toList) =
      some ((Form.all.flatMap fun form => occurrences form (mask source.toList)).map
        fun found => (found, specifierAt source.toList found)) := by
    refine mapM_eq_some_map fun found mem => ?_
    obtain ⟨d, isSource, isAt⟩ := exists_isAt_of_mem mem
    exact isSource ▸ withSpecifier?_eq isAt
  have located : (allOccurrences (mask source.toList)).mapM (fun found =>
      located? (.ofText source.toList) source.toList (found, specifierAt source.toList found)) =
      some (imports source) := by
    refine mapM_eq_some_map fun found mem => ?_
    obtain ⟨d, isSource, isAt⟩ := exists_isAt_of_mem (mem_of_mem_allOccurrences mem)
    exact isSource ▸ located?_eq isAt
  simp only [imports?, cut, Option.bind_eq_bind, Option.bind_some, Sorted.sortBy_map,
    Sorted.dropRepeats_map, List.mapM_map]
  exact located

/-! ### Places in the source -/

theorem allOccurrences_increasing (masked : List Char) :
    (allOccurrences masked).Pairwise (·.start < ·.start) := by
  refine Sorted.dropRepeats_increasing (List.Pairwise.imp of_decide_eq_true ?_)
  refine Sorted.sortBy_pairwise ?_ ?_ _
  · intro a b notLe
    have := of_decide_eq_false notLe
    exact decide_eq_true (by omega)
  · intro a b c le le'
    exact decide_eq_true (Nat.le_trans (of_decide_eq_true le) (of_decide_eq_true le'))

/-- The place of a statement in a source, as one would find it by hand: the text of the statement
starts with a keyword, and lines and columns are counted in the text before it. -/
structure Spans (source : String) (place : Location) (before span after : String) : Prop where
  source_eq : source = before ++ span ++ after
  offset : place.offset = before.utf8ByteSize
  length : place.length = span.utf8ByteSize
  keyword : "import".toList <+: span.toList ∨ "export".toList <+: span.toList
  line : place.line = 1 + before.toList.count '\n'
  column : ∃ lines last, Text.LastLine before.toList lines last ∧ place.column = 1 + last.length

namespace Spans

variable {source before span after : String} {place : Location}

theorem stop_eq (spans : Spans source place before span after) :
    place.offset + place.length = (before ++ span).utf8ByteSize := by
  rw [spans.offset, spans.length, String.utf8ByteSize_append]

theorem stop_le (spans : Spans source place before span after) :
    place.offset + place.length ≤ source.utf8ByteSize := by
  have size : (before ++ span ++ after).utf8ByteSize =
      (before ++ span).utf8ByteSize + after.utf8ByteSize := String.utf8ByteSize_append
  rw [spans.stop_eq, spans.source_eq, size]
  exact Nat.le_add_right _ _

theorem isValid_start (spans : Spans source place before span after) :
    (String.Pos.Raw.mk place.offset).IsValid source := by
  refine String.Pos.Raw.isValid_iff_exists_append.2 ⟨before, span ++ after, ?_, ?_⟩
  · rw [spans.source_eq, String.append_assoc]
  · rw [spans.offset]
    rfl

theorem isValid_stop (spans : Spans source place before span after) :
    (String.Pos.Raw.mk (place.offset + place.length)).IsValid source := by
  refine String.Pos.Raw.isValid_iff_exists_append.2 ⟨before ++ span, after, spans.source_eq, ?_⟩
  rw [spans.stop_eq]
  rfl

end Spans

theorem exists_spans {source : String} {statement : ImportStatement}
    (mem : statement ∈ imports source) :
    ∃ before span after, Spans source statement.location before span after := by
  obtain ⟨found, isFound, rfl⟩ := List.mem_map.1 mem
  obtain ⟨d, isSource, isAt⟩ := exists_isAt_of_mem (mem_of_mem_allOccurrences isFound)
  obtain ⟨lines, last, divided⟩ := Text.exists_lastLine d.before
  have place : (statementAt source.toList found).location =
      ⟨byteLength d.before, byteLength d.statement, 1 + d.before.count '\n', 1 + last.length⟩ := by
    rw [statementAt, ← isSource, isAt.stop, Nat.add_sub_cancel_left, isAt.start, Division.source,
      divided.position_eq]
  rw [place]
  refine ⟨.ofList d.before, .ofList d.statement, .ofList d.after, ?_, ?_, ?_, ?_, ?_, ?_⟩
  · rw [← String.ofList_append, ← String.ofList_append, List.append_assoc, ← d.source_eq, isSource,
      String.ofList_toList]
  · exact (Text.byteLength_ofList _).symm
  · exact (Text.byteLength_ofList _).symm
  · obtain ⟨form, starts⟩ := isAt.keyword
    have span : (String.ofList d.statement).toList = d.statement := String.toList_ofList
    rw [span]
    cases form with
    | reexport => exact .inr starts
    | clause | effect | require => exact .inl starts
  · rw [String.toList_ofList]
  · rw [String.toList_ofList]
    exact ⟨lines, last, divided, rfl⟩

/-- No cut that a scan makes, whether for a specifier or for a column, leaves the source or falls
inside a character. The statements are in the order of the source, no two at one place. Each one
reaches from its keyword to a later place between two characters, and its line and column are those
that one would count. -/
theorem statements_located (source : String) :
    imports? source = some (imports source) ∧
      (imports source).Pairwise (·.location.offset < ·.location.offset) ∧
      ∀ statement ∈ imports source,
        statement.location.offset + statement.location.length ≤ source.utf8ByteSize ∧
        (String.Pos.Raw.mk statement.location.offset).IsValid source ∧
        (String.Pos.Raw.mk (statement.location.offset + statement.location.length)).IsValid source ∧
        ∃ before span after, Spans source statement.location before span after := by
  refine ⟨imports?_eq source, ?_, ?_⟩
  · exact List.pairwise_map.2 (allOccurrences_increasing _)
  · intro statement mem
    obtain ⟨before, span, after, spans⟩ := exists_spans mem
    exact ⟨spans.stop_le, spans.isValid_start, spans.isValid_stop, before, span, after, spans⟩

theorem statements_located_accented :
    ⟨"./ü", ⟨15, 13, 2, 9⟩⟩ ∈ imports "// ß\n/* é */ import './ü'" ∧
      15 + 13 ≤ "// ß\n/* é */ import './ü'".utf8ByteSize ∧
      ∃ before span after,
        Spans "// ß\n/* é */ import './ü'" ⟨15, 13, 2, 9⟩ before span after := by
  have found : ⟨"./ü", ⟨15, 13, 2, 9⟩⟩ ∈ imports "// ß\n/* é */ import './ü'" := by
    decide +kernel
  obtain ⟨inside, -, -, spans⟩ := (statements_located "// ß\n/* é */ import './ü'").2.2 _ found
  exact ⟨found, inside, spans⟩

end Source

end ImportCycles
