import ImportCycles.Proofs.ScannedPrograms
import ImportCycles.Proofs.StatementPatterns

/-! # No statement is dropped

The keyword tells re-exports from imports, and among imports the first character that stands in no
clause tells the form: an equals sign, or a quote behind a clause, or a quote behind blanks. So two
forms never match at one place. A match is never empty, so the matches of one form start at
different places as well, and leaving out statements that start where another one does leaves out
nothing.
-/

namespace ImportCycles.Source

open Text (isBlank isWord skipBlanks byteLength byteLength_append)
open Grammar (lastChar)

/-! ### At most one form at every place -/

/-- The form that an import can have at most, by what follows its keyword. -/
def importForm? (text : List Char) : Option Form :=
  match (text.dropWhile isClauseChar).head? with
  | none => none
  | some c =>
    if c = '=' then some .require
    else if isClause (text.takeWhile isClauseChar) then some .clause else some .effect

theorem exists_quote_of_specifier? {text : List Char} {found : Recognised}
    (recognised : specifier? text = some found) :
    ∃ c, text.head? = some c ∧ isSpecifierQuote c = true ∧ c ≠ '=' := by
  obtain ⟨rest, opens, -, -, -⟩ := specifier?_eq_some.1 recognised
  refine ⟨_, rfl, opens, ?_⟩
  rintro rfl
  exact absurd opens (by decide)

theorem importForm?_of_tail? {form : Form} (isImport : form.keyword = Form.clause.keyword)
    {text : List Char} {found : Recognised} (recognised : form.tail? text = some found) :
    importForm? text = some form := by
  cases form with
  | reexport => exact absurd isImport (by decide)
  | clause =>
    simp only [Form.tail?, clauseTail?] at recognised
    split at recognised
    · rename_i clause
      obtain ⟨c, head, -, notEquals⟩ := exists_quote_of_specifier? recognised
      simp [importForm?, head, notEquals, clause]
    · cases recognised
  | effect =>
    obtain ⟨gap, split, blank⟩ := exists_gap text
    obtain ⟨c, head, -, notEquals⟩ := exists_quote_of_specifier? recognised
    have chars : ∀ c ∈ gap, isClauseChar c = true := fun c mem =>
      Grammar.isClauseChar_of_isBlank (blank c mem)
    obtain ⟨took, left⟩ := clauseTail?_append chars (specifier?_eq_some.1 recognised)
    rw [← split] at took left
    simp [importForm?, took, left, head, notEquals, Grammar.Line.isClause_of_blank blank]
  | require =>
    rw [importForm?, Grammar.equals_of_requireTail? recognised]
    rfl

/-- Two forms never match at one place. -/
theorem form_unique {form other : Form} {text : List Char} {found found' : Recognised}
    (recognised : form.recognise? text = some found)
    (recognised' : other.recognise? text = some found') : form = other := by
  obtain ⟨after, word, tail⟩ := Option.bind_eq_some_iff.1 recognised
  have split := word?_eq_some.1 word
  subst split
  have keyword : other.keyword = form.keyword := by
    by_contra differ
    rw [Grammar.recognise?_other differ] at recognised'
    cases recognised'
  rw [← keyword, Grammar.recognise?_keyword] at recognised'
  by_cases isImport : form.keyword = Form.clause.keyword
  · have isForm := importForm?_of_tail? isImport tail
    have isOther := importForm?_of_tail? (keyword.trans isImport) recognised'
    exact Option.some.inj (isForm.symm.trans isOther)
  · cases form <;> cases other <;>
      first | rfl | exact absurd rfl isImport | exact absurd keyword (by decide)

theorem match_unique {form other : Form} {before : Option Char} {text : List Char}
    {found found' : Recognised} (isMatch : form.Match before text found)
    (isMatch' : other.Match before text found') : form = other ∧ found = found' := by
  obtain ⟨-, recognised⟩ := match_iff.1 isMatch
  obtain ⟨-, recognised'⟩ := match_iff.1 isMatch'
  have same := form_unique recognised recognised'
  subst same
  exact ⟨rfl, Option.some.inj (recognised.symm.trans recognised')⟩

/-! ### Matches one after another -/

/-- The matches of a form in a text that starts at byte `offset` behind the character `before`: each
is the first one behind the match before it. -/
inductive Successive (form : Form) : Option Char → Nat → List Char → List Occurrence → Prop
  | stop (before : Option Char) (offset : Nat) : Successive form before offset [] []
  | pass {before : Option Char} {offset : Nat} {c : Char} {rest : List Char}
      {later : List Occurrence} (none : ∀ found, ¬ form.Match before (c :: rest) found)
      (next : Successive form (some c) (offset + c.utf8Size) rest later) :
      Successive form before offset (c :: rest) later
  | hit {before : Option Char} {offset : Nat} {text read : List Char} {found : Recognised}
      {later : List Occurrence} (isMatch : form.Match before text found)
      (split : text = read ++ found.rest)
      (next : Successive form (lastOf before read) (offset + byteLength read) found.rest later) :
      Successive form before offset text (found.occurrence text offset :: later)

theorem Quoted.exists_read {front back : Pattern} {before : Option Char} {text : List Char}
    {found : Recognised} (quoted : Quoted front back before text found) :
    ∃ c read, text = c :: (read ++ found.rest) := by
  obtain ⟨rest, -, -, -, -, -, -⟩ := quoted
  rename_i read content tail opening closing
  cases read with
  | nil => exact ⟨opening, content ++ closing :: tail, by simp⟩
  | cons c read => exact ⟨c, read ++ opening :: (content ++ closing :: tail), by simp⟩

theorem lastChar_eq (before : Option Char) (read : List Char) :
    lastChar before read = lastOf before read := by
  induction read generalizing before with
  | nil => rfl
  | cons c read ih =>
    rw [← List.singleton_append, Grammar.lastChar_append, lastOf_append, ih]
    rfl

theorem occurrencesFrom_hit {form : Form} {before : Option Char} {c : Char} {read : List Char}
    {found : Recognised} (starts : startsWord before = true)
    (recognised : form.recognise? (c :: (read ++ found.rest)) = some found) (offset : Nat) :
    occurrencesFrom form before offset 0 (c :: (read ++ found.rest)) =
      found.occurrence (c :: (read ++ found.rest)) offset ::
        occurrencesFrom form (lastOf before (c :: read)) (offset + byteLength (c :: read)) 0
          found.rest := by
  have length : (read ++ found.rest).length - found.rest.length = read.length := by simp
  have last : lastOf before (c :: read) = lastOf (some c) read := lastOf_append before [c] read
  simp only [occurrencesFrom, starts, if_true, recognised, length, Grammar.occurrencesFrom_skip,
    lastChar_eq, last, byteLength, Nat.add_assoc]

theorem successive_occurrencesFrom (form : Form) (before : Option Char) (offset : Nat)
    (text : List Char) :
    Successive form before offset text (occurrencesFrom form before offset 0 text) := by
  -- a match takes many characters, so the induction is on the length of what is left
  induction size : text.length using Nat.strongRecOn generalizing text before offset with
  | ind n ih =>
    cases text with
    | nil => exact .stop before offset
    | cons c rest =>
      by_cases matched : ∃ found, form.Match before (c :: rest) found
      · obtain ⟨found, isMatch⟩ := matched
        obtain ⟨starts, recognised⟩ := match_iff.1 isMatch
        obtain ⟨d, read, split⟩ := isMatch.exists_read
        have shorter : found.rest.length < n := by
          rw [← size, split]
          simp only [List.length_cons, List.length_append]
          omega
        have later := ih _ shorter (lastOf before (d :: read)) (offset + byteLength (d :: read))
          found.rest rfl
        rw [split] at recognised isMatch ⊢
        rw [occurrencesFrom_hit starts recognised]
        exact .hit isMatch rfl later
      · have none : ∀ found, ¬ form.Match before (c :: rest) found := not_exists.1 matched
        have notFound : startsWord before = true → form.recognise? (c :: rest) = Option.none :=
          fun starts => Option.eq_none_iff_forall_ne_some.2 fun found recognised =>
            none found (match_iff.2 ⟨starts, recognised⟩)
        rw [Grammar.occurrencesFrom_cons notFound]
        exact .pass none (ih rest.length (by rw [← size]; simp) _ _ _ rfl)

/-! ### Starts -/

namespace Successive

variable {form other : Form} {before : Option Char} {offset : Nat} {text : List Char}
  {found found' : List Occurrence}

theorem exists_match (successive : Successive form before offset text found) :
    ∀ occurrence ∈ found, ∃ read rest recognised, text = read ++ rest ∧
      form.Match (lastOf before read) rest recognised ∧
      occurrence.start = offset + byteLength read := by
  induction successive with
  | stop before offset => exact nofun
  | pass none next ih =>
    rename_i before offset c rest later
    intro occurrence mem
    obtain ⟨read, rest, recognised, rfl, isMatch, start⟩ := ih occurrence mem
    have last : lastOf before (c :: read) = lastOf (some c) read := lastOf_append before [c] read
    refine ⟨c :: read, rest, recognised, rfl, last ▸ isMatch, ?_⟩
    rw [start, byteLength, Nat.add_assoc]
  | hit isMatch split next ih =>
    rename_i before offset text read recognised later
    intro occurrence mem
    rcases List.mem_cons.1 mem with rfl | mem
    · exact ⟨[], text, recognised, rfl, isMatch, rfl⟩
    · obtain ⟨read', rest, recognised', rest_eq, isMatch', start⟩ := ih occurrence mem
      refine ⟨read ++ read', rest, recognised', ?_, lastOf_append before read read' ▸ isMatch', ?_⟩
      · rw [split, rest_eq, List.append_assoc]
      · rw [start, byteLength_append, Nat.add_assoc]

theorem increasing (successive : Successive form before offset text found) :
    found.Pairwise (·.start < ·.start) := by
  induction successive with
  | stop before offset => exact .nil
  | pass none next ih => exact ih
  | hit isMatch split next ih =>
    rename_i before offset text read recognised later
    refine List.pairwise_cons.2 ⟨fun occurrence mem => ?_, ih⟩
    obtain ⟨read', rest, -, -, -, start⟩ := next.exists_match occurrence mem
    -- no match is empty
    obtain ⟨c, more, nonempty⟩ := isMatch.exists_read
    rw [split, ← List.cons_append] at nonempty
    have isRead := List.append_cancel_right nonempty
    have positive : 0 < byteLength read := by
      rw [isRead, byteLength]
      exact Nat.add_pos_left c.utf8Size_pos _
    rw [start]
    exact Nat.lt_of_lt_of_le (Nat.lt_add_of_pos_right positive) (Nat.le_add_right _ _)

/-- No match of one form starts where one of another form does. -/
theorem start_ne (successive : Successive form before offset text found)
    (successive' : Successive other before offset text found') (differ : form ≠ other) :
    ∀ a ∈ found, ∀ b ∈ found', a.start ≠ b.start := by
  intro a mem b mem' same
  obtain ⟨read, rest, recognised, split, isMatch, start⟩ := successive.exists_match a mem
  obtain ⟨read', rest', recognised', split', isMatch', start'⟩ := successive'.exists_match b mem'
  have sizes : byteLength read = byteLength read' := by omega
  have dropped : some rest = some rest' := by
    rw [← Text.dropBytes?_byteLength read rest, ← Text.dropBytes?_byteLength read' rest', ← split,
      ← split', sizes]
  cases Option.some.inj dropped
  have reads := List.append_cancel_right (split.symm.trans split')
  rw [← reads] at isMatch'
  exact differ (match_unique isMatch isMatch').1

end Successive

theorem successive_occurrences (form : Form) (masked : List Char) :
    Successive form none 0 masked (occurrences form masked) :=
  successive_occurrencesFrom form none 0 masked

theorem nodup_starts (masked : List Char) :
    ((Form.all.flatMap fun form => occurrences form masked).map Occurrence.start).Nodup := by
  rw [List.map_flatMap, List.nodup_flatMap]
  refine ⟨fun form _ => ?_, ?_⟩
  · exact Sorted.nodup_of_increasing (successive_occurrences form masked).increasing
  · have distinct : Form.all.Nodup := by decide
    refine distinct.imp fun {form other} differ => List.disjoint_left.2 fun start mem mem' => ?_
    obtain ⟨a, isFound, rfl⟩ := List.mem_map.1 mem
    obtain ⟨b, isFound', same⟩ := List.mem_map.1 mem'
    exact (successive_occurrences form masked).start_ne (successive_occurrences other masked) differ
      a isFound b isFound' same.symm

theorem allOccurrences_eq (masked : List Char) : allOccurrences masked =
    Sorted.sortBy (fun a b => a.start ≤ b.start)
      (Form.all.flatMap fun form => occurrences form masked) := by
  have perm := (Sorted.sortBy_perm (fun a b => decide (a.start ≤ b.start))
    (Form.all.flatMap fun form => occurrences form masked)).map Occurrence.start
  exact Sorted.dropRepeats_eq_self (perm.nodup_iff.2 (nodup_starts masked))

/-- Of all that the forms match in a masked source, one after another, nothing is dropped: no two
matches start at one place, so leaving out repeats leaves out nothing, and there are as many
statements as matches. -/
theorem no_statement_dropped (source : String) :
    (∀ before text form other found found', mask source.toList = before ++ text →
      Form.Match form (lastOf none before) text found →
      Form.Match other (lastOf none before) text found' → form = other ∧ found = found') ∧
    (∀ form, Successive form none 0 (mask source.toList)
      (occurrences form (mask source.toList))) ∧
    allOccurrences (mask source.toList) = Sorted.sortBy (fun a b => a.start ≤ b.start)
      (Form.all.flatMap fun form => occurrences form (mask source.toList)) ∧
    (imports source).length =
      (occurrences .clause (mask source.toList)).length +
        (occurrences .effect (mask source.toList)).length +
        (occurrences .reexport (mask source.toList)).length +
        (occurrences .require (mask source.toList)).length := by
  refine ⟨?_, fun form => successive_occurrences form _, allOccurrences_eq _, ?_⟩
  · intro before text form other found found' _ isMatch isMatch'
    exact match_unique isMatch isMatch'
  · rw [imports, List.length_map, allOccurrences_eq, (Sorted.sortBy_perm _ _).length_eq]
    simp only [Form.all, List.flatMap_cons, List.flatMap_nil, List.length_append, List.length_nil]
    omega

theorem no_statement_dropped_pair :
    Form.reexport.Match (lastOf none "import' ';".toList) "export *from' '".toList
      ⟨" '".toList, "'".toList, []⟩ ∧
    (∀ other found', Form.Match other (lastOf none "import' ';".toList) "export *from' '".toList
      found' → Form.reexport = other) ∧
    (imports "import'a';export *from'b'").length = 2 := by
  have masked : mask "import'a';export *from'b'".toList =
    "import' ';".toList ++ "export *from' '".toList := by decide +kernel
  have isMatch : Form.reexport.Match (lastOf none "import' ';".toList) "export *from' '".toList
      ⟨" '".toList, "'".toList, []⟩ := match_iff.2 ⟨by decide +kernel, by decide +kernel⟩
  obtain ⟨unique, -, -, count⟩ := no_statement_dropped "import'a';export *from'b'"
  refine ⟨isMatch, fun other found' isOther => (unique _ _ _ _ _ _ masked isMatch isOther).1, ?_⟩
  rw [count]
  decide +kernel

end ImportCycles.Source
