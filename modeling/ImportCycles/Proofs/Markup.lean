import ImportCycles.Proofs.ReadingBack
import ImportCycles.Report.Junit

/-! # Markup that is read back

Marked-up text is read in three steps: it is divided at the signs that open tags, each part is read
as a tag and the text behind it, and the tags are put together to elements, from the last tag to the
first. What was written is what is read, whatever the values and texts are, since none of the signs
that end a value or a tag is left in them.
-/

namespace ImportCycles.Report

/-! ### Entities -/

/-- The characters that are written as entities. -/
def markupSigns : List Char := ['&', '<', '>', '\x22', '\x27']

theorem escapeMarkupChar_eq_self {c : Char} (plain : c ∉ markupSigns) :
    escapeMarkupChar c = [c] := by
  simp only [markupSigns, List.mem_cons, List.not_mem_nil, or_false, not_or] at plain
  obtain ⟨ampersand, less, greater, quote, apostrophe⟩ := plain
  rw [escapeMarkupChar, if_neg ampersand, if_neg less, if_neg greater, if_neg quote,
    if_neg apostrophe]

theorem escapeMarkup_eq_self {text : List Char} (plain : ∀ c ∈ text, c ∉ markupSigns) :
    escapeMarkup text = text := by
  rw [escapeMarkup, List.flatMap_congr fun c mem => escapeMarkupChar_eq_self (plain c mem),
    List.flatMap_singleton']

theorem escapeMarkup_append (text other : List Char) :
    escapeMarkup (text ++ other) = escapeMarkup text ++ escapeMarkup other :=
  List.flatMap_append

/-- Of the signs, only the one that starts the entities is left. -/
theorem not_mem_escapeMarkup {sign : Char} (isSign : sign ∈ markupSigns) (other : sign ≠ '&')
    (text : List Char) : sign ∉ escapeMarkup text := by
  intro mem
  obtain ⟨c, _, inCode⟩ := List.mem_flatMap.1 mem
  by_cases special : c ∈ markupSigns
  · have left : (markupSigns.all fun c => (escapeMarkupChar c).all fun d =>
        d = '&' || d ∉ markupSigns) = true := by decide
    have inside := List.all_eq_true.1 (List.all_eq_true.1 left c special) sign inCode
    rw [Bool.or_eq_true, decide_eq_true_iff, decide_eq_true_iff] at inside
    exact inside.elim other fun absent => absent isSign
  · rw [escapeMarkupChar_eq_self special, List.mem_singleton] at inCode
    exact special (inCode ▸ isSign)

/-- The text that was written with entities. -/
def unescapeMarkup : List Char → List Char
  | '&' :: 'a' :: 'm' :: 'p' :: ';' :: rest => '&' :: unescapeMarkup rest
  | '&' :: 'l' :: 't' :: ';' :: rest => '<' :: unescapeMarkup rest
  | '&' :: 'g' :: 't' :: ';' :: rest => '>' :: unescapeMarkup rest
  | '&' :: 'q' :: 'u' :: 'o' :: 't' :: ';' :: rest => '\x22' :: unescapeMarkup rest
  | '&' :: 'a' :: 'p' :: 'o' :: 's' :: ';' :: rest => '\x27' :: unescapeMarkup rest
  | c :: rest => c :: unescapeMarkup rest
  | [] => []

theorem unescapeMarkup_cons {c : Char} (plain : c ≠ '&') (rest : List Char) :
    unescapeMarkup (c :: rest) = c :: unescapeMarkup rest := by
  simp [unescapeMarkup, plain]

theorem unescapeMarkup_escapeMarkupChar (c : Char) (rest : List Char) :
    unescapeMarkup (escapeMarkupChar c ++ rest) = c :: unescapeMarkup rest := by
  by_cases special : c ∈ markupSigns
  · simp only [markupSigns, List.mem_cons, List.not_mem_nil, or_false] at special
    rcases special with same | same | same | same | same
    all_goals
      subst same
      rfl
  · rw [escapeMarkupChar_eq_self special]
    refine unescapeMarkup_cons ?_ rest
    intro same
    subst same
    exact special (by decide)

theorem unescapeMarkup_escapeMarkup (text : List Char) :
    unescapeMarkup (escapeMarkup text) = text := by
  refine Text.read_write_of_singleton rfl escapeMarkup_append (fun c rest => ?_) text
  rw [escapeMarkup, List.flatMap_singleton, unescapeMarkup_escapeMarkupChar]

/-! ### Tags -/

/-- The keys and values in a tag. -/
abbrev Attributes := List (List Char × List Char)

/-- A tag, without its brackets. -/
inductive Tag where
  /-- The tag that starts an element; a short one is the whole element. -/
  | start (name : List Char) (attributes : Attributes) (short : Bool)
  | stop (name : List Char)
  deriving DecidableEq

/-- The attributes as they stand in a tag. -/
def writeAttributes (attributes : Attributes) : List Char :=
  attributes.flatMap fun (key, value) =>
    (' ' :: key ++ ['=']) ++ '\x22' :: (escapeMarkup value ++ ['\x22'])

/-- The end of a tag behind its attributes. -/
def tagEnd (short : Bool) : List Char :=
  if short then [' ', '/'] else []

/-- Is the tag with this end a short one? -/
def readEnd? (text : List Char) : Option Bool :=
  match text.dropWhile (· = ' ') with
  | [] => some false
  | ['/'] => some true
  | _ => none

/-- The key in what stands in front of a value. -/
def readKey? : List Char → Option (List Char)
  | ' ' :: text =>
    match Text.cut? ['='] text with
    | some (key, []) => some key
    | _ => none
  | _ => none

/-- The attributes in the parts of a tag between quotation marks, and whether the tag is short. -/
def readAttributes? : List (List Char) → Option (Attributes × Bool)
  | [] => none
  | [last] => (readEnd? last).map fun short => ([], short)
  | before :: value :: rest => do
    let key ← readKey? before
    let (attributes, short) ← readAttributes? rest
    return ((key, unescapeMarkup value) :: attributes, short)

/-- Names and keys are in small letters. -/
def Attributes.WellNamed (attributes : Attributes) : Prop :=
  (attributes.all fun entry => entry.1.all Char.isLower) = true

theorem Attributes.wellNamed_cons {entry : List Char × List Char} {attributes : Attributes} :
    Attributes.WellNamed (entry :: attributes) ↔
      entry.1.all Char.isLower = true ∧ attributes.WellNamed := by
  rw [WellNamed, List.all_cons, Bool.and_eq_true, WellNamed]

theorem Attributes.WellNamed.key {attributes : Attributes} (named : attributes.WellNamed)
    {entry : List Char × List Char} (mem : entry ∈ attributes) :
    entry.1.all Char.isLower = true :=
  List.all_eq_true.1 named entry mem

namespace Tag

/-- The tag between its brackets. -/
def write : Tag → List Char
  | start name attributes short => name ++ (writeAttributes attributes ++ tagEnd short)
  | stop name => '/' :: name

/-- The tag that is written between two brackets. The name ends at the first blank. -/
def read? : List Char → Option Tag
  | '/' :: name => some (stop name)
  | text => do
    let (attributes, short) ← readAttributes? ((text.dropWhile (· ≠ ' ')).splitOn '\x22')
    return start (text.takeWhile (· ≠ ' ')) attributes short

/-- The name and the keys are in small letters. -/
def WellNamed : Tag → Prop
  | start name attributes _ => name.all Char.isLower = true ∧ attributes.WellNamed
  | stop name => name.all Char.isLower = true

end Tag

theorem readKey?_write {key : List Char} (lower : key.all Char.isLower = true) :
    readKey? (' ' :: key ++ ['=']) = some key := by
  have cut : Text.cut? ['='] (key ++ ['=']) = some (key, []) :=
    Text.cut?_append (Text.not_mem_of_isLower rfl lower) [] []
  show (match Text.cut? ['='] (key ++ ['=']) with
    | some (key, []) => some key
    | _ => none) = some key
  rw [cut]

section Attributes

variable {attributes : Attributes}

/-- What stands in front of the value of an attribute ends at the quotation mark, and so does the
value. -/
theorem readAttributes?_write (named : attributes.WellNamed) (short : Bool) :
    readAttributes? ((writeAttributes attributes ++ tagEnd short).splitOn '\x22') =
      some (attributes, short) := by
  induction attributes with
  | nil =>
    cases short
    · rfl
    · rfl
  | cons entry attributes ih =>
    obtain ⟨key, value⟩ := entry
    obtain ⟨keyLower, later⟩ := Attributes.wellNamed_cons.1 named
    have before : '\x22' ∉ ' ' :: key ++ ['='] := by
      rw [List.cons_append, List.mem_cons, List.mem_append, List.mem_singleton, not_or, not_or]
      exact ⟨by decide, Text.not_mem_of_isLower rfl keyLower, by decide⟩
    have inside : '\x22' ∉ escapeMarkup value := not_mem_escapeMarkup (by decide) (by decide) value
    have divided : (writeAttributes ((key, value) :: attributes) ++ tagEnd short).splitOn '\x22' =
        (' ' :: key ++ ['=']) :: escapeMarkup value ::
          (writeAttributes attributes ++ tagEnd short).splitOn '\x22' := by
      have parts : writeAttributes ((key, value) :: attributes) ++ tagEnd short =
          (' ' :: key ++ ['=']) ++ '\x22' :: (escapeMarkup value ++
            '\x22' :: (writeAttributes attributes ++ tagEnd short)) := by
        simp [writeAttributes]
      rw [parts, List.splitOn_append_cons_self, List.splitOn_append_cons_self,
        List.splitOn_eq_singleton before, List.splitOn_eq_singleton inside]
      rfl
    rw [divided, readAttributes?, readKey?_write keyLower,
      ih later, unescapeMarkup_escapeMarkup]
    rfl

/-- A bracket in a value is written as an entity, and there is none in the names. -/
theorem not_mem_writeAttributes (named : attributes.WellNamed) {bracket : Char}
    (isBracket : bracket ∈ ['<', '>']) : bracket ∉ writeAttributes attributes := by
  have about : bracket.isLower = false ∧ bracket ∈ markupSigns ∧ bracket ≠ '&' ∧
      bracket ≠ ' ' ∧ bracket ≠ '=' ∧ bracket ≠ '\x22' := by
    rcases List.mem_pair.1 isBracket with rfl | rfl
    · decide
    · decide
  obtain ⟨notLower, isSign, notAmpersand, notBlank, notEqual, notQuote⟩ := about
  intro mem
  obtain ⟨⟨key, value⟩, entryMem, inEntry⟩ := List.mem_flatMap.1 mem
  simp only [List.mem_append, List.mem_cons, List.not_mem_nil, or_false] at inEntry
  rcases inEntry with ((same | inKey) | same) | same | inValue | same
  · exact notBlank same
  · exact Text.not_mem_of_isLower notLower (named.key entryMem) inKey
  · exact notEqual same
  · exact notQuote same
  · exact not_mem_escapeMarkup isSign notAmpersand value inValue
  · exact notQuote same

/-- What stands behind a name starts with a blank, if anything does. -/
theorem writeAttributes_starts (attributes : Attributes) (short : Bool) :
    writeAttributes attributes ++ tagEnd short = [] ∨
      ∃ more, writeAttributes attributes ++ tagEnd short = ' ' :: more := by
  cases attributes with
  | nil =>
    cases short
    · exact .inl rfl
    · exact .inr ⟨['/'], rfl⟩
  | cons entry attributes => exact .inr ⟨_, rfl⟩

end Attributes

namespace Tag

variable {tag : Tag}

theorem read?_start {name : List Char} {attributes : Attributes}
    (lower : name.all Char.isLower = true) (named : attributes.WellNamed) (short : Bool) :
    read? (name ++ (writeAttributes attributes ++ tagEnd short)) =
      some (start name attributes short) := by
  have inName : ∀ c ∈ name, decide (c ≠ ' ') = true := by
    intro c mem
    refine decide_eq_true fun same => ?_
    exact Text.not_mem_of_isLower rfl lower (same ▸ mem)
  have attributesRead := readAttributes?_write named short
  have starts := writeAttributes_starts attributes short
  generalize writeAttributes attributes ++ tagEnd short = behind at attributesRead starts ⊢
  have taken : behind.takeWhile (fun c => decide (c ≠ ' ')) = [] ∧
      behind.dropWhile (fun c => decide (c ≠ ' ')) = behind := by
    rcases starts with none | ⟨more, blank⟩
    · rw [none]
      exact ⟨rfl, rfl⟩
    · rw [blank]
      exact ⟨rfl, rfl⟩
  unfold read?
  split
  · rename_i rest isStop
    cases name with
    | nil =>
      rw [List.nil_append] at isStop
      simp [isStop] at starts
    | cons c name =>
      have slash := (List.cons.inj isStop).1
      have small := List.all_eq_true.1 lower c (List.mem_cons_self ..)
      rw [slash] at small
      exact absurd small (by decide)
  · rw [List.takeWhile_append_of_pos inName, List.dropWhile_append_of_pos inName, taken.1, taken.2,
      attributesRead, List.append_nil]
    rfl

theorem read?_write (named : tag.WellNamed) : read? tag.write = some tag := by
  cases tag with
  | start name attributes short => exact read?_start named.1 named.2 short
  | stop name => rfl

theorem not_mem_write (named : tag.WellNamed) {bracket : Char}
    (isBracket : bracket ∈ ['<', '>']) : bracket ∉ tag.write := by
  have about : bracket.isLower = false ∧ bracket ≠ '/' ∧ ∀ short, bracket ∉ tagEnd short := by
    rcases List.mem_pair.1 isBracket with rfl | rfl
    · decide
    · decide
  obtain ⟨notLower, notSlash, notEnd⟩ := about
  cases tag with
  | start name attributes short =>
    rw [write, List.mem_append, List.mem_append, not_or, not_or]
    exact ⟨Text.not_mem_of_isLower notLower named.1, not_mem_writeAttributes named.2 isBracket,
      notEnd short⟩
  | stop name =>
    rw [write, List.mem_cons, not_or]
    exact ⟨notSlash, Text.not_mem_of_isLower notLower named⟩

end Tag

/-! ### Pieces: tags with the text behind them -/

/-- A tag and the text up to the next one. -/
structure Piece where
  tag : Tag
  after : List Char
  deriving DecidableEq

namespace Piece

/-- The piece without the bracket that it starts with. -/
def write (piece : Piece) : List Char :=
  piece.tag.write ++ '>' :: escapeMarkup piece.after

/-- The tag up to the first closing bracket, and the text. -/
def read? (text : List Char) : Option Piece := do
  let (tag, after) ← Text.cut? ['>'] text
  let tag ← Tag.read? tag
  return ⟨tag, unescapeMarkup after⟩

/-- The pieces one after another. -/
def writeAll (pieces : List Piece) : List Char :=
  pieces.flatMap fun piece => '<' :: piece.write

/-- Reads the pieces in a text that starts with one. -/
def readAll? (text : List Char) : Option (List Piece) := do
  let pieces ← [[]].isPrefixOf? (text.splitOn '<')
  pieces.mapM read?

theorem read?_write {piece : Piece} (named : piece.tag.WellNamed) :
    read? piece.write = some piece := by
  have cut : Text.cut? ['>'] piece.write = some (piece.tag.write, escapeMarkup piece.after) :=
    Text.cut?_append (Tag.not_mem_write named (by decide)) [] _
  rw [read?, cut]
  show (Tag.read? piece.tag.write).bind (fun tag =>
    some ⟨tag, unescapeMarkup (escapeMarkup piece.after)⟩) = some piece
  rw [Tag.read?_write named, unescapeMarkup_escapeMarkup]
  rfl

theorem splitOn_writeAll {pieces : List Piece} (named : ∀ piece ∈ pieces, piece.tag.WellNamed)
    {lead : List Char} (none : '<' ∉ lead) :
    (lead ++ writeAll pieces).splitOn '<' = lead :: pieces.map write := by
  induction pieces generalizing lead with
  | nil =>
    show (lead ++ []).splitOn '<' = [lead]
    rw [List.append_nil, List.splitOn_eq_singleton none]
  | cons piece pieces ih =>
    have noBracket : '<' ∉ piece.write := by
      rw [write, List.mem_append, List.mem_cons, not_or, not_or]
      exact ⟨Tag.not_mem_write (named piece (List.mem_cons_self ..)) (by decide), by decide,
        not_mem_escapeMarkup (by decide) (by decide) piece.after⟩
    show (lead ++ '<' :: (piece.write ++ writeAll pieces)).splitOn '<' = _
    rw [List.splitOn_append_cons_self, List.splitOn_eq_singleton none,
      ih (fun later mem => named later (List.mem_cons_of_mem _ mem)) noBracket]
    rfl

theorem readAll?_writeAll {pieces : List Piece} (named : ∀ piece ∈ pieces, piece.tag.WellNamed) :
    readAll? (writeAll pieces) = some pieces := by
  have divided : (writeAll pieces).splitOn '<' = [] :: pieces.map write :=
    splitOn_writeAll named List.not_mem_nil
  rw [readAll?, divided]
  show (pieces.map write).mapM read? = some pieces
  rw [Text.mapM_map fun piece mem => read?_write (named piece mem), List.map_id']

end Piece

/-! ### Elements -/

/-- A row of elements. Each has a text behind its first tag, elements inside it and a text behind
its last tag. -/
inductive Markup where
  | done
  | element (name : List Char) (attributes : Attributes) (text : List Char) (inside : Markup)
      (after : List Char) (rest : Markup)
  deriving DecidableEq

namespace Markup

/-- The pieces that elements are written in. -/
def pieces : Markup → List Piece
  | done => []
  | element name attributes text inside after rest =>
    ⟨.start name attributes false, text⟩ :: (inside.pieces ++ ⟨.stop name, after⟩ :: rest.pieces)

/-- What is behind an element whose last tag was read. -/
structure Frame where
  name : List Char
  after : List Char
  rest : Markup

/-- Puts a piece in front of the elements that are behind it. -/
def put? (piece : Piece) : Markup × List Frame → Option (Markup × List Frame)
  | (behind, frames) =>
    match piece.tag, frames with
    | .stop name, frames => some (done, ⟨name, piece.after, behind⟩ :: frames)
    | .start name attributes true, frames =>
      some (element name attributes [] done piece.after behind, frames)
    | .start name attributes false, frame :: frames =>
      if frame.name = name then
        some (element name attributes piece.after behind frame.after frame.rest, frames)
      else none
    | .start _ _ false, [] => none

/-- Puts the pieces together, the last one first. -/
def build? : List Piece → Option (Markup × List Frame)
  | [] => some (done, [])
  | piece :: pieces => (build? pieces).bind (put? piece)

/-- Reads a document: a declaration and elements. All tags that stop an element must have been
started. -/
def read? (text : List Char) : Option Markup := do
  let text ← "<?".toList.isPrefixOf? text
  let (_, content) ← Text.cut? "?>".toList text
  let pieces ← Piece.readAll? (content.dropWhile Char.isWhitespace)
  let (markup, frames) ← build? pieces
  guard frames.isEmpty
  return markup

/-- All names and keys are in small letters. -/
def WellNamed : Markup → Prop
  | done => True
  | element name attributes _ inside _ rest =>
    name.all Char.isLower = true ∧ attributes.WellNamed ∧ inside.WellNamed ∧ rest.WellNamed

theorem WellNamed.pieces {markup : Markup} (named : markup.WellNamed) :
    ∀ piece ∈ markup.pieces, piece.tag.WellNamed := by
  induction markup with
  | done => exact fun piece mem => absurd mem List.not_mem_nil
  | element name attributes text inside after rest inner later =>
    obtain ⟨lower, attributesNamed, insideNamed, restNamed⟩ := named
    intro piece mem
    rw [Markup.pieces, List.mem_cons, List.mem_append, List.mem_cons] at mem
    rcases mem with rfl | mem | rfl | mem
    · exact ⟨lower, attributesNamed⟩
    · exact inner insideNamed piece mem
    · exact lower
    · exact later restNamed piece mem

/-- Elements in front of the last tag of an element, or of nothing, are put together again. -/
theorem build?_pieces (markup : Markup) {behind : List Piece} {frames : List Frame}
    (built : build? behind = some (done, frames)) :
    build? (markup.pieces ++ behind) = some (markup, frames) := by
  induction markup generalizing behind frames with
  | done => exact built
  | element name attributes text inside after rest inner later =>
    have restBuilt := later built
    have stopped : build? (⟨.stop name, after⟩ :: (rest.pieces ++ behind)) =
        some (done, ⟨name, after, rest⟩ :: frames) := by
      rw [build?, restBuilt]
      rfl
    have insideBuilt := inner stopped
    have divided : (element name attributes text inside after rest).pieces ++ behind =
        ⟨.start name attributes false, text⟩ ::
          (inside.pieces ++ ⟨.stop name, after⟩ :: (rest.pieces ++ behind)) := by
      simp [Markup.pieces]
    rw [divided, build?, insideBuilt]
    show (if name = name then _ else none) = _
    rw [if_pos rfl]

/-- The elements as they are written. -/
def write (markup : Markup) : List Char :=
  Piece.writeAll markup.pieces

/-- A document is read back as it was written. -/
theorem read?_write {markup : Markup} (named : markup.WellNamed) {declaration : List Char}
    (ends : '?' ∉ declaration) :
    read? ("<?".toList ++ (declaration ++ ("?>".toList ++ '\n' :: markup.write))) =
      some markup := by
  have started : "<?".toList.isPrefixOf?
      ("<?".toList ++ (declaration ++ ("?>".toList ++ '\n' :: markup.write))) =
        some (declaration ++ ("?>".toList ++ '\n' :: markup.write)) :=
    List.isPrefixOf?_eq_some_iff_append_eq.2 rfl
  have divided : Text.cut? "?>".toList (declaration ++ ("?>".toList ++ '\n' :: markup.write)) =
      some (declaration, '\n' :: markup.write) :=
    Text.cut?_append ends ['>'] _
  have content : ('\n' :: markup.write).dropWhile Char.isWhitespace = markup.write := by
    rw [List.dropWhile_cons_of_pos (by decide), write]
    cases markup.pieces with
    | nil => rfl
    | cons piece pieces => exact List.dropWhile_cons_of_neg (by decide)
  have pieces : Piece.readAll? markup.write = some markup.pieces :=
    Piece.readAll?_writeAll named.pieces
  have built : build? markup.pieces = some (markup, []) := by
    rw [← List.append_nil markup.pieces]
    exact build?_pieces markup rfl
  rw [read?, started]
  show (Text.cut? "?>".toList (declaration ++ _)).bind _ = some markup
  rw [divided]
  show (Piece.readAll? (('\n' :: markup.write).dropWhile Char.isWhitespace)).bind _ = some markup
  rw [content, pieces]
  show (build? markup.pieces).bind _ = some markup
  rw [built]
  rfl

end Markup

end ImportCycles.Report
