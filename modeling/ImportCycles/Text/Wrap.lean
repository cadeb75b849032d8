import ImportCycles.Text.Alphanumeric
import ImportCycles.Text.Escape
import ImportCycles.Text.LineBreak
import ImportCycles.Text.Width

/-! # Filling lines

A text is made of words that are not broken. It is divided into words where a line may end, save
that a hyphen divides only between letters or numbers. Words are put on a line as long as they fit,
and the blanks at the end of a line are dropped. A word that is longer than a line is cut. Codes for
a terminal take no columns.
-/

namespace ImportCycles.Text

/-- A part of a text that stays on one line, and how many blanks follow it. -/
structure Word where
  text : List Char
  blanks : Nat
  deriving DecidableEq, Repr

/-- The part without the blanks at its end, which follow it. -/
def Word.ofPart (part : List Char) : Word :=
  let text := (part.reverse.dropWhile (· = ' ')).reverse
  ⟨text, part.length - text.length⟩

/-- Is this a hyphen, or one that shows only at the end of a line? -/
def isHyphen (c : Char) : Bool :=
  c == '-' || c == '\u00AD'

/-- Joins the last two parts. -/
def joinLast : List (List Char) → List (List Char)
  | [] => []
  | [part] => [part]
  | [part, last] => [part ++ last]
  | part :: rest => part :: joinLast rest

/-- A text with the classes of the characters that are shown. -/
def glyphs (text : List Char) : List Glyph :=
  (markHidden text).map fun (c, hidden) => ⟨c, if hidden then none else some (BreakClass.ofChar c)⟩

/-- The words of a text before hyphens divide them. A hyphen at the end stays with the two last
parts of the text. -/
def wholeWords (text : List Char) : List Word :=
  let parts := breakParts isHyphen (glyphs text)
  (if (shownChars text).getLast?.any isHyphen then joinLast parts else parts).map Word.ofPart

/-- The parts of a text that end with a hyphen between letters or numbers, and the last part. `part`
is the one being read, backwards. -/
def hyphenParts (part : List Char) : List Char → List (List Char)
  | [] => [part.reverse]
  | [c] => [(c :: part).reverse]
  | c :: d :: rest =>
    if c = '-' && part.head?.any isAlphanumeric && isAlphanumeric d then
      (c :: part).reverse :: hyphenParts [] (d :: rest)
    else hyphenParts (c :: part) (d :: rest)

/-- Parts of a word as words, of which the last has its blanks. -/
def Word.divide (word : Word) (parts : List (List Char)) : List Word :=
  parts.dropLast.map (⟨·, 0⟩) ++ (parts.getLast?.map (⟨·, word.blanks⟩)).toList

/-- The number of columns that the shown characters of a text take. -/
def shownWidth (text : List Char) : Nat :=
  width (shownChars text)

/-- Cuts a text, of which it is known what is hidden, into parts of at most `limit` columns. `part`
is the one being read, backwards, and takes `used` columns. -/
def cutFrom (limit used : Nat) (part : List Char) : List (Char × Bool) → List (List Char)
  | [] => [part.reverse]
  | (c, hidden) :: rest =>
    let taken := if hidden then 0 else columns c
    if !hidden ∧ 0 < used ∧ limit < used + taken then
      part.reverse :: cutFrom limit taken [c] rest
    else cutFrom limit (used + taken) (c :: part) rest

/-- The words of a text, none longer than `limit` columns. -/
def words (limit : Nat) (text : List Char) : List Word :=
  let divided := (wholeWords text).flatMap fun word => word.divide (hyphenParts [] word.text)
  divided.flatMap fun word =>
    if shownWidth word.text ≤ limit then [word]
    else word.divide (cutFrom limit 0 [] (markHidden word.text))

/-- Adds words to lines of at most `limit` columns; `line` is the one being filled, which takes
`used` columns, and `blanks` follow it. -/
def fillFrom (limit : Nat) (line : List Char) (used blanks : Nat) : List Word → List (List Char)
  | [] => [line]
  | word :: rest =>
    let taken := shownWidth word.text
    if limit < used + blanks + taken then
      line :: fillFrom limit word.text taken word.blanks rest
    else
      fillFrom limit (line ++ List.replicate blanks ' ' ++ word.text) (used + blanks + taken)
        word.blanks rest

/-- The lines of at most `limit` columns that a text fills. A line feed always ends a line. -/
def fill (limit : Nat) (text : String) : List String :=
  ((text.toList.splitOn '\n').flatMap fun line => fillFrom limit [] 0 0 (words limit line)).map
    String.ofList

/-- The text filled into lines of `limit` columns, the first after `first` and the others after
`other`. -/
def hang (first other : String) (limit : Nat) (text : String) : List String :=
  match fill limit text with
  | [] => [first]
  | line :: rest => (first ++ line) :: rest.map (other ++ ·)

end ImportCycles.Text
