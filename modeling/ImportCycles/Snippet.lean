import ImportCycles.Text.Bytes
import ImportCycles.Text.Style
import ImportCycles.Text.Width

/-! # Snippets

A part of a source is shown in its lines, with a line before and a line after it. Every line has its
number, and a label names the part: below an underline if the part lies within one line, and at the
end of a bracket on the left if it goes over several.
-/

namespace ImportCycles

/-- A part of a source, by byte offset and length, with a label. -/
structure Snippet where
  /-- What the source is called. -/
  name : String
  source : String
  offset : Nat
  length : Nat
  label : String
  deriving DecidableEq, Repr

namespace Snippet

/-- The bytes that divide two lines, from the first to the last. -/
structure Break where
  first : Nat
  last : Nat
  deriving DecidableEq, Repr

/-- The line breaks of a text that starts at byte `offset`: line feeds, carriage returns, and a
carriage return with the line feed after it. -/
def breaksFrom (offset : Nat) : List Char → List Break
  | [] => []
  | '\r' :: '\n' :: rest => ⟨offset, offset + 1⟩ :: breaksFrom (offset + 2) rest
  | c :: rest =>
    if c = '\r' ∨ c = '\n' then ⟨offset, offset⟩ :: breaksFrom (offset + 1) rest
    else breaksFrom (offset + c.utf8Size) rest

/-- The line breaks of the source. -/
def breaks (snippet : Snippet) : List Break :=
  breaksFrom 0 snippet.source.toList

/-- The number of bytes of the source. -/
def size (snippet : Snippet) : Nat :=
  snippet.source.utf8ByteSize

/-- How many places there are. A place that is further away is counted from zero again. -/
def placeCount : Nat := UInt64.size

/-- The place behind as many bytes from the start of the part. -/
def placeAfter (snippet : Snippet) (count : Nat) : Nat :=
  (snippet.offset + count) % placeCount

/-- The place behind the part. -/
def stop (snippet : Snippet) : Nat :=
  snippet.placeAfter snippet.length

/-- The last byte of the part, or the one in front of it if the part is empty. -/
def lastByte (snippet : Snippet) : Nat :=
  snippet.stop - 1

/-- The line breaks before the part. -/
def breaksBefore (snippet : Snippet) : List Break :=
  snippet.breaks.filter (·.last < snippet.offset)

/-- The place behind the last of some line breaks. -/
def lineStart (breaks : List Break) : Nat :=
  (breaks.getLast?.map (·.last + 1)).getD 0

/-- The line and the column of the part, counted from one. Columns count bytes. -/
def position (snippet : Snippet) : Nat × Nat :=
  let before := snippet.breaksBefore
  let lineEnd := (snippet.breaks.find? (snippet.offset ≤ ·.last)).map (·.first)
  (before.length + 1, min snippet.offset (lineEnd.getD snippet.size) - lineStart before + 1)

/-- The first place that is shown: the start of the line before the part. -/
def windowStart (snippet : Snippet) : Nat :=
  lineStart snippet.breaksBefore.dropLast

/-- Does the line break come after the part? -/
def isBehind (snippet : Snippet) (lineBreak : Break) : Bool :=
  snippet.lastByte < lineBreak.first && snippet.offset ≤ lineBreak.last &&
    snippet.placeAfter (snippet.length - 1) ≤ lineBreak.last

/-- The place behind what is shown: the end of the line after the part. -/
def windowStop (snippet : Snippet) : Nat :=
  let after := snippet.breaks.filter snippet.isBehind
  (after[1]?.map (·.last + 1)).getD snippet.size

/-- A line that is shown. -/
structure Line where
  number : Nat
  /-- Where it starts. -/
  offset : Nat
  /-- The number of its bytes, with those that end it. -/
  length : Nat
  text : List Char
  deriving DecidableEq, Repr

/-- The lines of a text that starts at byte `offset` with the line `number`. Here only line feeds
end lines, with the carriage return before them. `part` is the line being read, backwards. A last
line that ends with a carriage return has the number of the one before it. -/
def linesFrom (number offset : Nat) (part : List Char) : List Char → List Line
  | [] =>
    if part.isEmpty then []
    else
      let number := if part.head? = some '\r' then number - 1 else number
      [⟨number, offset, Text.byteLength part, part.reverse⟩]
  | '\n' :: rest =>
    let length := Text.byteLength part + 1
    let text := (if part.head? = some '\r' then part.tail else part).reverse
    ⟨number, offset, length, text⟩ :: linesFrom (number + 1) (offset + length) [] rest
  | c :: rest => linesFrom number offset (c :: part) rest

/-- The lines that are shown. -/
def lines (snippet : Snippet) : List Line :=
  let start := snippet.windowStart
  let shown := (Text.slice? snippet.source.toList start snippet.windowStop).getD []
  linesFrom (max 1 snippet.breaksBefore.length) start [] shown

/-- How far apart the stops of a tabulator are. -/
def tabWidth : Nat := 4

/-- The columns that each character of a line takes, `column` being that of the first one. A
tabulator goes on to its next stop. Codes that change the style take none. -/
def columnsFrom (column : Nat) (code : Bool) : List Char → List Nat
  | [] => []
  | c :: rest =>
    if code then 0 :: columnsFrom column (c ≠ 'm') rest
    else if c = '\x1b' then 0 :: columnsFrom column true rest
    else
      let taken := if c = '\t' then tabWidth - column % tabWidth else Text.olderColumns c
      taken :: columnsFrom (column + taken) false rest

/-- The characters before byte `index` of a text. Of one in which that byte lies, `whole` says
whether it counts. -/
def charsBefore (whole : Bool) (index : Nat) : List Char → List Char
  | [] => []
  | c :: rest =>
    if index = 0 ∨ (!whole ∧ index < c.utf8Size) then []
    else c :: charsBefore whole (index - c.utf8Size) rest

namespace Line

/-- The place behind the line. -/
def stop (line : Line) : Nat :=
  line.offset + line.length

/-- The text as it is shown, with blanks for tabulators. -/
def shown (line : Line) : String :=
  String.ofList <| (line.text.zip (columnsFrom 0 false line.text)).flatMap fun (c, taken) =>
    if c = '\t' then List.replicate taken ' ' else [c]

/-- The column of a place in the line. What lies behind the text counts as one column. -/
def column (line : Line) (whole : Bool) (place : Nat) : Nat :=
  let index := place - line.offset
  let before := charsBefore whole index line.text
  (columnsFrom 0 false before).foldl (· + ·) 0 + if Text.byteLength line.text < index then 1 else 0

/-- Does the line hold all of the part? -/
def holds (line : Line) (snippet : Snippet) : Bool :=
  line.offset ≤ snippet.offset && snippet.stop ≤ line.stop

/-- Does the part start in the line? -/
def opens (line : Line) (snippet : Snippet) : Bool :=
  line.offset ≤ snippet.offset && snippet.offset < line.stop

/-- Does the part end in the line? An empty part ends behind the character at its place. -/
def closes (line : Line) (snippet : Snippet) : Bool :=
  let stop := snippet.placeAfter (max 1 snippet.length)
  line.offset < stop && stop ≤ line.stop

/-- Does the part go through the line, from the lines before it to those after it? -/
def passes (line : Line) (snippet : Snippet) : Bool :=
  snippet.offset < line.offset && line.stop < snippet.stop

/-- Has the part anything to do with the line? -/
def meets (line : Line) (snippet : Snippet) : Bool :=
  line.opens snippet || line.closes snippet || line.passes snippet

/-- Does the line need a piece of the bracket? -/
def isBracketed (line : Line) (snippet : Snippet) : Bool :=
  line.meets snippet && !(line.opens snippet && line.closes snippet)

end Line

/-- The style of the label and of what leads to it. -/
def paintLabel (colors : Bool) (text : String) : String :=
  Text.paint colors "35;1" text

/-- The place of the number in front of a line that has none. -/
def unnumbered (width : Nat) : String :=
  Text.repeated (width + 2) " " ++ "· "

/-- The piece of the bracket in front of a line. -/
def bracketPiece (colors : Bool) (snippet : Snippet) (line : Line) : String :=
  let arrow := fun corner =>
    paintLabel colors corner ++ paintLabel colors "─" ++ paintLabel colors "▶" ++ " "
  if !line.isBracketed snippet then "    "
  else if line.offset ≤ snippet.offset then arrow "╭"
  else if line.closes snippet then arrow "├"
  else paintLabel colors "│" ++ "   "

/-- The underline of a part within the line, and the label below it. -/
def underlined (colors : Bool) (width : Nat) (snippet : Snippet) (line : Line) : List String :=
  let start := line.column false snippet.offset
  let stop :=
    if snippet.length = 0 then start + 1 else max (start + 1) (line.column true snippet.stop)
  let foot := (start + stop) / 2
  let mark := if snippet.length = 0 then "▲" else "┬"
  [unnumbered width ++ paintLabel colors (Text.repeated start " " ++
      Text.repeated (foot - start) "─" ++ mark ++ Text.repeated (stop - foot - 1) "─"),
    unnumbered width ++ Text.repeated foot " " ++
      paintLabel colors ("╰── " ++ paintLabel colors snippet.label)]

/-- The end of the bracket, and the label behind it. -/
def bracketEnd (colors : Bool) (width : Nat) (snippet : Snippet) : String :=
  unnumbered width ++ paintLabel colors "╰" ++ paintLabel colors "───" ++ paintLabel colors "─" ++
    " " ++ paintLabel colors snippet.label

/-- A line after its number, and the label if it belongs below the line. -/
def lineText (colors bracket : Bool) (width : Nat) (snippet : Snippet) (line : Line) :
    List String :=
  let number := " " ++ Text.paint colors "2" (Text.padLeft width line.number) ++ " │ "
  let piece := if bracket then bracketPiece colors snippet line else ""
  [number ++ piece ++ line.shown] ++
    if !line.meets snippet then []
    else if line.holds snippet then underlined colors width snippet line
    else if line.closes snippet && line.offset > snippet.offset then
      [bracketEnd colors width snippet]
    else []

/-- The style of names and numbers that can be looked up. -/
def paintLink (colors : Bool) (text : String) : String :=
  Text.paint colors "36;1;4" text

/-- What stands in place of the lines if the part ends behind the source. -/
def unreadable (colors : Bool) (snippet : Snippet) : String :=
  "  [" ++ Text.paint colors "31" "Failed to read contents for label" ++
    " `" ++ paintLink colors snippet.label ++
    "` (offset: " ++ paintLink colors (toString snippet.offset) ++
    ", length: " ++ paintLink colors (toString snippet.length) ++
    "): " ++ Text.paint colors "33" "OutOfBounds" ++ "]"

/-- The lines of the snippet in a frame that names the place of the part. -/
def draw (colors : Bool) (snippet : Snippet) : List String :=
  if snippet.size < snippet.lastByte then [unreadable colors snippet]
  else
    let lines := snippet.lines
    let bracket := lines.any fun line => !line.holds snippet && line.isBracketed snippet
    let width := (toString ((lines.getLast?.map (·.number)).getD 0)).length
    let side := Text.repeated (width + 2) " "
    let (line, column) := snippet.position
    let place := snippet.name ++ ":" ++ toString line ++ ":" ++ toString column
    [side ++ "╭─[" ++ paintLink colors place ++ "]"] ++
      lines.flatMap (lineText colors bracket width snippet) ++ [side ++ "╰────"]

end Snippet

end ImportCycles
