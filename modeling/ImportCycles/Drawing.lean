import ImportCycles.Drawing.Ascii
import ImportCycles.Drawing.Dot
import ImportCycles.Drawing.Mermaid

/-! # Drawings

The formats in which the import graph is drawn.
-/

namespace ImportCycles

namespace Drawing

/-- The formats of a drawing. -/
inductive Format where
  | ascii
  | mermaid
  | dot
  deriving DecidableEq, Repr

/-- The name of a format. -/
def Format.name : Format → String
  | .ascii => "ascii"
  | .mermaid => "mermaid"
  | .dot => "dot"

/-- All formats. -/
def Format.all : List Format := [.ascii, .mermaid, .dot]

/-- A picture written in a format. -/
def Picture.write (picture : Picture) : Format → String
  | .ascii => picture.ascii
  | .mermaid => picture.mermaid
  | .dot => picture.dot

/-- The drawing of a graph. -/
def draw (format : Format) (style : Style) (graph : ImportGraph) : String :=
  (picture style graph).write format

/-- The drawing as far as a writer takes it that has room for `room` bytes; `none` if the drawing
needs more. -/
def drawInto? (room : Nat) (format : Format) (style : Style) (graph : ImportGraph) :
    Option String :=
  let text := draw format style graph
  if text.utf8ByteSize ≤ room then some text else none

end Drawing

end ImportCycles
