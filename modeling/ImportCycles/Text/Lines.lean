import ImportCycles.Text.Bytes

/-! # Lines of a text

A table of the places at which the lines of a text start, made once for all look-ups. A place belongs
to the last line that starts no later, and its column is counted from the start of that line. A
look-up gives nothing where there is no such line, and where the line starts or ends inside a
character.
-/

namespace ImportCycles.Text

/-- Where a list changes from elements with a property to elements without it. Where it changes more
than once there is no such place. -/
def partitionPoint? {α : Type} (p : α → Bool) (list : List α) : Option Nat :=
  if (list.dropWhile p).any p then none else some (list.takeWhile p).length

/-- The byte offsets behind the line feeds of a text that starts at byte `offset`. -/
def startsFrom (offset : Nat) : List Char → List Nat
  | [] => []
  | c :: rest =>
    if c = '\n' then (offset + 1) :: startsFrom (offset + 1) rest
    else startsFrom (offset + c.utf8Size) rest

/-- The byte offsets at which lines start. -/
structure Lines where
  starts : List Nat
  deriving DecidableEq, Repr

namespace Lines

/-- The lines of a text: the first starts with the text, the others behind its line feeds. -/
def ofText (text : List Char) : Lines :=
  ⟨0 :: startsFrom 0 text⟩

/-- The line and column of the character at byte `offset`, both counted from one. -/
def position? (lines : Lines) (text : List Char) (offset : Nat) : Option (Nat × Nat) := do
  let line ← partitionPoint? (· ≤ offset) lines.starts
  let start ← if line = 0 then none else lines.starts[line - 1]?
  let before ← slice? text start offset
  some (line, before.length + 1)

end Lines

end ImportCycles.Text
