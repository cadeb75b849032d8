import ImportCycles.Graph.Basic
import ImportCycles.Source.Statement
import ImportCycles.Text.Bytes

/-! # Scanning a source for imports

Every form is looked for on its own from left to right, a statement starting where a word starts and
after the statement before it. What all forms find is put in the order of the source.
-/

namespace ImportCycles

/-- A statement that imports `specifier`. -/
structure ImportStatement where
  specifier : String
  location : Location
  deriving DecidableEq, Repr, Inhabited

namespace Source

/-- The byte offsets of a statement in a source, and of the specifier in it. -/
structure Occurrence where
  start : Nat
  stop : Nat
  specifierStart : Nat
  specifierStop : Nat
  deriving DecidableEq, Repr

/-- How many bytes of `text` stand before its suffix `rest`. -/
def bytesBefore (text rest : List Char) : Nat :=
  Text.byteLength text - Text.byteLength rest

/-- The offsets of a statement recognised at byte `offset`, where `text` starts. -/
def Recognised.occurrence (found : Recognised) (text : List Char) (offset : Nat) : Occurrence where
  start := offset
  stop := offset + bytesBefore text found.rest
  specifierStart := offset + bytesBefore text found.content
  specifierStop := offset + bytesBefore text found.closing

/-- Does a word start after this character? -/
def startsWord (before : Option Char) : Bool :=
  !(before.any Text.isWord)

/-- The statements of a form in a text that starts at byte `offset` after the character `before`.
The first `skip` characters belong to a statement that was found already. -/
def occurrencesFrom (form : Form) (before : Option Char) (offset skip : Nat) :
    List Char → List Occurrence
  | [] => []
  | c :: rest =>
    let next := offset + c.utf8Size
    match skip with
    | skip + 1 => occurrencesFrom form (some c) next skip rest
    | 0 =>
      match if startsWord before then form.recognise? (c :: rest) else none with
      | some found =>
        found.occurrence (c :: rest) offset ::
          occurrencesFrom form (some c) next (rest.length - found.rest.length) rest
      | none => occurrencesFrom form (some c) next 0 rest

/-- The statements of a form in a masked source. -/
def occurrences (form : Form) (masked : List Char) : List Occurrence :=
  occurrencesFrom form none 0 0 masked

/-- The statements of all forms, by their place in the source; of several that start together the
first form's is kept. -/
def allOccurrences (masked : List Char) : List Occurrence :=
  let found := Form.all.flatMap fun form => occurrences form masked
  Sorted.dropRepeats Occurrence.start (Sorted.sortBy (fun a b => a.start ≤ b.start) found)

/-- The statement at an occurrence. The specifier is read from the source itself. -/
def statementAt (source : List Char) (found : Occurrence) : ImportStatement :=
  let (line, column) := Text.position source found.start
  { specifier := String.ofList
      ((Text.slice? source found.specifierStart found.specifierStop).getD [])
    location := ⟨found.start, found.stop - found.start, line, column⟩ }

/-- The import statements of a source, in order. -/
def imports (source : String) : List ImportStatement :=
  (allOccurrences (mask source.toList)).map (statementAt source.toList)

end Source

end ImportCycles
