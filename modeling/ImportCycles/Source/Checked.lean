import ImportCycles.Source.Scan
import ImportCycles.Text.Lines

/-! # Scanning with every cut checked

The scan as it goes about its work: the specifier of everything that is found is cut out of the
source at once, and lines are looked up in a table. Each cut is made between two byte offsets that
were found in the masked text. If one of them lies outside the source or inside a character of it,
there is no result.
-/

namespace ImportCycles.Source

/-- An occurrence with its specifier, cut out of the source. -/
def withSpecifier? (source : List Char) (found : Occurrence) : Option (Occurrence × String) :=
  (Text.slice? source found.specifierStart found.specifierStop).map fun content =>
    (found, String.ofList content)

/-- The statement at an occurrence, with its line and column looked up. -/
def located? (lines : Text.Lines) (source : List Char) (found : Occurrence × String) :
    Option ImportStatement :=
  (lines.position? source found.1.start).map fun (line, column) =>
    ⟨found.2, ⟨found.1.start, found.1.stop - found.1.start, line, column⟩⟩

/-- The import statements of a source, in order. -/
def imports? (source : String) : Option (List ImportStatement) := do
  let text := source.toList
  let masked := mask text
  let found ← (Form.all.flatMap fun form => occurrences form masked).mapM (withSpecifier? text)
  let sorted := Sorted.sortBy (fun a b => a.1.start ≤ b.1.start) found
  (Sorted.dropRepeats (fun a => a.1.start) sorted).mapM (located? (.ofText text) text)

end ImportCycles.Source
