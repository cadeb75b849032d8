import ImportCycles.Text.Style
import ImportCycles.Toml.Problem

/-! # Faults in their lines

A fault is told with the line that it is in, marked below.
-/

namespace ImportCycles.Toml

/-- The last line of a text. -/
def lastLine (text : List Char) : List Char :=
  (text.reverse.takeWhile (· ≠ '\n')).reverse

/-- The line and the column of a byte, both counted from zero. A place behind the text is told from
its last character. Columns count characters, save in front of a character of several bytes. -/
def position (text : List Char) (offset : Nat) : Nat × Nat :=
  let size := Text.byteLength text
  if offset < size then
    let (before, after) := Text.splitBytes offset text
    let line := lastLine before
    let wide := after.head?.any (1 < ·.utf8Size)
    (before.count '\n', if wide then Text.byteLength line else line.length)
  else
    let before := text.dropLast
    (before.count '\n', (lastLine before).length + (offset - (size - 1)))

/-- The fault with the line that it is in. -/
def Fault.excerpt (fault : Fault) (source : String) : String :=
  match fault.span with
  | none => fault.problem.message ++ "\n"
  | some span =>
    let text := source.toList
    let (line, column) := position text span.offset
    let content := ((text.splitOn '\n')[line]?).getD []
    let number := toString (line + 1)
    let side := Text.repeated (number.length + 1) " " ++ "|"
    let marked := max 1 (min span.length (Text.byteLength content - column))
    "TOML parse error at line " ++ number ++ ", column " ++ toString (column + 1) ++ "\n" ++
      side ++ "\n" ++
      number ++ " | " ++ String.ofList content ++ "\n" ++
      side ++ Text.repeated (column + 1) " " ++ Text.repeated marked "^" ++ "\n" ++
      fault.problem.message ++ "\n"

end ImportCycles.Toml
