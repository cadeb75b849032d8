import ImportCycles.Lint.Report
import ImportCycles.Snippet
import ImportCycles.Text.Plural
import ImportCycles.Text.Wrap

/-! # Reports for people

Every cycle is shown with the line of the import that leads into it, the lines around it, and a mark
below the statement. Only this block is ever coloured.
-/

namespace ImportCycles.Report

/-- How the report is written. -/
structure HumanStyle where
  /-- The greatest number of cycles to show; all if there is none. -/
  maxCycles : Option Nat := none
  colors : Bool := false
  deriving DecidableEq, Repr

/-- The text of the advice below every cycle. -/
def advice : String :=
  "Move the shared code into a module that none of these files import, or drop one of the imports"

/-- The import that leads into a cycle, as it is shown. -/
def snippet (report : LintReport) (diagnostic : Diagnostic) : Snippet where
  name := report.shownPath diagnostic.file
  source := diagnostic.source
  offset := diagnostic.location.offset
  length := diagnostic.location.length
  label := "this import closes the loop"

/-- The block of one cycle. -/
def humanBlock (colors : Bool) (report : LintReport) (diagnostic : Diagnostic) : List String :=
  [Text.paint colors "31" "loop_de_loop::import_cycle", ""] ++
    Text.hang ("  " ++ Text.paint colors "31" "×" ++ " ")
      ("  " ++ Text.paint colors "31" "│" ++ " ") 94 diagnostic.message ++
    (snippet report diagnostic).draw colors ++
    Text.hang (Text.paint colors "36" "  help: ") "        " 90 advice

/-- The heading and the block of the cycle with the given number, and an empty line. -/
def humanCycle (colors : Bool) (report : LintReport) (diagnostic : Diagnostic) (index : Nat) :
    List String :=
  let size := diagnostic.cycle.size
  ["🔄 Cycle #" ++ toString (index + 1) ++ " (" ++ toString size ++ " " ++
    Text.plural "file" size ++ ")"] ++ humanBlock colors report diagnostic ++ [""]

/-- The lines of the report. -/
def humanLines (style : HumanStyle) (report : LintReport) : List String :=
  let total := report.cycleCount
  if !report.hasCycles then
    ["", "✅ No circular imports detected in " ++ toString report.filesChecked ++ " " ++
      Text.plural "file" report.filesChecked ++ "! Every ride ends where it should."]
  else
    let shown := min (style.maxCycles.getD total) total
    ["", "❌ Found " ++ toString total ++ " circular " ++ Text.plural "import" total ++ ":", ""] ++
      (report.diagnostics.take shown).zipIdx.flatMap
        (fun (diagnostic, index) => humanCycle style.colors report diagnostic index) ++
      (if shown < total then
        ["ℹ️ Showing " ++ toString shown ++ " of " ++ toString total ++
          " cycles. Use --max-cycles to see more."]
      else []) ++
      ["", "💡 Removing any one import from a cycle breaks it.",
        "💡 Use `loop-de-loop spotlight <FILE>` to list the cycles through a file."]

/-- The report for people. -/
def human (style : HumanStyle) (report : LintReport) : String :=
  String.join ((humanLines style report).map (· ++ "\n"))

end ImportCycles.Report
