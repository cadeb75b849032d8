import ImportCycles.Lint.Report
import ImportCycles.Text.Plural

/-! # Reports as workflow commands

One annotation per cycle, and a last line that counts them. A command ends with its line, so line
ends and the escape sign itself are written as escapes; in a property, so are the signs that divide
properties.
-/

namespace ImportCycles.Report

/-- The text with a code wherever the character `c` stood. -/
def substitute (c : Char) (code : String) (text : List Char) : List Char :=
  text.flatMap fun d => if d = c then code.toList else [d]

/-- A message in a workflow command. The escape sign comes first: the codes that are written after it
have one as well. -/
def escapeData (text : List Char) : List Char :=
  substitute '\n' "%0A" (substitute '\r' "%0D" (substitute '%' "%25" text))

/-- A property in a workflow command. -/
def escapeProperty (text : List Char) : List Char :=
  substitute ',' "%2C" (substitute ':' "%3A" (escapeData text))

/-- The annotation for one cycle. -/
def githubCommand (report : LintReport) (diagnostic : Diagnostic) : String :=
  "::error file=" ++ String.ofList (escapeProperty (report.shownPath diagnostic.file).toList) ++
    ",line=" ++ toString diagnostic.location.line ++
    ",col=" ++ toString diagnostic.location.column ++
    ",title=Circular Import::" ++ String.ofList (escapeData diagnostic.message.toList)

/-- The lines of the report. -/
def githubLines (report : LintReport) : List String :=
  if !report.hasCycles then ["::notice title=Import Check::No circular imports detected! ✅"]
  else
    report.diagnostics.map (githubCommand report) ++
      ["::notice title=Import Cycles::Found " ++ toString report.cycleCount ++ " circular " ++
        Text.plural "import" report.cycleCount]

/-- The report as workflow commands. -/
def github (report : LintReport) : String :=
  String.join ((githubLines report).map (· ++ "\n"))

end ImportCycles.Report
