import ImportCycles.Lint.Report

/-! # Reports in JUnit's format

Every file from which a cycle was found is a failing test case, with one failure per cycle. A run
without cycles is one test case that passes.
-/

namespace ImportCycles.Report

/-- The entity for a character that has a meaning of its own in XML. -/
def escapeMarkupChar (c : Char) : List Char :=
  if c = '&' then "&amp;".toList
  else if c = '<' then "&lt;".toList
  else if c = '>' then "&gt;".toList
  else if c = '\x22' then "&quot;".toList
  else if c = '\x27' then "&apos;".toList
  else [c]

/-- A text in an attribute or between tags. -/
def escapeMarkup (text : List Char) : List Char :=
  text.flatMap escapeMarkupChar

/-- A text as it stands in the report. -/
def xmlText (text : String) : String :=
  String.ofList (escapeMarkup text.toList)

/-- The failure for one cycle of the file shown as `path`. -/
def junitFailure (path : String) (diagnostic : Diagnostic) : String :=
  "      <failure message=\"" ++ xmlText diagnostic.message ++ "\" type=\"import-cycle\">" ++
    xmlText path ++ ":" ++ toString diagnostic.location.line ++ ":" ++
    toString diagnostic.location.column ++ "</failure>"

/-- The test case of one file. -/
def junitCase (report : LintReport) (file : FileId) (diagnostics : List Diagnostic) :
    List String :=
  let path := report.shownPath file
  ["    <testcase name=\"" ++ xmlText path ++ "\" classname=\"loop-de-loop\">"] ++
    diagnostics.map (junitFailure path) ++ ["    </testcase>"]

/-- The attributes that count test cases and failing ones. -/
def junitCounts (failing : Nat) : String :=
  " tests=\"" ++ toString (max failing 1) ++ "\" failures=\"" ++ toString failing ++ "\">"

/-- The lines of the report. -/
def junitLines (report : LintReport) : List String :=
  let failing := report.byFile
  let cases :=
    if failing.isEmpty then
      ["    <testcase name=\"check-import-cycles\" classname=\"loop-de-loop\" />"]
    else failing.flatMap fun (file, diagnostics) => junitCase report file diagnostics
  ["<?xml version=\"1.0\" encoding=\"UTF-8\"?>",
    "<testsuites name=\"loop-de-loop\"" ++ junitCounts failing.length,
    "  <testsuite name=\"import-cycles\"" ++ junitCounts failing.length] ++
    cases ++ ["  </testsuite>", "</testsuites>"]

/-- The report in JUnit's format. -/
def junit (report : LintReport) : String :=
  String.join ((junitLines report).map (· ++ "\n"))

end ImportCycles.Report
