import ImportCycles.Proofs.GroupedDiagnostics
import ImportCycles.Proofs.IndentedMarkup

/-! # Test cases that are read back

A reader of the report in JUnit's format finds one failing test case for each file that cycles were
found from, with one failure for each of them. The numbers that are written in front of the test
cases count them.
-/

namespace ImportCycles.Report.Junit

/-! ### What a reader looks for -/

/-- A failure of a test case. -/
structure Failure where
  message : String
  path : String
  line : Nat
  column : Nat
  deriving DecidableEq

/-- A test case. -/
structure TestCase where
  name : String
  failures : List Failure
  deriving DecidableEq

/-- A path, a line and a column with colons between them. A path may have colons too, so the text is
read from its end. -/
def readPlace? (text : List Char) : Option (String × Nat × Nat) := do
  let (column, rest) ← Text.cut? [':'] text.reverse
  let (line, path) ← Text.cut? [':'] rest
  let line ← (String.ofList line.reverse).toNat?
  let column ← (String.ofList column.reverse).toNat?
  return (String.ofList path.reverse, line, column)

/-- The failure that an element stands for. -/
def Failure.read? (element : Element) : Option Failure := do
  let message ← element.value? "message"
  let text ← element.text?
  let (path, line, column) ← readPlace? text
  return ⟨String.ofList message, path, line, column⟩

/-- The test case that an element stands for. -/
def TestCase.read? (element : Element) : Option TestCase := do
  let name ← element.value? "name"
  let failures ← (element.inside.elements "failure").mapM Failure.read?
  return ⟨String.ofList name, failures⟩

/-! ### The elements of the report -/

/-- The text of the failure for a cycle. -/
def placeText (path : String) (diagnostic : Diagnostic) : List Char :=
  path.toList ++ ':' :: ((toString diagnostic.location.line).toList ++
    ':' :: (toString diagnostic.location.column).toList)

/-- The element for a cycle of the file that is shown as `path`. -/
def failureElement (path : String) (diagnostic : Diagnostic) : Element where
  name := "failure"
  attributes := [("message".toList, diagnostic.message.toList),
    ("type".toList, "import-cycle".toList)]
  text := placeText path diagnostic
  inside := .done

/-- The element for a file. -/
def caseElement (report : LintReport) (group : FileId × List Diagnostic) : Element :=
  branch 2 "testcase"
    [("name".toList, (report.shownPath group.1).toList),
      ("classname".toList, "loop-de-loop".toList)]
    (group.2.map (failureElement (report.shownPath group.1)))

/-- The attributes that count test cases and failing ones. -/
def countAttributes (failing : Nat) : Attributes :=
  [("tests".toList, (toString (max failing 1)).toList),
    ("failures".toList, (toString failing).toList)]

/-- The element of a report without cycles. -/
def cleanElement : Element where
  name := "testcase"
  attributes := [("name".toList, "check-import-cycles".toList),
    ("classname".toList, "loop-de-loop".toList)]
  text := []
  inside := .done

/-- The elements of the test cases. -/
def caseElements (report : LintReport) : List Element :=
  if report.byFile.isEmpty then [cleanElement] else report.byFile.map (caseElement report)

/-- The element that holds the test cases. -/
def suiteElement (report : LintReport) : Element :=
  branch 1 "testsuite"
    (("name".toList, "import-cycles".toList) :: countAttributes report.byFile.length)
    (caseElements report)

/-- The element that holds all others. -/
def suitesElement (report : LintReport) : Element :=
  branch 0 "testsuites"
    (("name".toList, "loop-de-loop".toList) :: countAttributes report.byFile.length)
    [suiteElement report]

/-- A line of text, with its end. -/
def ended (text : String) : List Char :=
  text.toList ++ ['\n']

theorem escapeMarkup_toString (n : Nat) :
    escapeMarkup (toString n).toList = (toString n).toList := by
  refine escapeMarkup_eq_self fun c mem sign => ?_
  have noDigit : (markupSigns.all fun c => !c.isDigit) = true := by decide
  have other := List.all_eq_true.1 noDigit c sign
  rw [Text.isDigit_of_mem_toString mem] at other
  exact Bool.noConfusion other

theorem escapeMarkup_placeText (path : String) (diagnostic : Diagnostic) :
    escapeMarkup (placeText path diagnostic) = escapeMarkup path.toList ++
      ':' :: ((toString diagnostic.location.line).toList ++
        ':' :: (toString diagnostic.location.column).toList) := by
  have colon : ∀ text, escapeMarkup (':' :: text) = ':' :: escapeMarkup text := fun text => rfl
  rw [placeText, escapeMarkup_append, colon, escapeMarkup_append, colon, escapeMarkup_toString,
    escapeMarkup_toString]

/-- The line of a failure. -/
theorem ended_junitFailure (path : String) (diagnostic : Diagnostic) :
    ended (junitFailure path diagnostic) = line 3 (failureElement path diagnostic) := by
  -- The literals, divided where the element is.
  have start : "      <failure message=\"".toList = margin 3 ++ '<' :: ("failure".toList ++
      ' ' :: ("message".toList ++ ['=', '\x22'])) := by decide
  have middle : "\" type=\"import-cycle\">".toList =
      '\x22' :: ' ' :: ("type".toList ++ '=' :: '\x22' :: (escapeMarkup "import-cycle".toList ++
        ['\x22', '>'])) := by decide
  have stop : "</failure>".toList = '<' :: '/' :: ("failure".toList ++ ['>']) := by decide
  have colon : ":".toList = [':'] := rfl
  have inside : Markup.done.write = [] := rfl
  unfold ended junitFailure line Element.write Element.startTag Element.stopTag failureElement xmlText
  simp only [String.toList_append, String.toList_ofList, escapeMarkup_placeText, writeAttributes,
    List.flatMap_cons, List.flatMap_nil]
  rw [start, middle, stop, colon, inside]
  simp only [List.append_assoc, List.cons_append, List.nil_append, List.append_nil]

/-- The lines of a test case. -/
theorem flatMap_junitCase (report : LintReport) (file : FileId) (diagnostics : List Diagnostic) :
    (junitCase report file diagnostics).flatMap ended =
      line 2 (caseElement report (file, diagnostics)) := by
  have start : "    <testcase name=\"".toList = margin 2 ++ '<' :: ("testcase".toList ++
      ' ' :: ("name".toList ++ ['=', '\x22'])) := by decide
  have behind : "\" classname=\"loop-de-loop\">".toList =
      '\x22' :: ' ' :: ("classname".toList ++ '=' :: '\x22' ::
        (escapeMarkup "loop-de-loop".toList ++ ['\x22', '>'])) := by decide
  have stop : "    </testcase>".toList = margin 2 ++ '<' :: '/' :: ("testcase".toList ++ ['>']) := by
    decide
  have failures : (diagnostics.map (junitFailure (report.shownPath file))).flatMap ended =
      (diagnostics.map (failureElement (report.shownPath file))).flatMap (line 3) := by
    rw [List.flatMap_map, List.flatMap_map]
    exact List.flatMap_congr fun diagnostic _ => ended_junitFailure _ diagnostic
  rw [caseElement, line_branch, ← failures]
  unfold junitCase Element.startTag Element.stopTag branch xmlText
  simp only [List.flatMap_append, List.flatMap_cons, List.flatMap_nil, ended, String.toList_append,
    String.toList_ofList, writeAttributes]
  rw [start, behind, stop]
  simp only [List.append_assoc, List.cons_append, List.nil_append, List.append_nil]

/-- The elements of the report. -/
def document (report : LintReport) : Markup :=
  rows 0 [suitesElement report]

/-- What the report starts with, without its brackets. -/
def declaration : List Char :=
  "xml version=\"1.0\" encoding=\"UTF-8\"".toList

theorem line_suitesElement (report : LintReport) :
    line 0 (suitesElement report) = (suitesElement report).startTag ++ ('\n' ::
      (line 1 (suiteElement report) ++ ((suitesElement report).stopTag ++ ['\n']))) := by
  rw [suitesElement, line_branch, ← suitesElement, List.flatMap_singleton]
  rfl

theorem line_suiteElement (report : LintReport) :
    line 1 (suiteElement report) = margin 1 ++ ((suiteElement report).startTag ++
      ('\n' :: ((caseElements report).flatMap (line 2) ++ (margin 1 ++
        ((suiteElement report).stopTag ++ ['\n']))))) := by
  rw [suiteElement, line_branch]

theorem write_document (report : LintReport) :
    (document report).write = line 0 (suitesElement report) := by
  have lines := flatMap_line 0 [suitesElement report]
  simpa [margin, document] using lines.symm

theorem toList_junitCounts (failing : Nat) :
    (junitCounts failing).toList = writeAttributes (countAttributes failing) ++ ['>'] := by
  have tests : " tests=\"".toList = ' ' :: ("tests".toList ++ ['=', '\x22']) := by decide
  have failures : "\" failures=\"".toList =
      '\x22' :: ' ' :: ("failures".toList ++ ['=', '\x22']) := by decide
  have stop : "\">".toList = ['\x22', '>'] := by decide
  unfold junitCounts countAttributes
  simp only [String.toList_append, writeAttributes, List.flatMap_cons, List.flatMap_nil,
    escapeMarkup_toString]
  rw [tests, failures, stop]
  simp only [List.append_assoc, List.cons_append, List.nil_append, List.append_nil]

theorem toList_suitesStart (report : LintReport) :
    ("<testsuites name=\"loop-de-loop\"" ++ junitCounts report.byFile.length).toList =
      (suitesElement report).startTag := by
  have start : "<testsuites name=\"loop-de-loop\"".toList = '<' :: ("testsuites".toList ++
      writeAttributes [("name".toList, "loop-de-loop".toList)]) := by decide
  rw [String.toList_append, start, toList_junitCounts]
  simp [suitesElement, branch, Element.startTag, writeAttributes]

theorem toList_suiteStart (report : LintReport) :
    ("  <testsuite name=\"import-cycles\"" ++ junitCounts report.byFile.length).toList =
      margin 1 ++ (suiteElement report).startTag := by
  have start : "  <testsuite name=\"import-cycles\"".toList = margin 1 ++ '<' ::
      ("testsuite".toList ++ writeAttributes [("name".toList, "import-cycles".toList)]) := by decide
  rw [String.toList_append, start, toList_junitCounts]
  simp [suiteElement, branch, Element.startTag, writeAttributes]

theorem toList_junit (report : LintReport) :
    (junit report).toList = (junitLines report).flatMap ended := by
  unfold junit ended
  simp [List.flatMap_map]

theorem junitLines_of_found {report : LintReport} (found : report.byFile.isEmpty = false) :
    junitLines report =
      ["<?xml version=\"1.0\" encoding=\"UTF-8\"?>",
        "<testsuites name=\"loop-de-loop\"" ++ junitCounts report.byFile.length,
        "  <testsuite name=\"import-cycles\"" ++ junitCounts report.byFile.length] ++
        report.byFile.flatMap (fun group => junitCase report group.1 group.2) ++
        ["  </testsuite>", "</testsuites>"] := by
  unfold junitLines
  simp only [found, Bool.false_eq_true, if_false]

/-- The text of a report with cycles. -/
theorem toList_junit_of_found {report : LintReport} (found : report.byFile.isEmpty = false) :
    (junit report).toList =
      "<?".toList ++ (declaration ++ ("?>".toList ++ '\n' :: (document report).write)) := by
  have cases : (report.byFile.flatMap fun group => junitCase report group.1 group.2).flatMap
      ended = (caseElements report).flatMap (line 2) := by
    rw [caseElements, found, if_neg Bool.false_ne_true, List.flatMap_assoc, List.flatMap_map]
    exact List.flatMap_congr fun group _ => flatMap_junitCase report group.1 group.2
  have start : "<?xml version=\"1.0\" encoding=\"UTF-8\"?>".toList =
      "<?".toList ++ (declaration ++ "?>".toList) := by decide
  have suiteStop : "  </testsuite>".toList = margin 1 ++ (suiteElement report).stopTag := by
    show _ = margin 1 ++ '<' :: '/' :: ("testsuite".toList ++ ['>'])
    decide
  have suitesStop : "</testsuites>".toList = (suitesElement report).stopTag := by
    show _ = '<' :: '/' :: ("testsuites".toList ++ ['>'])
    decide
  rw [toList_junit, write_document, line_suitesElement, line_suiteElement, ← cases,
    junitLines_of_found found]
  simp only [List.flatMap_append, List.flatMap_cons, List.flatMap_nil, ended]
  rw [start, toList_suitesStart, toList_suiteStart, suiteStop, suitesStop]
  simp only [List.append_assoc, List.cons_append, List.nil_append, List.append_nil]

/-! ### Reading -/

theorem wellNamed_failureElement (path : String) (diagnostic : Diagnostic) :
    (failureElement path diagnostic).WellNamed := by
  refine ⟨?_, rfl, trivial⟩
  show "failure".toList.all Char.isLower = true
  rfl

theorem wellNamed_caseElement (report : LintReport) (group : FileId × List Diagnostic) :
    (caseElement report group).WellNamed := by
  refine wellNamed_branch rfl rfl fun element mem => ?_
  obtain ⟨diagnostic, _, rfl⟩ := List.mem_map.1 mem
  exact wellNamed_failureElement _ diagnostic

theorem wellNamed_document {report : LintReport} (found : report.byFile.isEmpty = false) :
    (document report).WellNamed := by
  refine wellNamed_rows fun suites mem => ?_
  rw [List.mem_singleton.1 mem]
  refine wellNamed_branch rfl rfl fun suite mem => ?_
  rw [List.mem_singleton.1 mem]
  refine wellNamed_branch rfl rfl fun element mem => ?_
  rw [caseElements, found, if_neg Bool.false_ne_true] at mem
  obtain ⟨group, _, rfl⟩ := List.mem_map.1 mem
  exact wellNamed_caseElement report group

/-- The report is read as its elements. -/
theorem read?_junit (report : LintReport) :
    Markup.read? (junit report).toList = some (document report) := by
  cases found : report.byFile.isEmpty with
  | false =>
    rw [toList_junit_of_found found]
    exact Markup.read?_write (wellNamed_document found) (by decide)
  | true =>
    have none : report.byFile = [] := List.isEmpty_iff.1 found
    rw [toList_junit]
    unfold junitLines document suitesElement suiteElement caseElements
    simp only [none, List.isEmpty_nil, if_true]
    decide +kernel

theorem readPlace?_placeText (path : String) (diagnostic : Diagnostic) :
    readPlace? (placeText path diagnostic) =
      some (path, diagnostic.location.line, diagnostic.location.column) := by
  have noColon : ∀ n : Nat, ':' ∉ (toString n).toList.reverse := fun n =>
    mt List.mem_reverse.1 (Text.not_mem_toString rfl n)
  have reversed : (placeText path diagnostic).reverse =
      (toString diagnostic.location.column).toList.reverse ++
        ':' :: ((toString diagnostic.location.line).toList.reverse ++
          ':' :: path.toList.reverse) := by
    simp only [placeText, List.reverse_append, List.reverse_cons, List.append_assoc,
      List.cons_append, List.nil_append]
  have column := Text.cut?_append (noColon diagnostic.location.column) []
    ((toString diagnostic.location.line).toList.reverse ++ ':' :: path.toList.reverse)
  have line := Text.cut?_append (noColon diagnostic.location.line) [] path.toList.reverse
  rw [List.nil_append] at column line
  rw [readPlace?, reversed]
  simp only [column, line, Option.bind_eq_bind, Option.bind_some, List.reverse_reverse,
    String.ofList_toList, Text.toNat?_toString]
  rfl

/-- The failure for a cycle of the file that is shown as `path`. -/
def failureOf (path : String) (diagnostic : Diagnostic) : Failure where
  message := diagnostic.message
  path := path
  line := diagnostic.location.line
  column := diagnostic.location.column

theorem read?_failureElement (path : String) (diagnostic : Diagnostic) :
    Failure.read? (failureElement path diagnostic) = some (failureOf path diagnostic) := by
  have message : (failureElement path diagnostic).value? "message" =
      some diagnostic.message.toList := rfl
  have text : (failureElement path diagnostic).text? = some (placeText path diagnostic) := rfl
  simp only [Failure.read?, message, text, Option.bind_eq_bind, Option.bind_some,
    readPlace?_placeText, String.ofList_toList]
  rfl

theorem elements_failures (name path : String) (diagnostics : List Diagnostic) :
    (diagnostics.map (failureElement path)).flatMap (Element.elements name) =
      if "failure" = name then diagnostics.map (failureElement path) else [] := by
  have each : ∀ diagnostic, (failureElement path diagnostic).elements name =
      if "failure" = name then [failureElement path diagnostic] else [] := fun diagnostic =>
    List.append_nil _
  rw [List.flatMap_map, List.flatMap_congr fun diagnostic _ => each diagnostic]
  by_cases same : "failure" = name
  · simp only [if_pos same]
    exact List.flatMap_pure_eq_map ..
  · simp [if_neg same]

/-- The test case of a file. -/
def caseOf (report : LintReport) (group : FileId × List Diagnostic) : TestCase where
  name := report.shownPath group.1
  failures := group.2.map (failureOf (report.shownPath group.1))

theorem read?_caseElement (report : LintReport) (group : FileId × List Diagnostic) :
    TestCase.read? (caseElement report group) = some (caseOf report group) := by
  have name : (caseElement report group).value? "name" =
      some (report.shownPath group.1).toList := rfl
  have inside : (caseElement report group).inside.elements "failure" =
      group.2.map (failureElement (report.shownPath group.1)) := by
    show (rows 3 _).elements "failure" = _
    rw [elements_rows, elements_failures, if_pos rfl]
  have failures : (group.2.map (failureElement (report.shownPath group.1))).mapM Failure.read? =
      some (group.2.map (failureOf (report.shownPath group.1))) :=
    Text.mapM_map fun diagnostic _ => read?_failureElement _ diagnostic
  simp only [TestCase.read?, name, inside, failures, Option.bind_eq_bind, Option.bind_some,
    String.ofList_toList]
  rfl

theorem mapM_read?_caseElements (report : LintReport) :
    (caseElements report).mapM TestCase.read? =
      some (if report.diagnostics = [] then [⟨"check-import-cycles", []⟩]
        else report.byFile.map (caseOf report)) := by
  rw [caseElements]
  simp only [List.isEmpty_iff, LintReport.byFile_eq_nil_iff]
  split
  · rfl
  · exact Text.mapM_map fun group _ => read?_caseElement report group

theorem length_caseElements (report : LintReport) :
    (caseElements report).length = max report.byFile.length 1 := by
  rw [caseElements]
  cases found : report.byFile with
  | nil => rfl
  | cons group groups => 
    simp

theorem elements_document (name : String) (report : LintReport) :
    (document report).elements name =
      (if "testsuites" = name then [suitesElement report] else []) ++
        ((if "testsuite" = name then [suiteElement report] else []) ++
          (caseElements report).flatMap (Element.elements name)) := by
  rw [document, elements_rows, List.flatMap_singleton, suitesElement, elements_branch,
    List.flatMap_singleton, suiteElement, elements_branch]

theorem elements_caseElement (name : String) (report : LintReport)
    (group : FileId × List Diagnostic) :
    (caseElement report group).elements name =
      (if "testcase" = name then [caseElement report group] else []) ++
        if "failure" = name then group.2.map (failureElement (report.shownPath group.1)) else [] := by
  rw [caseElement, elements_branch, elements_failures]

/-- The only elements of test cases are those that hold the failures. -/
theorem elements_testcase (report : LintReport) :
    (document report).elements "testcase" = caseElements report := by
  have each : ∀ element ∈ caseElements report, element.elements "testcase" = [element] := by
    intro element mem
    rw [caseElements] at mem
    split at mem
    · rw [List.mem_singleton.1 mem]
      rfl
    · obtain ⟨group, _, rfl⟩ := List.mem_map.1 mem
      rw [elements_caseElement, if_pos rfl, if_neg (by decide)]
      rfl
  rw [elements_document, if_neg (by decide), if_neg (by decide), List.flatMap_congr each]
  exact List.flatMap_singleton' _

/-- There are as many failures as cycles. -/
theorem length_elements_failure (report : LintReport) :
    ((document report).elements "failure").length = report.cycleCount := by
  rw [elements_document, if_neg (by decide), if_neg (by decide), LintReport.cycleCount,
    ← report.flatMap_byFile_perm.length_eq, caseElements]
  split
  · rename_i none
    rw [List.isEmpty_iff.1 none]
    rfl
  · have each : ∀ group ∈ report.byFile, (caseElement report group).elements "failure" =
        group.2.map (failureElement (report.shownPath group.1)) := by
      intro group _
      rw [elements_caseElement, if_neg (by decide), if_pos rfl]
      rfl
    rw [List.flatMap_map, List.flatMap_congr each]
    simp [List.length_flatMap]

/-- Nothing else is among the test cases. -/
theorem elements_caseElements {name : String} (notCase : "testcase" ≠ name)
    (notFailure : "failure" ≠ name) (report : LintReport) :
    (caseElements report).flatMap (Element.elements name) = [] := by
  refine List.flatMap_eq_nil_iff.2 fun element mem => ?_
  rw [caseElements] at mem
  split at mem
  · rw [List.mem_singleton.1 mem]
    show (if "testcase" = name then [cleanElement] else []) ++ [] = []
    rw [if_neg notCase]
    rfl
  · obtain ⟨group, _, rfl⟩ := List.mem_map.1 mem
    rw [elements_caseElement, if_neg notCase, if_neg notFailure]
    rfl

theorem elements_testsuites (report : LintReport) :
    (document report).elements "testsuites" = [suitesElement report] := by
  rw [elements_document, if_pos rfl, if_neg (by decide), elements_caseElements (by decide)
    (by decide)]
  rfl

theorem elements_testsuite (report : LintReport) :
    (document report).elements "testsuite" = [suiteElement report] := by
  rw [elements_document, if_neg (by decide), if_pos rfl, elements_caseElements (by decide)
    (by decide)]
  rfl

/-- Both sets of test cases say how many files fail and how many test cases there are. -/
theorem counts_of_document {report : LintReport} {element : Element}
    (mem : element ∈ [suitesElement report, suiteElement report]) :
    element.number? "tests" = some (caseElements report).length ∧
      element.number? "failures" = some report.byFile.length := by
  have attributes : ∃ name, element.attributes = ("name".toList, name) ::
      countAttributes report.byFile.length := by
    rcases List.mem_pair.1 mem with rfl | rfl
    · exact ⟨_, rfl⟩
    · exact ⟨_, rfl⟩
  obtain ⟨name, attributes⟩ := attributes
  have tests : element.value? "tests" = some (toString (max report.byFile.length 1)).toList := by
    rw [Element.value?, attributes]
    rfl
  have failures : element.value? "failures" = some (toString report.byFile.length).toList := by
    rw [Element.value?, attributes]
    rfl
  rw [Element.number?, Element.number?, tests, failures, Option.bind_some, Option.bind_some,
    String.ofList_toList, String.ofList_toList, Text.toNat?_toString, Text.toNat?_toString,
    length_caseElements]
  exact ⟨rfl, rfl⟩

/-- A reader of the report finds one failing test case for each file that cycles were found from,
in path order, with the failures of that file in the order of the report: each with its message, its
path and its place as they were, whatever texts they are. A report without cycles has one test case,
which passes. No failure is lost or found twice, and the numbers in front of the test cases count
them. -/
theorem test_cases_read_back (report : LintReport) :
    ∃ (document : Markup) (files : List FileId),
      Markup.read? (junit report).toList = some document ∧
      files.Pairwise (FileId.lt · ·) ∧
      (∀ file, file ∈ files ↔ ∃ diagnostic ∈ report.diagnostics, diagnostic.file = file) ∧
      (document.elements "testcase").mapM TestCase.read? = some
        (if report.diagnostics = [] then [{ name := "check-import-cycles", failures := [] }]
        else files.map fun file =>
          { name := report.shownPath file
            failures := (report.diagnostics.filter (·.file = file)).map fun diagnostic =>
              { message := diagnostic.message
                path := report.shownPath file
                line := diagnostic.location.line
                column := diagnostic.location.column } }) ∧
      (document.elements "failure").length = report.cycleCount ∧
      ∃ suites suite, document.elements "testsuites" = [suites] ∧
        document.elements "testsuite" = [suite] ∧
        ∀ element ∈ [suites, suite],
          element.number? "tests" = some (document.elements "testcase").length ∧
          element.number? "failures" = some files.length := by
  have cases : report.byFile.map (caseOf report) =
      (LintReport.failing report.diagnostics).map fun file =>
        caseOf report (file, LintReport.ofFile report.diagnostics file) := by
    rw [report.byFile_eq, List.map_map]
    rfl
  have count : report.byFile.length = (LintReport.failing report.diagnostics).length := by
    rw [report.byFile_eq, List.length_map]
  refine ⟨document report, LintReport.failing report.diagnostics, read?_junit report,
    LintReport.failing_pairwise _, fun file => LintReport.mem_failing, ?_,
    length_elements_failure report, suitesElement report, suiteElement report,
    elements_testsuites report, elements_testsuite report, ?_⟩
  · rw [elements_testcase, mapM_read?_caseElements, cases]
    rfl
  · intro element mem
    rw [elements_testcase, ← count]
    exact counts_of_document mem

end ImportCycles.Report.Junit
