import ImportCycles.Proofs.ReadingBack
import ImportCycles.Report.Github
import Mathlib.Data.Option.Basic

/-! # Annotations that are read back

A reader of workflow commands gets one annotation for each cycle that was reported, in their order,
with the path, the place and the message as they were. No text ends its line or its property, since
no line end is left in it and no sign that divides properties in a path, and no text looks like an
escape, since the sign of the escapes is escaped before any other.
-/

namespace ImportCycles.Report

/-! ### Escapes -/

section Substitute

variable {c d : Char} {code : String} {text : List Char}

theorem substitute_append (c : Char) (code : String) (text other : List Char) :
    substitute c code (text ++ other) = substitute c code text ++ substitute c code other :=
  List.flatMap_append

theorem substitute_other (differ : d ≠ c) : substitute c code [d] = [d] := by
  simp [substitute, differ]

theorem mem_substitute : d ∈ substitute c code text ↔
    (d ∈ text ∧ d ≠ c) ∨ (c ∈ text ∧ d ∈ code.toList) := by
  unfold substitute
  rw [List.mem_flatMap]
  constructor
  · intro ⟨e, mem, inCode⟩
    split at inCode
    · rename_i same
      exact .inr ⟨same ▸ mem, inCode⟩
    · rename_i differ
      rw [List.mem_singleton.1 inCode]
      exact .inl ⟨mem, differ⟩
  · intro either
    rcases either with ⟨mem, differ⟩ | ⟨mem, inCode⟩
    · exact ⟨d, mem, by rw [if_neg differ]; exact List.mem_singleton_self d⟩
    · exact ⟨c, mem, by rw [if_pos rfl]; exact inCode⟩

/-- A code without the character leaves none of it. -/
theorem not_mem_substitute (absent : c ∉ code.toList) : c ∉ substitute c code text := by
  rw [mem_substitute]
  intro either
  rcases either with ⟨_, differ⟩ | ⟨_, inCode⟩
  · exact differ rfl
  · exact absent inCode

/-- A code without a character brings none of it. -/
theorem not_mem_substitute_of_not_mem (absent : d ∉ code.toList) (none : d ∉ text) :
    d ∉ substitute c code text := by
  rw [mem_substitute]
  intro either
  rcases either with ⟨mem, _⟩ | ⟨_, inCode⟩
  · exact none mem
  · exact absent inCode

end Substitute

theorem substitute_eq_self {c : Char} {code : String} {text : List Char} (absent : c ∉ text) :
    substitute c code text = text := by
  have same : ∀ d ∈ text, (if d = c then code.toList else [d]) = [d] := by
    intro d mem
    apply if_neg
    intro isSign
    exact absent (isSign ▸ mem)
  rw [substitute, List.flatMap_congr same, List.flatMap_singleton']

section Escape

variable (text other : List Char)

theorem escapeData_append : escapeData (text ++ other) = escapeData text ++ escapeData other := by
  simp only [escapeData, substitute_append]

theorem escapeProperty_append :
    escapeProperty (text ++ other) = escapeProperty text ++ escapeProperty other := by
  simp only [escapeProperty, escapeData_append, substitute_append]

theorem not_mem_escapeData : '\n' ∉ escapeData text ∧ '\r' ∉ escapeData text :=
  ⟨not_mem_substitute (by decide),
    not_mem_substitute_of_not_mem (by decide) (not_mem_substitute (by decide))⟩

theorem not_mem_escapeProperty :
    '\n' ∉ escapeProperty text ∧ '\r' ∉ escapeProperty text ∧
      ':' ∉ escapeProperty text ∧ ',' ∉ escapeProperty text := by
  have keeps : ∀ d, d ∉ "%3A".toList → d ∉ "%2C".toList → d ∉ escapeData text →
      d ∉ escapeProperty text := fun d colon comma none =>
    not_mem_substitute_of_not_mem comma (not_mem_substitute_of_not_mem colon none)
  refine ⟨?_, ?_, ?_, ?_⟩
  · exact keeps '\n' (by decide) (by decide) (not_mem_escapeData text).1
  · exact keeps '\r' (by decide) (by decide) (not_mem_escapeData text).2
  · exact not_mem_substitute_of_not_mem (by decide) (not_mem_substitute (by decide))
  · exact not_mem_substitute (by decide)

end Escape

/-- The text that was escaped. -/
def unescape : List Char → List Char
  | '%' :: '2' :: '5' :: rest => '%' :: unescape rest
  | '%' :: '0' :: 'D' :: rest => '\r' :: unescape rest
  | '%' :: '0' :: 'A' :: rest => '\n' :: unescape rest
  | '%' :: '3' :: 'A' :: rest => ':' :: unescape rest
  | '%' :: '2' :: 'C' :: rest => ',' :: unescape rest
  | c :: rest => c :: unescape rest
  | [] => []

theorem unescape_cons {c : Char} (plain : c ≠ '%') (rest : List Char) :
    unescape (c :: rest) = c :: unescape rest := by
  simp [unescape, plain]

/-- What is written for a character is read as that character, whatever follows. -/
theorem unescape_escapeData_singleton (c : Char) (rest : List Char) :
    unescape (escapeData [c] ++ rest) = c :: unescape rest := by
  by_cases percent : c = '%'
  · subst percent
    rfl
  · by_cases carriage : c = '\r'
    · subst carriage
      rfl
    · by_cases feed : c = '\n'
      · subst feed
        rfl
      · rw [escapeData, substitute_other percent, substitute_other carriage, substitute_other feed]
        exact unescape_cons percent rest

theorem unescape_escapeProperty_singleton (c : Char) (rest : List Char) :
    unescape (escapeProperty [c] ++ rest) = c :: unescape rest := by
  by_cases colon : c = ':'
  · subst colon
    rfl
  · by_cases comma : c = ','
    · subst comma
      rfl
    · -- the codes of the other characters have no colons or commas
      have absent : ∀ d, d ∉ "%25".toList → d ∉ "%0D".toList → d ∉ "%0A".toList → c ≠ d →
          d ∉ escapeData [c] := fun d percent carriage feed other =>
        not_mem_substitute_of_not_mem feed (not_mem_substitute_of_not_mem carriage
          (not_mem_substitute_of_not_mem percent (mt List.mem_singleton.1 (Ne.symm other))))
      have noColon := absent ':' (by decide) (by decide) (by decide) colon
      have noComma := absent ',' (by decide) (by decide) (by decide) comma
      rw [escapeProperty, substitute_eq_self noColon, substitute_eq_self noComma]
      exact unescape_escapeData_singleton c rest

theorem unescape_escapeData (text : List Char) : unescape (escapeData text) = text :=
  Text.read_write_of_singleton rfl escapeData_append unescape_escapeData_singleton text

theorem unescape_escapeProperty (text : List Char) : unescape (escapeProperty text) = text :=
  Text.read_write_of_singleton rfl escapeProperty_append unescape_escapeProperty_singleton text

/-- Numbers are written as they are. -/
theorem escape_toString (n : Nat) :
    escapeData (toString n).toList = (toString n).toList ∧
      escapeProperty (toString n).toList = (toString n).toList := by
  have plain : ∀ (c : Char) (code : String), c.isDigit = false →
      substitute c code (toString n).toList = (toString n).toList := fun c code other =>
    substitute_eq_self (Text.not_mem_toString other n)
  have data : escapeData (toString n).toList = (toString n).toList := by
    rw [escapeData, plain '%' _ rfl, plain '\r' _ rfl, plain '\n' _ rfl]
  refine ⟨data, ?_⟩
  rw [escapeProperty, data, plain ':' _ rfl, plain ',' _ rfl]

/-! ### Commands -/

/-- A workflow command. -/
structure Command where
  name : List Char
  properties : List (List Char × List Char)
  message : List Char

namespace Command

/-- A property with its value. -/
def writeProperty (property : List Char × List Char) : List Char :=
  property.1 ++ '=' :: escapeProperty property.2

/-- What stands between the colons that start a line and those in front of the message. -/
def head (command : Command) : List Char :=
  command.name ++ ' ' :: [','].intercalate (command.properties.map writeProperty)

/-- The line of a command. -/
def write (command : Command) : List Char :=
  "::".toList ++ (command.head ++ ("::".toList ++ escapeData command.message))

/-- Reads a property: the key ends at the first sign of equality. -/
def readProperty? (text : List Char) : Option (List Char × List Char) :=
  (Text.cut? ['='] text).map fun (key, value) => (key, unescape value)

/-- Reads a line. The properties end at the first two colons behind those the line starts with, and
each of them ends at the next comma. -/
def read? (line : List Char) : Option Command := do
  let inner ← "::".toList.isPrefixOf? line
  let (head, message) ← Text.cut? "::".toList inner
  let (name, properties) ← Text.cut? [' '] head
  let properties ← (properties.splitOn ',').mapM readProperty?
  return ⟨name, properties, unescape message⟩

/-- The command and its keys are named in small letters, and it has a property. Any text is good
for a value or the message. -/
structure WellNamed (command : Command) : Prop where
  name : command.name.all Char.isLower = true
  keys : (command.properties.all fun property => property.1.all Char.isLower) = true
  properties : command.properties ≠ []

theorem readProperty?_writeProperty {property : List Char × List Char}
    (lower : property.1.all Char.isLower = true) :
    readProperty? (writeProperty property) = some property := by
  have absent : '=' ∉ property.1 := Text.not_mem_of_isLower rfl lower
  have cut : Text.cut? ['='] (writeProperty property) =
      some (property.1, escapeProperty property.2) :=
    Text.cut?_append absent [] (escapeProperty property.2)
  rw [readProperty?, cut]
  show some (property.1, unescape (escapeProperty property.2)) = some property
  rw [unescape_escapeProperty]

section WellNamed

variable {command : Command} {c : Char}

theorem WellNamed.not_mem_writeProperty (named : command.WellNamed) (other : c.isLower = false)
    (equality : c ≠ '=') (escaped : ∀ text, c ∉ escapeProperty text)
    {property : List Char × List Char} (mem : property ∈ command.properties) :
    c ∉ writeProperty property := by
  rw [writeProperty, List.mem_append, List.mem_cons, not_or, not_or]
  exact ⟨Text.not_mem_of_isLower other (List.all_eq_true.1 named.keys property mem), equality, escaped property.2⟩

/-- A character that is escaped in the values is not in front of the message at all. -/
theorem WellNamed.not_mem_head (named : command.WellNamed) (other : c.isLower = false)
    (signs : c ∉ [' ', '=', ',']) (escaped : ∀ text, c ∉ escapeProperty text) :
    c ∉ command.head := by
  simp only [List.mem_cons, List.not_mem_nil, or_false, not_or] at signs
  obtain ⟨space, equality, comma⟩ := signs
  rw [head, List.mem_append, List.mem_cons, not_or, not_or]
  refine ⟨Text.not_mem_of_isLower other named.name, space, fun mem => ?_⟩
  rcases Text.mem_intercalate_singleton mem with isComma | ⟨part, partMem, inPart⟩
  · exact comma isComma
  · obtain ⟨property, propertyMem, rfl⟩ := List.mem_map.1 partMem
    exact named.not_mem_writeProperty other equality escaped propertyMem inPart

/-- No character of a command's texts ends its line. -/
theorem WellNamed.not_mem_write (named : command.WellNamed) :
    '\n' ∉ command.write ∧ '\r' ∉ command.write := by
  have noFeed : '\n' ∉ command.head := named.not_mem_head rfl (by decide) fun text =>
    (not_mem_escapeProperty text).1
  have noCarriage : '\r' ∉ command.head := named.not_mem_head rfl (by decide) fun text =>
    (not_mem_escapeProperty text).2.1
  simp only [write, List.mem_append, not_or]
  exact ⟨⟨by decide, noFeed, by decide, (not_mem_escapeData command.message).1⟩,
    by decide, noCarriage, by decide, (not_mem_escapeData command.message).2⟩

theorem WellNamed.read?_write (named : command.WellNamed) : read? command.write = some command := by
  have inner : "::".toList.isPrefixOf? command.write =
      some (command.head ++ ("::".toList ++ escapeData command.message)) :=
    List.isPrefixOf?_eq_some_iff_append_eq.2 rfl
  have parts : Text.cut? "::".toList (command.head ++ ("::".toList ++ escapeData command.message)) =
      some (command.head, escapeData command.message) := by
    have absent : ':' ∉ command.head := named.not_mem_head rfl (by decide) fun text =>
      (not_mem_escapeProperty text).2.2.1
    exact Text.cut?_append absent [':'] (escapeData command.message)
  have divided : Text.cut? [' '] command.head =
      some (command.name, [','].intercalate (command.properties.map writeProperty)) :=
    Text.cut?_append (Text.not_mem_of_isLower rfl named.name) [] _
  have single : ([','].intercalate (command.properties.map writeProperty)).splitOn ',' =
      command.properties.map writeProperty := by
    refine List.splitOn_intercalate ',' (fun part mem => ?_) ?_
    · obtain ⟨property, propertyMem, rfl⟩ := List.mem_map.1 mem
      exact named.not_mem_writeProperty rfl (by decide)
        (fun text => (not_mem_escapeProperty text).2.2.2) propertyMem
    · exact fun none => named.properties (List.map_eq_nil_iff.1 none)
  have properties : (command.properties.map writeProperty).mapM readProperty? =
      some command.properties := by
    rw [Text.mapM_map fun property mem => readProperty?_writeProperty (List.all_eq_true.1 named.keys property mem),
      List.map_id']
  simp only [read?, inner, parts, divided, single, properties, Option.bind_eq_bind,
    Option.bind_some, unescape_escapeData]
  rfl

end WellNamed

end Command

/-! ### Annotations -/

/-- An annotation: what a reader of workflow commands shows at a place in a file. -/
structure Remark where
  path : String
  line : Nat
  column : Nat
  message : String
  deriving DecidableEq

namespace Remark

/-- The annotation that a command asks for. -/
def ofCommand? (command : Command) : Option Remark := do
  guard (command.name = "error".toList)
  let path ← command.properties.lookup "file".toList
  let line ← (command.properties.lookup "line".toList).bind fun text => (String.ofList text).toNat?
  let column ← (command.properties.lookup "col".toList).bind fun text => (String.ofList text).toNat?
  return ⟨String.ofList path, line, column, String.ofList command.message⟩

/-- Reads the annotation that a line asks for. -/
def read? (line : List Char) : Option Remark :=
  (Command.read? line).bind ofCommand?

/-- The annotation for a cycle. -/
def ofDiagnostic (report : LintReport) (diagnostic : Diagnostic) : Remark where
  path := report.shownPath diagnostic.file
  line := diagnostic.location.line
  column := diagnostic.location.column
  message := diagnostic.message

/-- The command that asks for an annotation. -/
def command (remark : Remark) : Command where
  name := "error".toList
  properties := [("file".toList, remark.path.toList),
    ("line".toList, (toString remark.line).toList),
    ("col".toList, (toString remark.column).toList),
    ("title".toList, "Circular Import".toList)]
  message := remark.message.toList

theorem wellNamed_command (remark : Remark) : remark.command.WellNamed where
  name := rfl
  keys := rfl
  properties := List.cons_ne_nil _ _

theorem ofCommand?_command (remark : Remark) :
    ofCommand? remark.command = some remark := by
  have path : remark.command.properties.lookup "file".toList = some remark.path.toList :=
    rfl
  have line : remark.command.properties.lookup "line".toList =
      some (toString remark.line).toList := rfl
  have column : remark.command.properties.lookup "col".toList =
      some (toString remark.column).toList := rfl
  simp only [ofCommand?, path, line, column, Option.bind_some, String.ofList_toList,
    Text.toNat?_toString, Option.bind_eq_bind]
  show some (Remark.mk remark.path remark.line remark.column
    (String.ofList remark.message.toList)) = some remark
  rw [String.ofList_toList]

theorem read?_command (remark : Remark) :
    read? remark.command.write = some remark := by
  rw [read?, (wellNamed_command remark).read?_write, Option.bind_some, ofCommand?_command]

end Remark

/-- The command in the last line, which counts what was found. -/
def notice (report : LintReport) : Command where
  name := "notice".toList
  properties :=
    [("title".toList, (if report.hasCycles then "Import Cycles" else "Import Check").toList)]
  message :=
    if report.hasCycles then
      "Found ".toList ++ (toString report.cycleCount).toList ++ " circular ".toList ++
        (Text.plural "import" report.cycleCount).toList
    else "No circular imports detected! ✅".toList

theorem wellNamed_notice (report : LintReport) : (notice report).WellNamed where
  name := rfl
  keys := rfl
  properties := List.cons_ne_nil _ _

/-- The last line marks no file. -/
theorem ofCommand?_notice (report : LintReport) : Remark.ofCommand? (notice report) = none := by
  have other : (notice report).name ≠ "error".toList := by
    show "notice".toList ≠ "error".toList
    decide
  unfold Remark.ofCommand?
  rw [guard, if_neg other]
  rfl

/-- The line for a cycle is the command for its remark. -/
theorem toList_githubCommand (report : LintReport) (diagnostic : Diagnostic) :
    (githubCommand report diagnostic).toList =
      (Remark.ofDiagnostic report diagnostic).command.write := by
  -- The signs in the literals, apart from the names.
  have file : "::error file=".toList = "::".toList ++ ("error".toList ++ ' ' :: "file".toList ++
      ['=']) := by decide
  have line : ",line=".toList = ',' :: "line".toList ++ ['='] := by decide
  have column : ",col=".toList = ',' :: "col".toList ++ ['='] := by decide
  have title : ",title=Circular Import::".toList =
      ',' :: "title".toList ++ '=' :: escapeProperty "Circular Import".toList ++ "::".toList := by
    decide
  unfold githubCommand Remark.ofDiagnostic Command.write Command.head Remark.command
  simp only [Command.writeProperty, String.toList_append, String.toList_ofList, List.map_cons,
    List.map_nil, (escape_toString diagnostic.location.line).2,
    (escape_toString diagnostic.location.column).2, List.intercalate_cons_cons,
    List.intercalate_singleton]
  rw [file, line, column, title]
  simp only [List.append_assoc, List.cons_append, List.nil_append]

theorem escapeData_plural (n : Nat) :
    escapeData (Text.plural "import" n).toList = (Text.plural "import" n).toList := by
  unfold Text.plural
  split
  · decide
  · decide

/-- The last line of a report with cycles is the command that counts them. -/
theorem toList_count {report : LintReport} (cycles : report.hasCycles = true) :
    ("::notice title=Import Cycles::Found " ++ toString report.cycleCount ++ " circular " ++
      Text.plural "import" report.cycleCount).toList = (notice report).write := by
  have start : "::notice title=Import Cycles::Found ".toList = "::".toList ++ ("notice".toList ++
      ' ' :: "title".toList ++ '=' :: escapeProperty "Import Cycles".toList ++
        ("::".toList ++ escapeData "Found ".toList)) := by decide
  have middle : escapeData " circular ".toList = " circular ".toList := by decide
  unfold notice Command.write Command.head
  simp only [cycles, if_true, Command.writeProperty, String.toList_append, List.map_cons,
    List.map_nil, List.intercalate_singleton, escapeData_append, middle, escapeData_plural,
    (escape_toString report.cycleCount).1]
  rw [start]
  simp only [List.append_assoc, List.cons_append]

/-- The only line of a report without cycles. -/
theorem toList_clean {report : LintReport} (clean : report.hasCycles = false) :
    "::notice title=Import Check::No circular imports detected! ✅".toList =
      (notice report).write := by
  have command : notice report =
      ⟨"notice".toList, [("title".toList, "Import Check".toList)],
        "No circular imports detected! ✅".toList⟩ := by
    unfold notice
    simp only [clean, Bool.false_eq_true, if_false]
  rw [command]
  decide +kernel

/-- Every line is a command: one for each cycle, and the one that counts. -/
theorem map_toList_githubLines (report : LintReport) :
    (githubLines report).map String.toList =
      (report.diagnostics.map fun diagnostic =>
        (Remark.ofDiagnostic report diagnostic).command.write) ++ [(notice report).write] := by
  unfold githubLines
  cases found : report.hasCycles with
  | false =>
    have none : report.diagnostics = [] := by simpa [LintReport.hasCycles] using found
    rw [none]
    exact congrArg (fun line => [line]) (toList_clean found)
  | true =>
    show (report.diagnostics.map (githubCommand report) ++ [_]).map String.toList = _
    rw [List.map_append, List.map_map, List.map_singleton, toList_count found]
    exact congrArg (· ++ [(notice report).write])
      (List.map_congr_left fun diagnostic _ => toList_githubCommand report diagnostic)

/-- Every cycle is announced once, in the order of the report, and a reader of the lines finds
the path, the place and the message of each as they were, whatever texts they are. Only the last
line, which counts the cycles, marks no file. -/
theorem annotations_read_back (report : LintReport) :
    ∃ lines : List (List Char),
      (github report).toList = lines.flatMap (· ++ ['\n']) ∧
      (∀ line ∈ lines, '\n' ∉ line ∧ '\r' ∉ line) ∧
      lines.length = report.cycleCount + 1 ∧
      lines.map Remark.read? =
        (report.diagnostics.map fun diagnostic => some
          { path := report.shownPath diagnostic.file
            line := diagnostic.location.line
            column := diagnostic.location.column
            message := diagnostic.message }) ++ [none] ∧
      ∀ text, unescape (escapeProperty text) = text ∧ unescape (escapeData text) = text := by
  refine ⟨(githubLines report).map String.toList, ?_, ?_, ?_, ?_, fun text =>
    ⟨unescape_escapeProperty text, unescape_escapeData text⟩⟩
  · simp [github, List.flatMap_map]
  · intro line mem
    rw [map_toList_githubLines, List.mem_append, List.mem_map, List.mem_singleton] at mem
    rcases mem with ⟨diagnostic, _, rfl⟩ | rfl
    · exact (Remark.wellNamed_command _).not_mem_write
    · exact (wellNamed_notice report).not_mem_write
  · rw [map_toList_githubLines, List.length_append, List.length_map, List.length_singleton]
    rfl
  · have last : Remark.read? (notice report).write = none := by
      rw [Remark.read?, (wellNamed_notice report).read?_write]
      exact ofCommand?_notice report
    rw [map_toList_githubLines, List.map_append, List.map_map, List.map_singleton, last]
    simp only [Function.comp_def, Remark.read?_command, Remark.ofDiagnostic]

end ImportCycles.Report
