import ImportCycles.Lint.Report

/-! # Reports as JSON

The keys of every object are in alphabetical order, and each level is indented by two blanks.
-/

namespace ImportCycles.Report

/-- A digit below sixteen, in lower case. -/
def hexDigit (n : Nat) : Char :=
  if n < 10 then Char.ofNat (0x30 + n) else Char.ofNat (0x57 + n)

/-- A character of a JSON string. -/
def jsonChar (c : Char) : List Char :=
  if c = '\x22' then ['\x5c', '\x22']
  else if c = '\x5c' then ['\x5c', '\x5c']
  else if c = '\n' then ['\x5c', 'n']
  else if c = '\r' then ['\x5c', 'r']
  else if c = '\t' then ['\x5c', 't']
  else if c = '\x08' then ['\x5c', 'b']
  else if c = '\x0c' then ['\x5c', 'f']
  else if c.toNat < 0x20 then
    ['\x5c', 'u', '0', '0', hexDigit (c.toNat / 16), hexDigit (c.toNat % 16)]
  else [c]

/-- A JSON string. -/
def jsonString (text : String) : String :=
  "\"" ++ String.ofList (text.toList.flatMap jsonChar) ++ "\""

/-- The blanks in front of a line. -/
def indent (depth : Nat) : String :=
  String.ofList (List.replicate (2 * depth) ' ')

/-- Items between brackets, each on a line of its own one level deeper. -/
def jsonBlock (first last : String) (depth : Nat) (items : List String) : String :=
  if items.isEmpty then first ++ last
  else
    first ++ "\n" ++ ",\n".intercalate (items.map (indent (depth + 1) ++ ·)) ++ "\n" ++
      indent depth ++ last

/-- An array whose items are given. -/
def jsonArray (depth : Nat) (items : List String) : String :=
  jsonBlock "[" "]" depth items

/-- An object whose fields are given in order. -/
def jsonObject (depth : Nat) (fields : List (String × String)) : String :=
  jsonBlock "\x7b" "\x7d" depth (fields.map fun (key, value) => jsonString key ++ ": " ++ value)

/-- One cycle. -/
def jsonDiagnostic (report : LintReport) (diagnostic : Diagnostic) : String :=
  let location := diagnostic.location
  jsonObject 2 [
    ("column", toString location.column),
    ("cycle", jsonArray 3 (diagnostic.cycle.members.map fun member =>
      jsonString (report.shownPath member))),
    ("file", jsonString (report.shownPath diagnostic.file)),
    ("length", toString location.length),
    ("line", toString location.line),
    ("message", jsonString diagnostic.message),
    ("offset", toString location.offset)]

/-- The report as JSON. -/
def json (report : LintReport) : String :=
  jsonObject 0 [
    ("cycle_count", toString report.cycleCount),
    ("diagnostics", jsonArray 1 (report.diagnostics.map (jsonDiagnostic report))),
    ("files_checked", toString report.filesChecked),
    ("has_cycles", if report.hasCycles then "true" else "false")]

end ImportCycles.Report
