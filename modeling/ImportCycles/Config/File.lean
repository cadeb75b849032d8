import ImportCycles.Error
import ImportCycles.Path.Parts
import ImportCycles.Toml.Document

/-! # The configuration file

The file may set the root, the depth limit, the extensions and the patterns of files to leave out,
and nothing else. A relative root is relative to the directory of the file.
-/

namespace ImportCycles

/-- What a configuration file says. -/
structure ConfigFile where
  root : Option String := none
  depthLimit : Option Nat := none
  extensions : Option (List String) := none
  exclude : List String := []
  deriving DecidableEq, Repr, Inhabited

namespace ConfigFile

open Toml (Atom Entry Fault Problem Span)

/-- The file that is read if no other is named. -/
def defaultName : String := "loop-de-loop.toml"

/-- A text, or the fault that something else was given. -/
def text (expected : String) (atom : Atom) (span : Span) : Except Fault String :=
  match atom with
  | .string s => .ok s
  | other => .error ⟨other.refusal expected, some span⟩

/-- A number of at most 64 bits that is not negative. A negative one is refused for its value if it
has that many bits, and else for its type. -/
def count (atom : Atom) (span : Span) : Except Fault Nat :=
  let bound := Toml.signedBound 64
  match atom with
  | .integer n =>
    if 0 ≤ n ∧ n < 2 * bound then .ok n.toNat
    else if -bound ≤ n ∧ n < 0 then .error ⟨.wrongValue (.integer n) "usize", some span⟩
    else .error ⟨.wrongType (.integer n) "usize", some span⟩
  | other => .error ⟨other.refusal "usize", some span⟩

/-- A list of texts. -/
def texts (value : Toml.Value) (span : Span) : Except Fault (List String) :=
  match value with
  | .array items => items.mapM fun (item, span) => text "a string" item span
  | .atom a => .error ⟨a.refusal "a sequence", some span⟩

/-- Takes one name of the file into account. -/
def set (config : ConfigFile) (entry : Entry) : Except Fault ConfigFile :=
  let value := entry.value
  let span := entry.valueSpan
  if entry.name = "root" then
    (text "path string" value.outline span).map fun root => { config with root := some root }
  else if entry.name = "depth_limit" then
    (count value.outline span).map fun n => { config with depthLimit := some n }
  else if entry.name = "extensions" then
    (texts value span).map fun list => { config with extensions := some list }
  else if entry.name = "exclude" then
    (texts value span).map fun list => { config with exclude := list }
  else .error ⟨.unknownField entry.name, some entry.nameSpan⟩

/-- Reads a configuration. A text that is not in the format is refused before any name in it; of
several bad names the first in alphabetical order is told. -/
def parse (content : String) : Except Fault ConfigFile := do
  (← Toml.parse content).foldlM set {}

/-- Reads a configuration that is known as `name`. -/
def parseNamed (content name : String) : Except Error ConfigFile :=
  (parse content).mapError (.configParse name content)

/-- Reads a configuration file. -/
def read (disk : Disk) (path : String) : Except Error ConfigFile := do
  let content ← (disk.readText path).mapError (.fileRead path)
  let config ← parseNamed content path
  let base := (Path.parent? path).getD "."
  -- Both parts are texts, so nothing is replaced.
  return { config with root := config.root.map fun root => (Path.join base root).shown }

/-- Reads the file that is named, or the default one if it is there. -/
def find (disk : Disk) (named : Option String) : Except Error ConfigFile :=
  match named with
  | some path => read disk path
  | none => if disk.isFile defaultName then read disk defaultName else .ok {}

end ConfigFile

end ImportCycles
