import ImportCycles.Sorted
import ImportCycles.Toml.Outline
import ImportCycles.Toml.Scalar

/-! # Configuration documents

What is read of a document is its top level: the names defined there, each with the place of its
name and of its value. A name may be defined once; tables may be opened and extended as the format
allows. The statements are read in order, each key before its value.
-/

namespace ImportCycles.Toml

/-- A name in a key, with its place. -/
structure KeyPart where
  name : String
  span : Span
  deriving DecidableEq, Repr

/-- The characters of a key that needs no quotes. -/
def isBareKeyChar (c : Char) : Bool :=
  c.isAlphanum || c == '-' || c == '_'

/-- The name that a token in a key stands for. The first characters that need quotes and have none
are told together. -/
def Token.name (token : Token) : Except Fault String :=
  match token.kind with
  | .quoted quotes =>
    if quotes.block then .error (Problem.within (.blockKey quotes) token.span)
    else token.unquote quotes
  | _ =>
    match token.text, token.text.dropWhile isBareKeyChar with
    | [], _ => .error (Problem.before .emptyKey token.start)
    | text, [] => .ok (String.ofList text)
    | _, rest =>
      let bad := rest.takeWhile (!isBareKeyChar ·)
      .error (Problem.within .badKey ⟨token.offsetOf rest, Text.byteLength bad⟩)

/-- How many names a key may have. -/
def maxNames : Nat := 80

/-- The names of a key, but not too many of them. -/
def keyParts (tokens : List Token) : Except Fault (List KeyPart) := do
  let parts ← tokens.mapM fun token => return ⟨← token.name, token.span⟩
  if maxNames < parts.length then throw ⟨.tooLong, none⟩
  return parts

/-- How a name of the document was defined. -/
inductive Definition where
  | value (atom : Atom)
  /-- A table that was only passed through by headers. -/
  | passed
  /-- A table that has a header of its own. -/
  | header
  /-- A table that keys with dots have made. -/
  | dotted
  /-- As many tables under one name. -/
  | tables (count : Nat)
  deriving DecidableEq, Repr

/-- What paths of names stand for, the newest first. -/
abbrev Definitions := List (List String × Definition)

namespace Definitions

/-- What a path of names stands for. -/
def find? (definitions : Definitions) (path : List String) : Option Definition :=
  (List.find? (·.1 = path) definitions).map (·.2)

/-- Says what a path of names stands for. -/
def define (definitions : Definitions) (path : List String) (definition : Definition) :
    Definitions :=
  (path, definition) :: definitions

/-- The path of the newest of several tables under one name. The sign keeps it apart from names. -/
def newest (path : List String) (count : Nat) : List String :=
  path ++ ["#" ++ toString count]

/-- Goes from a table into the one with the given name. Each of `header`, `key` and `field` is a way
to get there. -/
abbrev Pass := Definitions → List String → KeyPart → Except Fault (Definitions × List String)

/-- Goes into a table on the way of a header. -/
def passHeader : Pass := fun definitions here part =>
  let path := here ++ [part.name]
  match definitions.find? path with
  | none => .ok (definitions.define path .passed, path)
  | some (.value atom) => .error (Problem.within (.notExtendable atom) part.span)
  | some (.tables count) => .ok (definitions, newest path count)
  | some _ => .ok (definitions, path)

/-- Goes into a table on the way of a key with dots. A table that has a header of its own is not
reached in this way. -/
def passKey : Pass := fun definitions here part =>
  let path := here ++ [part.name]
  match definitions.find? path with
  | none => .ok (definitions.define path .dotted, path)
  | some (.value atom) => .error (Problem.within (.notExtendable atom) part.span)
  | some (.tables count) => .ok (definitions, newest path count)
  | some .header => .error (Problem.within .duplicate part.span)
  | some _ => .ok (definitions, path)

/-- Goes into a table on the way of a key with dots inside of braces. -/
def passField : Pass := fun definitions here part =>
  let path := here ++ [part.name]
  match definitions.find? path with
  | none => .ok (definitions.define path .dotted, path)
  | some (.value .table) => .error (Problem.within .duplicate part.span)
  | some (.value atom) => .error (Problem.within (.notExtendable atom) part.span)
  | some _ => .ok (definitions, path)

/-- Goes through all names. -/
def passAll (pass : Pass) (definitions : Definitions) (here : List String) :
    List KeyPart → Except Fault (Definitions × List String)
  | [] => .ok (definitions, here)
  | part :: rest => do
    let (definitions, here) ← pass definitions here part
    passAll pass definitions here rest

/-- Defines a name that was not defined before. -/
def add (definitions : Definitions) (here : List String) (part : KeyPart) (value : Atom) :
    Except Fault Definitions :=
  let path := here ++ [part.name]
  match definitions.find? path with
  | none => .ok (definitions.define path (.value value))
  | some _ => .error (Problem.within .duplicate part.span)

end Definitions

mutual

/-- The value that a part of an outline stands for. -/
def Node.value : Node → Except Fault Value
  | .leaf token =>
    match token.kind with
    | .quoted quotes => return .atom (.string (← token.unquote quotes))
    | _ => return .atom (← Scalar.read token)
  | .array items _ => return .array (← itemValues items)
  | .table fields _ => do
    let _ ← fieldDefinitions [] fields
    return .atom .table

/-- The values of the items of an array, with their places. -/
def itemValues : List Node → Except Fault (List (Atom × Span))
  | [] => .ok []
  | item :: rest => do
    let value ← item.value
    return (value.outline, item.span) :: (← itemValues rest)

/-- What the fields of a table in braces define, after others. -/
def fieldDefinitions (definitions : Definitions) :
    List (List Token × Node) → Except Fault Definitions
  | [] => .ok definitions
  | (key, node) :: rest => do
    let parts ← keyParts key
    let value ← node.value
    match parts.getLast? with
    | none => fieldDefinitions definitions rest
    | some last =>
      let (definitions, here) ←
        definitions.passAll Definitions.passField [] parts.dropLast
      fieldDefinitions (← definitions.add here last value.outline) rest

end

/-- A name at the top level of a document. -/
structure Entry where
  name : String
  nameSpan : Span
  value : Value
  valueSpan : Span
  deriving DecidableEq, Repr

namespace Entry

/-- The entry of a name that headers or keys with dots only pass through. -/
def passed (part : KeyPart) : Entry :=
  ⟨part.name, part.span, .atom .table, part.span⟩

/-- The entry of a table with a header of its own, or of several such tables. -/
def headed (part : KeyPart) (repeated : Bool) (span : Span) : Entry :=
  ⟨part.name, part.span, if repeated then .array [(.table, span)] else .atom .table, span⟩

end Entry

/-- What is known of a document while it is read. -/
structure State where
  /-- What each path of names stands for. -/
  definitions : Definitions := []
  /-- The names at the top level, the newest first. -/
  entries : List Entry := []
  /-- The table that keys go to. -/
  current : List String := []
  /-- Why that table cannot be added to the document. This is told when all of it is read. -/
  pending : Option Fault := none

namespace State

/-- Records a name of the top level when it is seen first. -/
def record (state : State) (entry : Entry) : State :=
  if state.entries.any (·.name = entry.name) then state
  else { state with entries := entry :: state.entries }

/-- Records a name of the top level in place of what was known of it. -/
def replace (state : State) (entry : Entry) : State :=
  { state with entries := entry :: state.entries.filter (·.name ≠ entry.name) }

/-- Ends the table that keys go to. -/
def close (state : State) : Except Fault Unit :=
  match state.pending with
  | some fault => .error fault
  | none => .ok ()

/-- What a header defines, and the path of its table. -/
def headerTable (state : State) (parts : List KeyPart) (last : KeyPart) (repeated : Bool) :
    Except Fault (Definitions × List String) := do
  let (definitions, here) ←
    state.definitions.passAll Definitions.passHeader [] parts.dropLast
  let path := here ++ [last.name]
  match repeated, definitions.find? path with
  | false, none | false, some .passed => return (definitions.define path .header, path)
  | true, none => return (definitions.define path (.tables 1), Definitions.newest path 1)
  | true, some (.tables n) =>
    return (definitions.define path (.tables (n + 1)), Definitions.newest path (n + 1))
  | _, _ => throw (Problem.within .duplicate last.span)

/-- Opens the table of a header; `repeated` says that there may be several of it. A table's own
header says more about it than the headers of the tables inside. If a table that may be repeated
cannot be added, its keys are still read. -/
def openTable (state : State) (parts : List KeyPart) (repeated : Bool) (span : Span) :
    Except Fault State :=
  match parts.getLast?, parts.head? with
  | some last, some first =>
    let state :=
      if parts.length ≠ 1 then state.record (.passed first)
      else if repeated then state.record (.headed first true span)
      else state.replace (.headed first false span)
    match repeated, state.headerTable parts last repeated with
    | _, .ok (definitions, path) => .ok { state with definitions, current := path }
    | true, .error fault =>
      .ok { state with current := Definitions.newest [] 0, pending := some fault }
    | false, .error fault => .error fault
  | _, _ => .ok state

/-- Gives a key its value. A key with dots goes through tables that headers have made, but adds only
to those that such keys have made. -/
def assign (state : State) (parts : List KeyPart) (value : Value) (span : Span) :
    Except Fault State :=
  match parts.getLast?, parts.head? with
  | some last, some first => do
    let entry :=
      if parts.length = 1 then ⟨first.name, first.span, value, span⟩ else .passed first
    let state := if state.current.isEmpty then state.record entry else state
    let (definitions, here) ←
      state.definitions.passAll Definitions.passKey state.current parts.dropLast
    if parts.length ≠ 1 ∧ definitions.find? here ≠ some .dotted then
      throw (Problem.within .duplicate last.span)
    return { state with definitions := ← definitions.add here last value.outline }
  | _, _ => .ok state

/-- Takes a statement into account. -/
def apply (state : State) : Statement → Except Fault State
  | .header names repeated span => do
    state.close
    state.openTable (← keyParts names) repeated span
  | .pair names node => do
    let parts ← keyParts names
    state.assign parts (← node.value) node.span

end State

/-- The names at the top level of a document, by name. -/
def parse (content : String) : Except Fault (List Entry) := do
  let state ← (← outline content.toList).foldlM State.apply {}
  state.close
  return Sorted.sortBy (fun a b => a.name ≤ b.name) state.entries

end ImportCycles.Toml
