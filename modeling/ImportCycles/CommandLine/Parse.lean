import ImportCycles.CommandLine.Command
import ImportCycles.CommandLine.Spec

/-! # Reading the command line

Arguments are read from left to right. A value that stands apart from its option is taken in when
the next argument begins, and only then checked: a mistake that follows at once is told first.
-/

namespace ImportCycles.CommandLine

/-- Why a command line asks for no command. -/
inductive Refusal where
  /-- The help was asked for: of the program or of a command, in short or at length. -/
  | help (command : Option CommandName) (long : Bool)
  /-- The help about the help was asked for. -/
  | helpAboutHelp
  | version
  /-- Nothing was given at all. -/
  | nothingGiven
  | missingCommand
  | unknownCommand
  | unknownArgument
  | missingArgument
  /-- A value that is not among the accepted ones, or none where one is needed. -/
  | badValue
  /-- A value that does not read as a number. -/
  | badNumber
  /-- An argument was given twice. -/
  | repeated
  /-- A value was given to an argument that takes none. -/
  | unwantedValue
  deriving DecidableEq, Repr

/-- The number that digits spell after an optional plus sign, if 64 bits can hold it. -/
def number? (text : String) : Option Nat :=
  let digits := match text.toList with
    | '+' :: rest => rest
    | all => all
  if digits.isEmpty || !digits.all Char.isDigit then none
  else
    let n := digits.foldl (fun n c => 10 * n + (c.toNat - 0x30)) 0
    if n < Nat.pow 2 64 then some n else none

/-- Checks a value. -/
def Accepts.check (accepts : Accepts) (value : String) : Except Refusal Unit :=
  match accepts with
  | .anyText => .ok ()
  | .path => if value = "" then .error .badValue else .ok ()
  | .number => if (number? value).isSome then .ok () else .error .badNumber
  | .oneOf choices => if value ∈ choices then .ok () else .error .badValue

/-- The values that arguments were given, by the names of the arguments. -/
abbrev Matches := List (String × List String)

/-- The values of an argument. -/
def Matches.values? (found : Matches) (id : String) : Option (List String) :=
  (found.find? (·.1 = id)).map (·.2)

/-- Adds values to those of an argument. -/
def Matches.add (found : Matches) (id : String) (values : List String) : Matches :=
  (id, (found.values? id).getD [] ++ values) :: found

/-- Where the reading of a command line stands. -/
structure State where
  found : Matches := []
  /-- An argument whose values are not taken in yet. -/
  pending : Option (Arg × List String) := none
  /-- Does the last option still want a value? -/
  wanting : Bool := false
  /-- How many places are filled. -/
  places : Nat := 0
  /-- Did `--` end the options? -/
  escaped : Bool := false

/-- Takes in an argument with its values. `fromLine` says that they come from the command line. -/
def take (command : Option CommandName) (found : Matches) (arg : Arg) (values : List String)
    (fromLine long : Bool) : Except Refusal Matches :=
  let once := fun (values : List String) (accepts : Accepts) => do
    if fromLine && (found.values? arg.id).isSome then throw .repeated
    values.forM accepts.check
    return found.add arg.id values
  match arg.action with
  | .single accepts => if values.isEmpty then .error .badValue else once values accepts
  | .many accepts => do
    if values.isEmpty then throw .badValue
    let values := match arg.form with
      | .option .. => values.flatMap fun value =>
          (value.toList.splitOn ',').map String.ofList
      | .positional .. => values
    values.forM accepts.check
    return found.add arg.id values
  | .flag => once (if values.isEmpty then ["true"] else values) (.oneOf ["true", "false"])
  | .count => .ok (found.add arg.id ["1"])
  | .help => .error (.help command long)
  | .version => .error .version

/-- Takes in the argument that is pending. -/
def State.settle (command : Option CommandName) (state : State) : Except Refusal State :=
  match state.pending with
  | none => .ok state
  | some (arg, values) => do
    let found ← take command state.found arg values true false
    return { state with found, pending := none, wanting := false }

/-- Takes in an argument at once, after the one that is pending. -/
def State.takeNow (command : Option CommandName) (state : State) (arg : Arg)
    (values : List String) (long : Bool) : Except Refusal State := do
  let state ← state.settle command
  return { state with found := ← take command state.found arg values true long }

/-- Does the argument want a value? -/
def Arg.takesValue (arg : Arg) : Bool :=
  match arg.action with
  | .single _ | .many _ => true
  | _ => false

/-- Begins an option that wants a value, which may be attached to it. -/
def State.beginOption (command : Option CommandName) (state : State) (arg : Arg)
    (attached : Option String) (long : Bool) : Except Refusal State :=
  match attached with
  | some value => state.takeNow command arg [value] long
  | none => do
    let state ← state.settle command
    return { state with pending := some (arg, []), wanting := true }

/-- An argument after two dashes; a value may follow a `=`. -/
def State.readLong (command : Option CommandName) (args : List Arg) (state : State)
    (text : List Char) : Except Refusal State :=
  let name := String.ofList (text.takeWhile (· ≠ '='))
  let attached := match text.dropWhile (· ≠ '=') with
    | [] => none
    | _ :: value => some (String.ofList value)
  let isNamed := fun (arg : Arg) => match arg.form with
    | .option long _ => long == name
    | .positional .. => false
  match args.find? isNamed with
  | none => .error .unknownArgument
  | some arg =>
    if arg.takesValue then state.beginOption command arg attached true
    else if attached.isSome then .error .unwantedValue
    else state.takeNow command arg [] true

/-- Letters after one dash. A letter that wants a value takes what follows it, with or without a
`=` between them. -/
def readShort (command : Option CommandName) (args : List Arg) :
    State → List Char → Except Refusal State
  | state, [] => .ok state
  | state, c :: rest =>
    let isNamed := fun (arg : Arg) => match arg.form with
      | .option _ short => short == some c
      | .positional .. => false
    match args.find? isNamed with
    | none => .error .unknownArgument
    | some arg =>
      if arg.takesValue then
        let attached := match rest with
          | [] => none
          | '=' :: value => some (String.ofList value)
          | value => some (String.ofList value)
        state.beginOption command arg attached false
      else do readShort command args (← state.takeNow command arg [] false) rest

/-- The argument whose place comes after `places` others. -/
def placed? (args : List Arg) (places : Nat) : Option Arg :=
  let positional := args.filter fun arg => match arg.form with
    | .option .. => false
    | .positional .. => true
  positional[places]?

/-- An argument that stands at its place. -/
def State.readPlaced (command : Option CommandName) (args : List Arg) (state : State)
    (text : String) : Except Refusal State :=
  match placed? args state.places with
  | none => .error .unknownArgument
  | some arg =>
    match arg.form, state.pending with
    | .positional _ true, some (before, values) =>
      if before.id = arg.id then
        .ok { state with pending := some (arg, values ++ [text]) }
      else do
        let state ← state.settle command
        return { state with pending := some (arg, [text]), wanting := false }
    | .positional _ true, none =>
      .ok { state with pending := some (arg, [text]), wanting := false }
    | _, _ => do
      let state ← state.settle command
      return { state with pending := some (arg, [text]), wanting := false,
                          places := state.places + 1 }

/-- Reads one argument of a command. -/
def State.read (command : Option CommandName) (args : List Arg) (state : State) (text : String) :
    Except Refusal State :=
  if state.escaped then state.readPlaced command args text
  else
    match text.toList with
    | ['-', '-'] => .ok { state with escaped := true }
    | '-' :: '-' :: rest => state.readLong command args rest
    | '-' :: c :: rest => readShort command args state (c :: rest)
    | _ =>
      match state.wanting, state.pending with
      | true, some (arg, values) =>
        .ok { state with pending := some (arg, values ++ [text]), wanting := false }
      | _, _ => state.readPlaced command args text

/-- Takes the values of absent arguments from the environment. -/
def fromEnvironment (command : CommandName) (env : String → Option String) (found : Matches) :
    Except Refusal Matches :=
  command.args.foldlM (fun (found : Matches) arg =>
    match found.values? arg.id, arg.env.bind env with
    | none, some value => take command found arg [value] false false
    | _, _ => .ok found) found

/-- Is an argument missing that has to be given? -/
def lacksRequired (command : CommandName) (found : Matches) : Bool :=
  command.args.any fun arg => match arg.form with
    | .positional true _ => (found.values? arg.id).isNone
    | _ => false

/-- The values of the arguments of a command. -/
def readCommand (command : CommandName) (env : String → Option String) (args : List String) :
    Except Refusal Matches := do
  let state ← args.foldlM (State.read command command.args) {}
  let state ← state.settle command
  let found ← fromEnvironment command env state.found
  if lacksRequired command found then throw .missingArgument
  return found

/-- The last value of an argument, or its default. -/
def Matches.value? (found : Matches) (arg : Arg) : Option String :=
  ((found.values? arg.id).bind List.getLast?) <|> arg.default

/-- The number that an argument was given. -/
def Matches.number? (found : Matches) (arg : Arg) : Option Nat :=
  (found.value? arg).bind CommandLine.number?

/-- Was the answer to the argument yes? -/
def Matches.isTrue (found : Matches) (arg : Arg) : Bool :=
  found.value? arg == some "true"

/-- How often an argument was given, as far as eight bits count. -/
def Matches.count (found : Matches) (arg : Arg) : Nat :=
  min 255 ((found.values? arg.id).getD []).length

/-- The arguments that all commands share. -/
def Matches.common (found : Matches) : SharedArgs where
  paths := (found.values? pathsArg.id).getD []
  root := found.value? rootArg
  exclude := (found.values? excludeArg.id).getD []
  extensions := found.values? extensionsArg.id
  config := found.value? configArg

/-- The arguments that limit the search and the report. -/
def Matches.search (found : Matches) : SearchArgs where
  depthLimit := found.number? depthLimitArg
  maxCycles := found.number? maxCyclesArg

/-- The format of a report. -/
def Matches.reportFormat (found : Matches) : Report.Format :=
  (Report.Format.all.find? fun format =>
    found.value? reportFormatArg == some format.name).getD .human

/-- The format of a drawing. -/
def Matches.drawingFormat (found : Matches) : Drawing.Format :=
  (Drawing.Format.all.find? fun format =>
    found.value? drawingFormatArg == some format.name).getD .ascii

/-- The command that the values of its arguments make. -/
def Matches.command (found : Matches) : CommandName → Command
  | .inspect =>
    .inspect found.common found.reportFormat found.search (found.isTrue errorOnCyclesArg)
  | .spotlight =>
    .spotlight ((found.value? fileArg).getD "") found.common found.reportFormat found.search
  | .spectacle =>
    .spectacle found.common found.drawingFormat (found.value? outputArg)
      (found.isTrue highlightArg)

/-- What follows the word `help`: the name of a command, or nothing. -/
def readHelp : List String → Refusal
  | [] => .help none true
  | name :: rest =>
    match CommandName.ofText? name, rest with
    | some command, [] => .help (some command) true
    | some _, _ :: _ => .unknownCommand
    | none, _ => if name = "help" ∧ rest = [] then .helpAboutHelp else .unknownCommand

/-- Reads the arguments in front of the command, and the command. -/
def readProgram (env : String → Option String) (state : State) :
    List String → Except Refusal Invocation
  | [] =>
    if state.found.isEmpty then .error .nothingGiven else .error .missingCommand
  | text :: rest =>
    if state.escaped then
      if text = "help" ∨ (CommandName.ofText? text).isSome then .error .unknownArgument
      else .error .unknownCommand
    else
      match CommandName.ofText? text with
      | some command => do
        let found ← readCommand command env rest
        let inner := found.count verboseArg
        return {
          verbose := if inner = 0 then state.found.count verboseArg else inner
          command := found.command command }
      | none =>
        if text = "help" then .error (readHelp rest)
        else
          match text.toList with
          | '-' :: _ :: _ => do
            readProgram env (← state.read none globalArgs text) rest
          | _ => .error .unknownCommand

/-- Reads a command line without the name of the program. -/
def parse (env : String → Option String) (args : List String) : Except Refusal Invocation :=
  readProgram env {} args

end ImportCycles.CommandLine
