import ImportCycles.CommandLine.Help
import ImportCycles.CommandLine.Parse
import ImportCycles.Execution
import ImportCycles.Progress

/-! # The program

From a command line and what surrounds it to everything that the program writes.
-/

namespace ImportCycles.CommandLine

/-- What surrounds a run of the program. -/
structure Surroundings where
  disk : Disk
  /-- The variables of the environment. -/
  env : String → Option String := fun _ => none
  /-- Does somebody watch the messages at a terminal? -/
  watched : Bool := false

/-- What a run of the program leaves behind. -/
structure Outcome where
  exitCode : Nat := 0
  /-- The results. -/
  output : String := ""
  /-- The messages. -/
  messages : String := ""
  disk : Disk

/-- What is wrong with a command line. -/
def Refusal.message : Refusal → String
  | .help .. | .helpAboutHelp | .version | .nothingGiven => ""
  | .missingCommand => "a subcommand is required"
  | .unknownCommand => "unrecognized subcommand"
  | .unknownArgument => "unexpected argument"
  | .missingArgument => "a required argument was not provided"
  | .badValue => "invalid value"
  | .badNumber => "a value is not a number"
  | .repeated => "an argument was given more than once"
  | .unwantedValue => "a value was given to an argument that takes none"

/-- What the program does about a command line that asks for no command. The help and the version
are results; everything else is a mistake. -/
def Refusal.outcome (around : Surroundings) (refusal : Refusal) : Outcome :=
  match refusal with
  | .help command long => { disk := around.disk, output := helpText around.env long command }
  | .helpAboutHelp => { disk := around.disk, output := helpHelpText }
  | .version => { disk := around.disk, output := programName ++ " " ++ programVersion ++ "\n" }
  | .nothingGiven =>
    { disk := around.disk, exitCode := 2, messages := helpText around.env false none }
  | refusal =>
    { disk := around.disk, exitCode := 2
      messages := "error: " ++ refusal.message ++ "\n\nFor more information, try '--help'.\n" }

/-- What the program writes when a command was carried out. -/
def outcomeOf (around : Surroundings) (execution : Execution) : Outcome :=
  let told := Progress.transcript around.watched execution.events
  match execution.failure with
  | some failure =>
    { disk := execution.disk, exitCode := 1, output := execution.output
      messages := told ++ failure.report }
  | none =>
    { disk := execution.disk, exitCode := if execution.alarming then 1 else 0
      output := execution.output, messages := told }

/-- Runs the program. -/
def run (around : Surroundings) (args : List String) : Outcome :=
  match parse around.env args with
  | .error refusal => refusal.outcome around
  | .ok invocation => outcomeOf around (invocation.command.perform around.disk)

end ImportCycles.CommandLine
