import ImportCycles.Drawing
import ImportCycles.Report

/-! # The arguments of the program

Which arguments each command takes, what values they accept, which variable of the environment
stands in for them, and what the help says about them.
-/

namespace ImportCycles.CommandLine

/-- The values that an argument accepts. -/
inductive Accepts where
  | anyText
  /-- A path, which is never empty. -/
  | path
  | number
  | oneOf (choices : List String)
  deriving DecidableEq, Repr

/-- What an argument does when it is given. -/
inductive Action where
  /-- Takes one value, and may be given once. -/
  | single (accepts : Accepts)
  /-- Takes a value that commas divide, and may be given again. -/
  | many (accepts : Accepts)
  /-- Says yes, and may be given once. -/
  | flag
  /-- Counts how often it is given. -/
  | count
  | help
  | version
  deriving DecidableEq, Repr

/-- How an argument is written. -/
inductive Form where
  /-- After two dashes, or after one by a letter. -/
  | option (long : String) (short : Option Char)
  /-- By its place alone; `repeats` says that all further places are its too. -/
  | positional (required repeats : Bool)
  deriving DecidableEq, Repr

/-- An argument of a command. -/
structure Arg where
  /-- The name by which its values are found. -/
  id : String
  form : Form
  action : Action
  /-- What stands for the value in the help. -/
  valueName : String := ""
  about : String
  env : Option String := none
  default : Option String := none
  deriving DecidableEq, Repr

/-- The commands of the program. -/
inductive CommandName where
  | inspect
  | spotlight
  | spectacle
  deriving DecidableEq, Repr

/-- All commands. -/
def CommandName.all : List CommandName := [.inspect, .spotlight, .spectacle]

/-- A command as it is written. -/
def CommandName.text : CommandName → String
  | .inspect => "inspect"
  | .spotlight => "spotlight"
  | .spectacle => "spectacle"

/-- The command with the given name. -/
def CommandName.ofText? (text : String) : Option CommandName :=
  all.find? (·.text = text)

/-- How much the program says about its work. -/
def verboseArg : Arg where
  id := "verbose"
  form := .option "verbose" (some 'v')
  action := .count
  about := "Increase log verbosity (-v info, -vv debug, -vvv trace)"

/-- Shows the help. -/
def helpArg : Arg where
  id := "help"
  form := .option "help" (some 'h')
  action := .help
  about := "Print help"

/-- Shows the version. -/
def versionArg : Arg where
  id := "version"
  form := .option "version" (some 'V')
  action := .version
  about := "Print version"

/-- Where to look. -/
def pathsArg : Arg where
  id := "paths"
  form := .positional false true
  action := .many .path
  valueName := "PATH"
  about := "Files or directories to lint (defaults to current directory)"

/-- The file that `spotlight` examines. -/
def fileArg : Arg where
  id := "file"
  form := .positional true false
  action := .single .path
  valueName := "FILE"
  about := "The file to examine"
  env := some "LOOP_DE_LOOP_FILE"

/-- The directory that shown paths are relative to. -/
def rootArg : Arg where
  id := "root"
  form := .option "root" none
  action := .single .path
  valueName := "DIR"
  about := "Directory that reported paths are shown relative to"
  env := some "LOOP_DE_LOOP_ROOT"

/-- The patterns of files to leave out. -/
def excludeArg : Arg where
  id := "exclude"
  form := .option "exclude" none
  action := .many .anyText
  valueName := "GLOB"
  about := "Glob of files to leave out (repeatable)"
  env := some "LOOP_DE_LOOP_EXCLUDE"

/-- The extensions of sources. -/
def extensionsArg : Arg where
  id := "extensions"
  form := .option "extensions" none
  action := .many .anyText
  valueName := "LIST"
  about := "Source file extensions, comma separated"
  env := some "LOOP_DE_LOOP_EXTENSIONS"

/-- The configuration file. -/
def configArg : Arg where
  id := "config"
  form := .option "config" none
  action := .single .path
  valueName := "FILE"
  about := "Configuration file (defaults to ./loop-de-loop.toml when present)"
  env := some "LOOP_DE_LOOP_CONFIG"

/-- The format of a report. -/
def reportFormatArg : Arg where
  id := "format"
  form := .option "format" (some 'f')
  action := .single (.oneOf (Report.Format.all.map (·.name)))
  valueName := "FORMAT"
  about := "Output format"
  env := some "LOOP_DE_LOOP_FORMAT"
  default := some "human"

/-- The greatest length of a cycle. -/
def depthLimitArg : Arg where
  id := "depth_limit"
  form := .option "depth-limit" none
  action := .single .number
  valueName := "N"
  about := "Longest cycle, in imports, to look for"
  env := some "LOOP_DE_LOOP_DEPTH_LIMIT"

/-- The greatest number of cycles to show. -/
def maxCyclesArg : Arg where
  id := "max_cycles"
  form := .option "max-cycles" none
  action := .single .number
  valueName := "MAX_CYCLES"
  about := "Maximum number of cycles to display (shows all by default)"
  env := some "LOOP_DE_LOOP_MAX_CYCLES"

/-- Whether cycles make the program fail. -/
def errorOnCyclesArg : Arg where
  id := "error_on_cycles"
  form := .option "error-on-cycles" none
  action := .flag
  about := "Exit with error code if cycles found"
  env := some "LOOP_DE_LOOP_ERROR_ON_CYCLES"

/-- The format of a drawing. -/
def drawingFormatArg : Arg where
  id := "format"
  form := .option "format" (some 'f')
  action := .single (.oneOf (Drawing.Format.all.map (·.name)))
  valueName := "FORMAT"
  about := "Graph format"
  env := some "LOOP_DE_LOOP_GRAPH_FORMAT"
  default := some "ascii"

/-- Where a drawing is written to. -/
def outputArg : Arg where
  id := "output"
  form := .option "output" (some 'o')
  action := .single .path
  valueName := "OUTPUT"
  about := "Output file (stdout if not specified)"
  env := some "LOOP_DE_LOOP_OUTPUT"

/-- Whether cycles are marked in a drawing. -/
def highlightArg : Arg where
  id := "highlight_cycles"
  form := .option "highlight-cycles" none
  action := .single (.oneOf ["true", "false"])
  valueName := "HIGHLIGHT_CYCLES"
  about := "Highlight cycles in the graph"
  env := some "LOOP_DE_LOOP_HIGHLIGHT_CYCLES"
  default := some "true"

/-- The options that all commands share, in the order of the help. -/
def commonOptions : List Arg :=
  [rootArg, verboseArg, excludeArg, extensionsArg, configArg]

/-- The arguments in front of all commands. -/
def globalArgs : List Arg := [verboseArg, helpArg, versionArg]

/-- The arguments of a command: those with a place first, then the options in the help's order. -/
def CommandName.args : CommandName → List Arg
  | .inspect =>
    [pathsArg] ++ commonOptions ++
      [reportFormatArg, depthLimitArg, maxCyclesArg, errorOnCyclesArg, helpArg]
  | .spotlight =>
    [fileArg, pathsArg] ++ commonOptions ++
      [reportFormatArg, depthLimitArg, maxCyclesArg, helpArg]
  | .spectacle =>
    [pathsArg] ++ commonOptions ++ [drawingFormatArg, outputArg, highlightArg, helpArg]

/-- What a command does, in a few words. -/
def CommandName.about : CommandName → String
  | .inspect => "Inspect the track for loops"
  | .spotlight => "Put a spotlight on every loop through one file"
  | .spectacle => "Create a spectacular picture of the import graph"

/-- What a command does, at length. -/
def CommandName.longAbout : CommandName → String
  | .inspect =>
    "Lint source files for circular imports. Files are discovered below the given paths, their " ++
    "import statements are resolved to project files, and the resulting import graph is checked " ++
    "incrementally as each file is added. A cycle is reported from the first of its files to " ++
    "close it, with the full chain of files in the message."
  | .spotlight =>
    "List the circular imports involving a specific file, the shortest one through each of its " ++
    "imports and importers. The import graph is built from all discovered sources first, so the " ++
    "answer does not depend on the order files were linted in, and no cycle is hidden because " ++
    "another member already reported it."
  | .spectacle =>
    "Generate a visual import graph as ASCII art, a Mermaid diagram or a Graphviz DOT file. " ++
    "Files that take part in a circular import, and the imports between them, are highlighted."

/-- What the program is called. -/
def programName : String := "loop-de-loop"

/-- Which version of the program this is. -/
def programVersion : String := "0.1.0"

/-- What the program does, in a few words. -/
def programAbout : String := "🎢 Find circular imports in TypeScript and JavaScript projects"

/-- What the program does, at length. -/
def programLongAbout : String :=
  "loop-de-loop follows the import statements of your TypeScript and JavaScript sources, builds " ++
  "the import graph file by file, and reports every circular import once, pointing at the " ++
  "statement that closes the loop."

end ImportCycles.CommandLine
