import ImportCycles.Config.File
import ImportCycles.Resolver
import ImportCycles.Session
import ImportCycles.Text.Blank

/-! # Settings

Where to look, what to look at and how far to search: the command line first, then the configuration
file, then what is usual.
-/

namespace ImportCycles

/-- The arguments that all commands share. -/
structure SharedArgs where
  paths : List String := []
  root : Option String := none
  exclude : List String := []
  extensions : Option (List String) := none
  config : Option String := none
  deriving DecidableEq, Repr, Inhabited

/-- The arguments that limit the search and the report. -/
structure SearchArgs where
  depthLimit : Option Nat := none
  maxCycles : Option Nat := none
  deriving DecidableEq, Repr, Inhabited

/-- The paths to look at: the ones given, or the working directory. -/
def SharedArgs.pathsOrHere (args : SharedArgs) (cwd : Option String) : List String :=
  if args.paths.isEmpty then [cwd.getD "."] else args.paths

/-- The settings of a command. -/
structure Settings where
  paths : List String := ["."]
  root : Option String := none
  depthLimit : Nat := defaultDepthLimit
  extensions : List String := defaultExtensions
  exclude : List String := []
  deriving DecidableEq, Repr, Inhabited

namespace Settings

/-- An extension without the blanks around it and the dots before it. -/
def cleanExtension (extension : String) : String :=
  String.ofList ((Text.trim extension.toList).dropWhile (· = '.'))

/-- The extensions cleaned; what is empty then is dropped. -/
def cleanExtensions (extensions : List String) : List String :=
  (extensions.map cleanExtension).filter (· ≠ "")

/-- The settings from the command line and the configuration file. Patterns of files to leave out
are taken from both. -/
def combine (cwd : Option String) (common : SharedArgs) (search : SearchArgs) (file : ConfigFile) :
    Except Error Settings :=
  let depthLimit := (search.depthLimit <|> file.depthLimit).getD defaultDepthLimit
  let extensions :=
    cleanExtensions ((common.extensions <|> file.extensions).getD defaultExtensions)
  if depthLimit = 0 then .error (.configuration .zeroDepth)
  else if extensions.isEmpty then .error (.configuration .noExtensions)
  else
    .ok { paths := common.pathsOrHere cwd
          root := common.root <|> file.root <|> cwd
          depthLimit
          extensions
          exclude := file.exclude ++ common.exclude }

/-- The settings from the command line and the configuration file it names, or the default one. -/
def ofArgs (disk : Disk) (common : SharedArgs) (search : SearchArgs) : Except Error Settings := do
  combine disk.cwd common search (← ConfigFile.find disk common.config)

end Settings

end ImportCycles
