import ImportCycles.Config.Settings
import ImportCycles.Drawing
import ImportCycles.Report

/-! # Commands and their options

A command is what the command line asks for. Its options add the settings, and are put together
field by field: every field has to be given.
-/

namespace ImportCycles

/-- What the command line asks for. -/
inductive Command where
  /-- Report the circular imports of a project. -/
  | inspect (common : SharedArgs) (format : Report.Format) (search : SearchArgs)
    (errorOnCycles : Bool)
  /-- List the circular imports through one file. -/
  | spotlight (file : String) (common : SharedArgs) (format : Report.Format)
    (search : SearchArgs)
  /-- Draw the import graph. -/
  | spectacle (common : SharedArgs) (format : Drawing.Format) (output : Option String)
    (highlight : Bool)
  deriving DecidableEq, Repr

/-- A command, and how much the program says about its work. -/
structure Invocation where
  verbose : Nat
  command : Command
  deriving DecidableEq, Repr

/-- A field that has to be given. -/
def requireField {α : Type} (name : String) (value : Option α) : Except Error α :=
  match value with
  | some value => .ok value
  | none => .error (.configuration (.missingField name))

/-- The options of `inspect`. -/
structure InspectOptions where
  settings : Settings
  format : Report.Format
  errorOnCycles : Bool
  maxCycles : Option Nat
  deriving DecidableEq, Repr

/-- Options of `inspect` in the making. -/
structure InspectOptions.Draft where
  settings : Option Settings := none
  format : Option Report.Format := none
  errorOnCycles : Option Bool := none
  maxCycles : Option (Option Nat) := none

/-- The options, if every field is given; the first that is missing is told. -/
def InspectOptions.Draft.complete (draft : Draft) : Except Error InspectOptions := do
  return {
    settings := ← requireField "settings" draft.settings
    format := ← requireField "format" draft.format
    errorOnCycles := ← requireField "error_on_cycles" draft.errorOnCycles
    maxCycles := ← requireField "max_cycles" draft.maxCycles }

/-- The options of `spotlight`. -/
structure SpotlightOptions where
  file : String
  settings : Settings
  format : Report.Format
  maxCycles : Option Nat
  deriving DecidableEq, Repr

/-- Options of `spotlight` in the making. -/
structure SpotlightOptions.Draft where
  file : Option String := none
  settings : Option Settings := none
  format : Option Report.Format := none
  maxCycles : Option (Option Nat) := none

/-- The options, if every field is given; the first that is missing is told. -/
def SpotlightOptions.Draft.complete (draft : Draft) : Except Error SpotlightOptions := do
  return {
    file := ← requireField "file" draft.file
    settings := ← requireField "settings" draft.settings
    format := ← requireField "format" draft.format
    maxCycles := ← requireField "max_cycles" draft.maxCycles }

/-- The options of `spectacle`. -/
structure SpectacleOptions where
  settings : Settings
  format : Drawing.Format
  output : Option String
  highlight : Bool
  deriving DecidableEq, Repr

/-- Options of `spectacle` in the making. -/
structure SpectacleOptions.Draft where
  settings : Option Settings := none
  format : Option Drawing.Format := none
  output : Option (Option String) := none
  highlight : Option Bool := none

/-- The options, if every field is given; the first that is missing is told. -/
def SpectacleOptions.Draft.complete (draft : Draft) : Except Error SpectacleOptions := do
  return {
    settings := ← requireField "settings" draft.settings
    format := ← requireField "format" draft.format
    output := ← requireField "output" draft.output
    highlight := ← requireField "highlight_cycles" draft.highlight }

/-- The options of an `inspect` command. -/
def InspectOptions.ofCommand (disk : Disk) : Command → Except Error InspectOptions
  | .inspect common format search errorOnCycles => do
    let settings ← Settings.ofArgs disk common search
    Draft.complete ⟨some settings, some format, some errorOnCycles, some search.maxCycles⟩
  | _ => .error (.configuration (.wrongCommand "InspectConfig"))

/-- The options of a `spotlight` command. -/
def SpotlightOptions.ofCommand (disk : Disk) : Command → Except Error SpotlightOptions
  | .spotlight file common format search => do
    let settings ← Settings.ofArgs disk common search
    Draft.complete ⟨some file, some settings, some format, some search.maxCycles⟩
  | _ => .error (.configuration (.wrongCommand "SpotlightConfig"))

/-- The options of a `spectacle` command. -/
def SpectacleOptions.ofCommand (disk : Disk) : Command → Except Error SpectacleOptions
  | .spectacle common format output highlight => do
    let settings ← Settings.ofArgs disk common {}
    Draft.complete ⟨some settings, some format, some output, some highlight⟩
  | _ => .error (.configuration (.wrongCommand "SpectacleConfig"))

end ImportCycles
