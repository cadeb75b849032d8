import ImportCycles.Report.Github
import ImportCycles.Report.Human
import ImportCycles.Report.Json
import ImportCycles.Report.Junit

/-! # Reports

The formats in which the cycles of a run are written.
-/

namespace ImportCycles

namespace Report

/-- The formats of a report. -/
inductive Format where
  | human
  | json
  | junit
  | github
  deriving DecidableEq, Repr

/-- The name of a format. -/
def Format.name : Format → String
  | .human => "human"
  | .json => "json"
  | .junit => "junit"
  | .github => "github"

/-- All formats. -/
def Format.all : List Format := [.human, .json, .junit, .github]

/-- A report in a format. The style matters for people only. -/
def write (format : Format) (style : HumanStyle) (report : LintReport) : String :=
  match format with
  | .human => human style report
  | .json => json report
  | .junit => junit report
  | .github => github report

end Report

end ImportCycles
